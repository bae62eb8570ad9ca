import Verbatim.Listener

/-!
# Readers

A reader ties the pipeline together: scan a block, find its value, and let the
observers look at it.  `Reader.read` reads the literal at a position, raising
every failure.  `Reader.extract` goes through all attempts at literals of a text
and leaves malformed ones to the listener.

The attempts depend on the dialect and the text alone.  Observers and listener
only decide which events come of them, and after which attempt to stop.
-/

namespace Verbatim

/-- A dialect, the observers that look at every literal, and the listener. -/
structure Reader where
  dialect : Dialect
  observers : List Observer
  listener : Listener

/-- How an extraction came to its end. -/
inductive Ending where
  /-- No marker remains. -/
  | exhausted
  /-- As many literals were found as were wanted. -/
  | satisfied
  | failed (failure : Failure)
  deriving DecidableEq, Repr

structure Extraction where
  events : List Event
  ending : Ending
  deriving DecidableEq, Repr

/-- The extraction in which some events came first. -/
def Extraction.after (earlier : List Event) (extraction : Extraction) : Extraction :=
  { extraction with events := earlier ++ extraction.events }

/-- What happens when observers look at a block, one after another.  A failure
keeps later observers from looking. -/
def Listener.hearObservers (listener : Listener) (block : Block) : List Observer → Response
  | [] => ⟨[], none⟩
  | observer :: later =>
      (listener.hearObservation (observer.observe block)).andThen
        (listener.hearObservers block later)

namespace Reader

def observe (reader : Reader) (block : Block) : Response :=
  reader.listener.hearObservers block reader.observers

/-- Read the literal whose opening marker stands at the offset.  Failures are
raised at once; the listener hears of issues only. -/
def read (reader : Reader) (text : Text) (offset : Int) :
    List Event × Except Failure Literal :=
  match readLiteral reader.dialect text offset with
  | .error failure => ([], .error failure)
  | .ok literal =>
      let response := reader.observe literal.block
      match response.failure? with
      | some failure => (response.events, .error failure)
      | none => (response.events, .ok literal)

def respond (reader : Reader) : Attempt → Response
  | .literal literal =>
      let response := reader.observe literal.block
      match response.failure? with
      | some _ => response
      | none => { response with events := response.events ++ [.literal literal] }
  | .misindented malformation block =>
      reader.listener.hearMalformation (.misindented malformation block)
        reader.listener.raisesMisindented malformation
  | .badOpening malformation =>
      reader.listener.hearMalformation (.badOpening malformation)
        reader.listener.raisesBadOpening malformation
  | .unterminated malformation =>
      reader.listener.hearMalformation (.unterminated malformation)
        reader.listener.raisesUnterminated malformation
  | .aborted failure => ⟨[], some failure⟩

/-- How many more literals are wanted after an attempt. -/
def remaining (limit : Option Nat) : Attempt → Option Nat
  | .literal _ => limit.map (· - 1)
  | _ => limit

/-- Go through attempts until a failure is raised or no more literals are
wanted. -/
def pursue (reader : Reader) (limit : Option Nat) : List Attempt → Extraction
  | [] => if limit = some 0 then ⟨[], .satisfied⟩ else ⟨[], .exhausted⟩
  | attempt :: later =>
      if limit = some 0 then ⟨[], .satisfied⟩
      else
        let response := reader.respond attempt
        match response.failure? with
        | some failure => ⟨response.events, .failed failure⟩
        | none => (reader.pursue (remaining limit attempt) later).after response.events

/-- Find the literals of a text, all of them or the first few. -/
def extract (reader : Reader) (text : Text) (limit : Option Nat) : Extraction :=
  reader.pursue limit (attempts reader.dialect text)

end Reader

end Verbatim
