import Verbatim.Command.Extraction
import Verbatim.PendingInput

/-!
# Interactive sessions

A session reads literals that are typed line by line.  Each line gets its line
feed back and joins what is pending; the prompt tells whether anything is.  A
literal is answered by its value, a malformed one by a picture of the lines it was
typed on, and input without a marker by a message.  A session ends where its input
ends.
-/

namespace Verbatim.Command

/-- Something that a session says. -/
inductive Utterance where
  | prompt (pending : Bool)
  | value (text : Text)
  | diagnostic (text : Text)
  | warning (text : Text)
  | farewell
  deriving DecidableEq, Repr

namespace Utterance

def output : Utterance → Text
  | .prompt pending => if pending then "... ".toList else ">>> ".toList
  | .value text => quoted text ++ ['\n']
  | .farewell => ['\n']
  | .diagnostic _ | .warning _ => []

def diagnostics : Utterance → Text
  | .diagnostic text => text ++ ['\n']
  | _ => []

def warning? : Utterance → Option Text
  | .warning text => some text
  | _ => none

end Utterance

namespace Session

/-- The reader of a session.  Issues become warnings. -/
def reader (options : Options) (dialect : Dialect) : Reader :=
  ⟨dialect, options.observers .unnamed, .strict⟩

def warningOf? : Event → Option Utterance
  | .warning issue => some (.warning (issue.render none))
  | _ => none

/-- What a session says about what came of a line.  `typed` is all that the literal
was typed on so far. -/
def answer (typed : Text) : Except Failure (Option Literal) → List Utterance
  | .ok none => []
  | .ok (some literal) => [.value literal.value]
  | .error (.malformed malformation) =>
      [.diagnostic ((Source.ofText typed).explain malformation)]
  | .error failure => [.diagnostic failure.message]

/-- What a session says to a line, and what is pending afterwards. -/
def respond (reader : Reader) (pending : PendingInput) (line : Text) :
    List Utterance × PendingInput :=
  let fed := line ++ ['\n']
  let feeding := pending.feed reader fed none
  (feeding.events.filterMap warningOf? ++ answer (pending.text ++ fed) feeding.result,
    feeding.next)

/-- Everything a session says while lines are typed, and at the end of input. -/
def transcript (reader : Reader) (pending : PendingInput) :
    List Text → List Utterance
  | [] => [.prompt pending.awaitsMore, .farewell]
  | line :: later =>
      let (utterances, next) := respond reader pending line
      .prompt pending.awaitsMore :: utterances ++ transcript reader next later

/-- The outcome of a session in which the lines are typed. -/
def outcome (reader : Reader) (lines : List Text) : Outcome :=
  let utterances := transcript reader .fresh lines
  { output := utterances.flatMap Utterance.output
    diagnostics := utterances.flatMap Utterance.diagnostics
    warnings := utterances.filterMap Utterance.warning?
    completion := .finished 0 }

end Session

end Verbatim.Command
