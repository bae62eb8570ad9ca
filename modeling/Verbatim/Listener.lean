import Verbatim.Attempt
import Verbatim.Observer

/-!
# Listeners and events

A listener decides what becomes of a malformed literal.  It may let the reader go
on at the next plausible place, or raise the failure, which ends the reading.  It
also hears of issues.  It may pass them on as warnings, or raise a failure of its
own, which keeps the observer from reporting more.

What happened during a reading is a list of events.  A listener that keeps a
record enters everything it hears of, before it acts.
-/

namespace Verbatim

inductive Event where
  | literal (literal : Literal)
  | misindented (malformation : Malformation) (block : Block)
  | badOpening (malformation : Malformation)
  | unterminated (malformation : Malformation)
  | issue (issue : Issue)
  | warning (issue : Issue)
  deriving DecidableEq, Repr

structure Listener where
  records : Bool
  raisesBadOpening : Bool
  raisesUnterminated : Bool
  raisesMisindented : Bool
  warns : Bool
  /-- What is raised at an issue, if anything is.  Such an issue is not passed on. -/
  raisedAt? : Issue → Option Failure

/-- Events, and the failure that was raised after them, if one was. -/
structure Response where
  events : List Event
  failure? : Option Failure
  deriving DecidableEq, Repr

/-- One response and then, unless it ended in a failure, another. -/
def Response.andThen (first second : Response) : Response :=
  match first.failure? with
  | some _ => first
  | none => { second with events := first.events ++ second.events }

@[simp] theorem Response.andThen_of_none (events : List Event) (second : Response) :
    andThen ⟨events, none⟩ second = ⟨events ++ second.events, second.failure?⟩ :=
  rfl

@[simp] theorem Response.andThen_of_some (events : List Event) (failure : Failure)
    (second : Response) :
    andThen ⟨events, some failure⟩ second = ⟨events, some failure⟩ :=
  rfl

@[simp] theorem Response.andThen_nothing (response : Response) :
    response.andThen ⟨[], none⟩ = response := by
  obtain ⟨events, _ | failure⟩ := response <;> simp

theorem Response.andThen_assoc (first second third : Response) :
    (first.andThen second).andThen third = first.andThen (second.andThen third) := by
  obtain ⟨_, _ | failure⟩ := first
  · obtain ⟨_, _ | failure⟩ := second <;> simp
  · simp

namespace Listener

/-- A listener that records everything and raises nothing. -/
def tolerant : Listener where
  records := true
  raisesBadOpening := false
  raisesUnterminated := false
  raisesMisindented := false
  warns := false
  raisedAt? _ := none

/-- A listener that records nothing, raises every failure and passes every issue
on as a warning. -/
def strict : Listener where
  records := false
  raisesBadOpening := true
  raisesUnterminated := true
  raisesMisindented := true
  warns := true
  raisedAt? _ := none

/-- The strict listener where warnings are taken for errors. -/
def severe : Listener :=
  { strict with raisedAt? := fun issue => some (.raisedWarning (issue.render none)) }

def record (listener : Listener) (event : Event) : List Event :=
  if listener.records then [event] else []

/-- What happens when an observer reports an issue. -/
def hearIssue (listener : Listener) (issue : Issue) : Response :=
  match listener.raisedAt? issue with
  | some failure => ⟨listener.record (.issue issue), some failure⟩
  | none =>
      ⟨listener.record (.issue issue) ++ if listener.warns then [.warning issue] else [],
        none⟩

/-- What happens when an observer reports issues, one after another. -/
def hearIssues (listener : Listener) : List Issue → Response
  | [] => ⟨[], none⟩
  | issue :: later => (listener.hearIssue issue).andThen (listener.hearIssues later)

/-- What happens when an observer has looked at a block, and has failed in the end if it
has. -/
def hearObservation (listener : Listener) (observation : Observation) : Response :=
  (listener.hearIssues observation.issues).andThen ⟨[], observation.failure?⟩

/-- What happens when a literal turns out malformed. -/
def hearMalformation (listener : Listener) (event : Event) (raises : Bool)
    (malformation : Malformation) : Response where
  events := listener.record event
  failure? := if raises then some (.malformed malformation) else none

end Listener

end Verbatim
