import Mathlib.Data.List.Basic
import Verbatim.FormerReading
import Verbatim.PendingInput

/-!
# Starting afresh

A host feeds lines and may give up at any time.  Whatever it did before, a line that
is answered by a literal, or by a failure that the input is to blame for, leaves
nothing behind, and what comes later is what would come of it at the very beginning.
`answers_start_afresh` says so for every run.

A failure of the machinery is the exception.  A position outside of the text, an observer
that fails, or a listener that raises a warning leaves the lines pending, and the next line
is read behind them.
-/

namespace Verbatim

namespace PendingInput

/-- What a host does with pending input. -/
inductive Call where
  | feed (line : Text) (offset? : Option Int)
  | reset
  deriving DecidableEq, Repr

/-- What comes of a call.  A reset says nothing and leaves nothing pending. -/
def perform (reader : Reader) (pending : PendingInput) : Call → Feeding
  | .feed line offset? => pending.feed reader line offset?
  | .reset => ⟨[], .ok none, fresh⟩

/-- What comes of calls one after another. -/
def answers (reader : Reader) (pending : PendingInput) : List Call → List Feeding
  | [] => []
  | call :: later =>
      let feeding := pending.perform reader call
      feeding :: answers reader feeding.next later

/-- What is pending after calls. -/
def after (reader : Reader) (pending : PendingInput) : List Call → PendingInput
  | [] => pending
  | call :: later => after reader (pending.perform reader call).next later

/-- Without lines, nothing else is left over either. -/
def Settled (pending : PendingInput) : Prop :=
  pending.awaitsMore = false → pending = fresh

section Feeding

variable (reader : Reader) (pending : PendingInput) (line : Text) (offset? : Option Int)

theorem awaitsMore_gather :
    (pending.gather reader.dialect line offset?).awaitsMore = true := by
  simp [awaitsMore, gather]

/-- The answers to a line, and what each of them leaves pending. -/
theorem feed_cases :
    (∃ literal, (pending.feed reader line offset?).result = .ok (some literal) ∧
        (pending.feed reader line offset?).next = fresh) ∨
      ((pending.feed reader line offset?).result = .ok none ∧
        (pending.feed reader line offset?).next =
          pending.gather reader.dialect line offset?) ∨
      ∃ failure, (pending.feed reader line offset?).result = .error failure ∧
        (pending.feed reader line offset?).next =
          if failure.blamesInput then fresh
          else pending.gather reader.dialect line offset? := by
  simp only [feed]
  split
  · next literal _ => exact .inl ⟨literal, rfl, rfl⟩
  · exact .inr (.inl ⟨rfl, rfl⟩)
  · next failure _ _ => exact .inr (.inr ⟨failure, rfl, rfl⟩)

/-- A line leaves nothing behind, or everything. -/
theorem next_feed_eq :
    (pending.feed reader line offset?).next = fresh ∨
      (pending.feed reader line offset?).next =
        pending.gather reader.dialect line offset? := by
  rcases feed_cases reader pending line offset? with
    ⟨_, _, next⟩ | ⟨_, next⟩ | ⟨failure, _, next⟩
  · exact .inl next
  · exact .inr next
  · cases blamed : failure.blamesInput with
    | true => exact .inl (by simpa [blamed] using next)
    | false => exact .inr (by simpa [blamed] using next)

/-- Something is pending after a line that asks for more, and after one on which the
machinery failed. -/
theorem awaitsMore_feed_iff :
    (pending.feed reader line offset?).next.awaitsMore = true ↔
      (pending.feed reader line offset?).result = .ok none ∨
        ∃ failure, (pending.feed reader line offset?).result = .error failure ∧
          failure.blamesInput = false := by
  have gathered := awaitsMore_gather reader pending line offset?
  rcases feed_cases reader pending line offset? with
    ⟨literal, result, next⟩ | ⟨result, next⟩ | ⟨failure, result, next⟩
  · rw [result, next]
    simp [awaitsMore, fresh]
  · rw [result, next]
    simp [gathered]
  · rw [result, next]
    cases blamed : failure.blamesInput with
    | true => simp [awaitsMore, fresh, blamed]
    | false => simp [gathered, blamed]

end Feeding

section Runs

variable (reader : Reader)

theorem settled_fresh : Settled fresh :=
  fun _ => rfl

/-- After any call there are lines, or nothing is left over. -/
theorem settled_perform (pending : PendingInput) (call : Call) :
    (pending.perform reader call).next.Settled := by
  cases call with
  | reset => exact settled_fresh
  | feed line offset? =>
      intro nothing
      rcases next_feed_eq reader pending line offset? with next | next
      · exact next
      · have awaits := awaitsMore_gather reader pending line offset?
        rw [← next] at awaits
        exact absurd (awaits.symm.trans nothing) Bool.noConfusion

theorem settled_after {pending : PendingInput} (settled : pending.Settled)
    (calls : List Call) : (pending.after reader calls).Settled := by
  induction calls generalizing pending with
  | nil => exact settled
  | cons call later induction => exact induction (settled_perform reader pending call)

theorem after_append (pending : PendingInput) (before later : List Call) :
    pending.after reader (before ++ later) = (pending.after reader before).after reader later := by
  induction before generalizing pending with
  | nil => rfl
  | cons call before induction => exact induction _

theorem answers_append (pending : PendingInput) (before later : List Call) :
    pending.answers reader (before ++ later) =
      pending.answers reader before ++ (pending.after reader before).answers reader later := by
  induction before generalizing pending with
  | nil => rfl
  | cons call before induction => exact congrArg (_ :: ·) (induction _)

/-- Where nothing is pending, a run goes on as if it began there. -/
theorem answers_append_of_not_awaitsMore {before : List Call}
    (nothing : (fresh.after reader before).awaitsMore = false) (later : List Call) :
    fresh.answers reader (before ++ later) =
      fresh.answers reader before ++ fresh.answers reader later := by
  have settled := settled_after reader settled_fresh before
  rw [answers_append, settled nothing]

end Runs

/-- After whatever calls, a line leaves something pending if it asks for more or if the
machinery fails on it, and then all that was gathered.  Otherwise the run goes on as if
it began behind that line. -/
theorem answers_start_afresh (reader : Reader) (before : List Call) (line : Text)
    (offset? : Option Int) (later : List Call) :
    let pending := fresh.after reader before
    let feeding := pending.feed reader line offset?
    (feeding.next.awaitsMore = true ↔
      feeding.result = .ok none ∨
        ∃ failure, feeding.result = .error failure ∧ failure.blamesInput = false) ∧
    (feeding.next.awaitsMore = true →
      feeding.next = pending.gather reader.dialect line offset?) ∧
    (feeding.next.awaitsMore = false →
      feeding.next = fresh ∧
      fresh.answers reader (before ++ .feed line offset? :: later) =
        fresh.answers reader before ++ feeding :: fresh.answers reader later) := by
  intro pending feeding
  have settled : feeding.next.Settled := settled_perform reader pending (.feed line offset?)
  refine ⟨awaitsMore_feed_iff reader pending line offset?, ?_, ?_⟩
  · intro awaits
    rcases next_feed_eq reader pending line offset? with next | next
    · have nothing : feeding.next.awaitsMore = false := congrArg awaitsMore next
      exact absurd (awaits.symm.trans nothing) Bool.noConfusion
    · exact next
  · intro nothing
    refine ⟨settled nothing, ?_⟩
    have behind : fresh.after reader (before ++ [.feed line offset?]) = feeding.next :=
      after_append reader fresh before [.feed line offset?]
    have restarted := answers_append_of_not_awaitsMore reader (behind ▸ nothing) later
    rw [answers_append reader fresh before, List.append_assoc, List.append_assoc] at restarted
    exact restarted

/-- Where warnings are taken for errors, a literal that deserves one stays pending. -/
example :
    let reader : Reader := ⟨.standard, [FormerReading.observer .unnamed 4], .severe⟩
    let literal := ['"', '"', '"', '"', '\n', '"', '"', '"', '"', '\n']
    let warning := FormerReading.warning .unnamed ⟨4, [], [], [], '"', 0, 9⟩
    let feeding := fresh.feed reader literal none
    feeding.result = .error (.raisedWarning (warning.render none)) ∧
      feeding.next = ⟨[literal], 0⟩ := by
  decide +kernel

/-- An observer that fails on a whole literal, and an offset in front of the text: both
failures leave their lines pending. -/
theorem not_fresh_after_failing_machinery :
    let reader : Reader := ⟨.standard, [.unimplemented], .tolerant⟩
    let literal := ['"', '"', '"', '\n', '"', '"', '"', '\n']
    let opening := ['"', '"', '"', '\n']
    let observed := fresh.feed reader literal none
    let astray := fresh.feed reader opening (some (-5))
    observed.result = .error .unimplementedObserver ∧ observed.next = ⟨[literal], 0⟩ ∧
      astray.result = .error (.outOfRange (-5)) ∧ astray.next = ⟨[opening], -5⟩ ∧
      observed.next ≠ fresh ∧ astray.next ≠ fresh := by
  intro reader literal opening observed astray
  refine ⟨?_, ?_, ?_, ?_, ?_, ?_⟩ <;> decide +kernel

end PendingInput

end Verbatim
