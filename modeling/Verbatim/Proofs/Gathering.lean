import Verbatim.PendingInput
import Verbatim.Proofs.Reading

/-!
# Gathering lines

Lines that are fed one after another are gathered until the reader has an answer, and
it reads them again from the beginning each time.  One step of this is what comes of
a line, by what reading answers to all that was gathered.  The run, `exists_asking`,
is the stretch of lines that only ask for more.
-/

namespace Verbatim

/-- Some chunk is the first with which a goal is reached. -/
theorem exists_take_reaching {chunks : List Text} {goal : Nat} (positive : 0 < goal)
    (reached : goal ≤ chunks.flatten.length) :
    ∃ count, count < chunks.length ∧ (chunks.take count).flatten.length < goal ∧
      goal ≤ (chunks.take (count + 1)).flatten.length := by
  induction chunks generalizing goal with
  | nil =>
      rw [List.flatten_nil, List.length_nil] at reached
      omega
  | cons chunk later induction =>
      rw [List.flatten_cons, List.length_append] at reached
      by_cases enough : goal ≤ chunk.length
      · exact ⟨0, by simp, by simpa using positive, by simpa using enough⟩
      · obtain ⟨count, inside, before, behind⟩ :=
          @induction (goal - chunk.length) (by omega) (by omega)
        refine ⟨count + 1, by simpa using inside, ?_, ?_⟩ <;>
          rw [List.take_succ_cons, List.flatten_cons, List.length_append] <;> omega

theorem flatten_eq_take_append_drop (chunks : List Text) (count : Nat) :
    chunks.flatten = (chunks.take count).flatten ++ (chunks.drop count).flatten := by
  rw [← List.flatten_append, List.take_append_drop]

theorem length_flatten_take_le (chunks : List Text) {number count : Nat}
    (fewer : number ≤ count) :
    (chunks.take number).flatten.length ≤ (chunks.take count).flatten.length := by
  have parts := congrArg List.length (flatten_eq_take_append_drop (chunks.take count) number)
  rw [List.take_take, Nat.min_eq_left fewer, List.length_append] at parts
  omega

/-- A feeding that says nothing and waits for the next one. -/
structure Feeding.AsksForMore (feeding : Feeding) : Prop where
  silent : feeding.events = []
  result : feeding.result = .ok none

namespace PendingInput

/-- What comes of feeding lines one after another, each with the offset given for
it. -/
def feedings (reader : Reader) (pending : PendingInput) :
    List (Text × Option Int) → List Feeding
  | [] => []
  | (line, offset?) :: later =>
      let feeding := pending.feed reader line offset?
      feeding :: feedings reader feeding.next later

/-- The input that is pending if no line gets an answer. -/
def gatherAll (dialect : Dialect) (pending : PendingInput) :
    List (Text × Option Int) → PendingInput
  | [] => pending
  | (line, offset?) :: later => gatherAll dialect (pending.gather dialect line offset?) later

section Gathering

variable {dialect : Dialect} {pending : PendingInput}

theorem gatherAll_of_ne_nil (some_line : pending.lines ≠ [])
    (inputs : List (Text × Option Int)) :
    pending.gatherAll dialect inputs =
      ⟨pending.lines ++ inputs.map Prod.fst, pending.offset⟩ := by
  induction inputs generalizing pending with
  | nil => simp [gatherAll]
  | cons input later induction =>
      obtain ⟨line, offset?⟩ := input
      have gathered : pending.gather dialect line offset? =
          ⟨pending.lines ++ [line], pending.offset⟩ := by
        simp [gather, some_line]
      rw [gatherAll, gathered, induction (by simp)]
      simp

/-- The first line settles the offset. -/
theorem gatherAll_of_eq_nil (none_pending : pending.lines = []) (line : Text)
    (offset? : Option Int) (later : List (Text × Option Int)) :
    pending.gatherAll dialect ((line, offset?) :: later) =
      ⟨line :: later.map Prod.fst, offset?.getD (indentationWidth dialect line)⟩ := by
  have gathered : pending.gather dialect line offset? =
      ⟨[line], offset?.getD (indentationWidth dialect line)⟩ := by
    simp [gather, none_pending]
  rw [gatherAll, gathered, gatherAll_of_ne_nil (by simp)]
  rfl

theorem gatherAll_append_singleton (inputs : List (Text × Option Int)) (line : Text)
    (offset? : Option Int) :
    pending.gatherAll dialect (inputs ++ [(line, offset?)]) =
      (pending.gatherAll dialect inputs).gather dialect line offset? := by
  induction inputs generalizing pending with
  | nil => rfl
  | cons input later induction => exact induction

end Gathering

section Steps

variable {reader : Reader} {pending : PendingInput} {line : Text} {offset? : Option Int}

/-- What a reader answers to the input gathered so far. -/
def attempt (reader : Reader) (pending : PendingInput) : Except Failure Literal :=
  readLiteral reader.dialect pending.text pending.offset

theorem feed_of_unterminated {start finish : Int}
    (failed : attempt reader (pending.gather reader.dialect line offset?) =
      .error (.malformed (.unterminated start finish))) :
    pending.feed reader line offset? =
      ⟨[], .ok none, pending.gather reader.dialect line offset?⟩ := by
  simp only [feed, Reader.read_eq_error failed]

theorem feed_of_error {failure : Failure}
    (failed : attempt reader (pending.gather reader.dialect line offset?) = .error failure)
    (final : ∀ start finish, failure ≠ .malformed (.unterminated start finish)) :
    (pending.feed reader line offset?).events = [] ∧
      (pending.feed reader line offset?).result = .error failure := by
  simp only [feed, Reader.read_eq_error failed, and_self]

theorem feed_of_ok {literal : Literal} (accepts : reader.listener.AcceptsIssues)
    (quiet : ∀ observer ∈ reader.observers, observer.ReturnsNormally)
    (found : attempt reader (pending.gather reader.dialect line offset?) = .ok literal) :
    pending.feed reader line offset? =
      ⟨(reader.observe literal.block).events, .ok (some literal), fresh⟩ := by
  have answer := (Reader.read_eq_readLiteral accepts quiet _).trans found
  have events := Reader.events_read_eq_observe found
  unfold feed
  simp only [answer, events]

/-- As long as the gathered input reads as unterminated, every line asks for more,
and the next line is fed to all of it. -/
theorem exists_asking {before : List (Text × Option Int)}
    (awaits : ∀ front, front <+: before → front ≠ [] → ∃ start finish,
      attempt reader (pending.gatherAll reader.dialect front) =
        .error (.malformed (.unterminated start finish)))
    (after : List (Text × Option Int)) :
    ∃ asking : List Feeding, asking.length = before.length ∧
      (∀ feeding ∈ asking, feeding.AsksForMore) ∧
      pending.feedings reader (before ++ after) =
        asking ++ (pending.gatherAll reader.dialect before).feedings reader after := by
  induction before generalizing pending with
  | nil => exact ⟨[], rfl, by simp, rfl⟩
  | cons input later induction =>
      obtain ⟨line, offset?⟩ := input
      obtain ⟨start, finish, failed⟩ := awaits [(line, offset?)]
        (List.cons_prefix_cons.mpr ⟨rfl, List.nil_prefix⟩) (by simp)
      have fed := feed_of_unterminated failed
      have further : ∀ front, front <+: later → front ≠ [] → ∃ start finish,
          attempt reader ((pending.gather reader.dialect line offset?).gatherAll
            reader.dialect front) = .error (.malformed (.unterminated start finish)) := by
        intro front within _
        exact awaits ((line, offset?) :: front)
          (List.cons_prefix_cons.mpr ⟨rfl, within⟩) (by simp)
      obtain ⟨asking, count, asks, rest⟩ := induction further
      refine ⟨pending.feed reader line offset? :: asking, by simp [count], ?_, ?_⟩
      · intro feeding member
        rcases List.mem_cons.mp member with rfl | among
        · rw [fed]
          exact ⟨rfl, rfl⟩
        · exact asks feeding among
      · rw [List.cons_append, feedings, fed, rest]
        rfl

end Steps

theorem length_feedings (reader : Reader) (pending : PendingInput)
    (inputs : List (Text × Option Int)) :
    (pending.feedings reader inputs).length = inputs.length := by
  induction inputs generalizing pending with
  | nil => rfl
  | cons input later induction => simp [feedings, induction]

end PendingInput

end Verbatim
