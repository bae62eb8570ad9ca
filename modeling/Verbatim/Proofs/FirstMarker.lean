import Verbatim.Proofs.Runs

/-!
# The first marker of a text

A marker stands wherever three equal quote characters do.  `TripleAt` says so
place by place, and `nextOpening?` finds the first such place from an offset on.

A search that begins inside a run would find the rest of that run.  It does not
where a `RunBreak` lies at the offset, and then every marker found is a whole
one: a maximal run, with no further copy of its character on either side.
-/

namespace Verbatim

/-- Three equal quote characters stand at a position. -/
def TripleAt (quotes text : Text) (position : Nat) : Prop :=
  ∃ quote ∈ quotes, text[position]? = some quote ∧ text[position + 1]? = some quote ∧
    text[position + 2]? = some quote

/-- A maximal run of three or more quote characters begins at a position. -/
def WholeMarkerAt (quotes text : Text) (start : Nat) : Prop :=
  ∃ quote ∈ quotes, ∃ length, minimumMarkerLength ≤ length ∧
    RunAt text start quote length ∧
    ∀ before, start = before + 1 → text[before]? ≠ some quote

/-- No run goes on across an offset. -/
def RunBreak (text : Text) (offset : Nat) : Prop :=
  ∀ before, offset = before + 1 → text[before]? ≠ text[offset]?

section Triples

variable {quotes text : Text}

theorem TripleAt.lt_length {position : Nat} (triple : TripleAt quotes text position) :
    position < text.length := by
  obtain ⟨quote, _, first, _⟩ := triple
  exact (List.getElem?_eq_some_iff.mp first).1

theorem tripleAt_drop_iff {offset index : Nat} :
    TripleAt quotes (text.drop offset) index ↔ TripleAt quotes text (offset + index) := by
  simp [TripleAt, List.getElem?_drop, Nat.add_assoc]

/-- Three equal quote characters at the beginning are a run that is long enough. -/
theorem tripleAt_zero_iff {char : Char} {rest : Text} :
    TripleAt quotes (char :: rest) 0 ↔
      quotes.contains char ∧ minimumMarkerLength ≤ leadingRun char (char :: rest) := by
  constructor
  · rintro ⟨quote, isQuote, first, second, third⟩
    obtain rfl : char = quote := by simpa using first
    refine ⟨by simpa using isQuote, le_leadingRun_iff.mpr ?_⟩
    intro index inside
    simp only [minimumMarkerLength] at inside
    obtain rfl | rfl | rfl : index = 0 ∨ index = 1 ∨ index = 2 := by omega
    · exact first
    · exact second
    · exact third
  · rintro ⟨isQuote, longEnough⟩
    have copies := le_leadingRun_iff.mp longEnough
    simp only [minimumMarkerLength] at copies
    exact ⟨char, by simpa using isQuote, copies 0 (by omega), copies 1 (by omega),
      copies 2 (by omega)⟩

end Triples

section Search

variable {quotes text : Text}

theorem not_tripleAt_of_nextOpening?_eq_none {position : Nat}
    (none : nextOpening? quotes position text = none) (index : Nat) :
    ¬ TripleAt quotes text index := by
  induction text generalizing position index with
  | nil =>
      intro triple
      exact absurd triple.lt_length (Nat.not_lt_zero _)
  | cons char rest induction =>
      unfold nextOpening? at none
      split at none
      · cases none
      · next isMarker =>
          cases index with
          | zero => rwa [tripleAt_zero_iff]
          | succ index => exact induction none index

/-- The first marker of a text stands at the first three equal quote characters,
and reaches as far as their run. -/
theorem exists_of_nextOpening?_eq_some {position : Nat} {opening : Opening}
    (found : nextOpening? quotes position text = some opening) :
    ∃ index : Nat, opening.start = position + index ∧ opening.quote ∈ quotes ∧
      minimumMarkerLength ≤ opening.length ∧
      RunAt text index opening.quote opening.length ∧
      ∀ earlier, earlier < index → ¬ TripleAt quotes text earlier := by
  induction text generalizing position with
  | nil => simp [nextOpening?] at found
  | cons char rest induction =>
      unfold nextOpening? at found
      split at found
      · next isMarker =>
          cases found
          refine ⟨0, by simp, by simpa using isMarker.1, isMarker.2,
            runAt_iff_leadingRun_eq.mpr rfl, ?_⟩
          intro earlier before
          exact absurd before (Nat.not_lt_zero _)
      · next isMarker =>
          obtain ⟨index, start, isQuote, longEnough, run, first⟩ := induction found
          have later : RunAt (char :: rest) (index + 1) opening.quote opening.length := by
            rw [runAt_iff_leadingRun_eq] at run ⊢
            exact run
          refine ⟨index + 1, by omega, isQuote, longEnough, later, ?_⟩
          intro earlier before
          cases earlier with
          | zero => rwa [tripleAt_zero_iff]
          | succ earlier => exact first earlier (by omega)

theorem not_tripleAt_of_nextOpening?_drop_eq_none {offset : Nat}
    (none : nextOpening? quotes offset (text.drop offset) = none) :
    ∀ position, offset ≤ position → ¬ TripleAt quotes text position := by
  intro position behind
  have absent := not_tripleAt_of_nextOpening?_eq_none none (position - offset)
  rwa [tripleAt_drop_iff, Nat.add_sub_cancel' behind] at absent

theorem exists_of_nextOpening?_drop_eq_some {offset : Nat} {opening : Opening}
    (found : nextOpening? quotes offset (text.drop offset) = some opening) :
    ∃ start : Nat, opening.start = start ∧ offset ≤ start ∧ opening.quote ∈ quotes ∧
      minimumMarkerLength ≤ opening.length ∧
      RunAt text start opening.quote opening.length ∧
      ∀ position, offset ≤ position → position < start → ¬ TripleAt quotes text position := by
  obtain ⟨index, start, isQuote, longEnough, run, first⟩ :=
    exists_of_nextOpening?_eq_some found
  refine ⟨offset + index, by omega, Nat.le_add_right _ _, isQuote, longEnough, ?_, ?_⟩
  · rw [runAt_iff_leadingRun_eq] at run ⊢
    rwa [List.drop_drop] at run
  · intro position behind before
    have absent := first (position - offset) (by omega)
    rwa [tripleAt_drop_iff, Nat.add_sub_cancel' behind] at absent

end Search

section Breaks

variable {quotes text : Text}

theorem runBreak_zero (text : Text) : RunBreak text 0 := by
  intro before impossible
  cases impossible

/-- A run ends where the text goes on with another character. -/
theorem runBreak_of_drop_eq {offset : Nat} {front following : Text} {quote : Char}
    (shape : text.drop offset = front ++ quote :: following)
    (boundary : following.head? ≠ some quote) :
    RunBreak text (offset + front.length + 1) := by
  intro before same
  obtain rfl : before = offset + front.length := by omega
  have last : text[offset + front.length]? = some quote := by
    rw [← List.getElem?_drop, shape]
    simp
  have next : text[offset + front.length + 1]? = following.head? := by
    rw [Nat.add_assoc, ← List.getElem?_drop, shape, List.getElem?_append_right (by omega)]
    simp [List.head?_eq_getElem?]
  rw [last, next]
  exact boundary.symm

/-- From a break on, the first run that is long enough is a maximal one: one more
copy in front of it would make three equal characters further ahead. -/
theorem WholeMarkerAt.of_runBreak {offset start : Nat} {quote : Char} {length : Nat}
    (broken : RunBreak text offset) (ahead : offset ≤ start)
    (first : ∀ position, offset ≤ position → position < start → ¬ TripleAt quotes text position)
    (isQuote : quote ∈ quotes) (longEnough : minimumMarkerLength ≤ length)
    (run : RunAt text start quote length) : WholeMarkerAt quotes text start := by
  simp only [minimumMarkerLength] at longEnough
  have here := run.1 0 (by omega)
  have next := run.1 1 (by omega)
  refine ⟨quote, isQuote, length, longEnough, run, ?_⟩
  rintro before rfl copy
  rcases Nat.eq_or_lt_of_le ahead with rfl | inside
  · exact broken before rfl (copy.trans here.symm)
  · exact first before (by omega) (by omega) ⟨quote, isQuote, copy, here, next⟩

end Breaks

end Verbatim
