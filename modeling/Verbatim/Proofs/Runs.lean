import Mathlib.Data.List.TakeWhile
import Verbatim.Marker

/-!
# Runs of one character

A marker is a maximal run: copies of a character that no further copy follows.
`RunAt` states this place by place, without saying how a run is counted.
`runAt_iff_leadingRun_eq` connects it with the counting of `leadingRun`, and
`runAt_iff_drop_eq` with the shape of the text from the offset on.
-/

namespace Verbatim

/-- Exactly `length` copies of a character follow one another from an offset on. -/
def RunAt (text : Text) (offset : Nat) (char : Char) (length : Nat) : Prop :=
  (∀ index, index < length → text[offset + index]? = some char) ∧
    text[offset + length]? ≠ some char

theorem positive_of_longEnough {length : Nat} (longEnough : minimumMarkerLength ≤ length) :
    0 < length :=
  Nat.lt_of_lt_of_le (by decide) longEnough

/-- What follows a list begins at its length. -/
theorem getElem?_length_append {α : Type} (front rest : List α) :
    (front ++ rest)[front.length]? = rest.head? := by
  rw [List.getElem?_append_right (Nat.le_refl _), Nat.sub_self, List.head?_eq_getElem?]

theorem takeWhile_append_of_boundary
    {accepts : Char → Bool} {front rest : Text}
    (inside : ∀ char ∈ front, accepts char = true)
    (boundary : ∀ char ∈ rest.head?, accepts char = false) :
    (front ++ rest).takeWhile accepts = front := by
  have stops : rest.takeWhile accepts = [] := by
    rcases rest with _ | ⟨char, rest⟩
    · rfl
    · exact List.takeWhile_cons_of_neg (by simp [boundary char rfl])
  rw [List.takeWhile_append_of_pos inside, stops, List.append_nil]

theorem dropWhile_append_of_boundary
    {accepts : Char → Bool} {front rest : Text}
    (inside : ∀ char ∈ front, accepts char = true)
    (boundary : ∀ char ∈ rest.head?, accepts char = false) :
    (front ++ rest).dropWhile accepts = rest := by
  have split := List.takeWhile_append_dropWhile (p := accepts) (l := front ++ rest)
  rw [takeWhile_append_of_boundary inside boundary] at split
  exact List.append_cancel_left split

theorem leadingRun_replicate_append
    {char : Char} {rest : Text} (length : Nat)
    (boundary : rest.head? ≠ some char) :
    leadingRun char (List.replicate length char ++ rest) = length := by
  unfold leadingRun
  rw [takeWhile_append_of_boundary]
  · exact List.length_replicate
  · intro other member
    simp [List.eq_of_mem_replicate member]
  · intro other first
    have different : other ≠ char := by
      rintro rfl
      exact boundary first
    simp [different]

theorem exists_eq_replicate_leadingRun_append (char : Char) (text : Text) :
    ∃ rest, text = List.replicate (leadingRun char text) char ++ rest ∧
      rest.head? ≠ some char := by
  have run : text.takeWhile (· = char) = List.replicate (leadingRun char text) char := by
    apply List.eq_replicate_of_mem
    intro other member
    simpa using List.mem_takeWhile_imp member
  refine ⟨text.dropWhile (· = char), ?_, ?_⟩
  · rw [← run]
    exact (List.takeWhile_append_dropWhile).symm
  · intro first
    have stopped := List.head?_dropWhile_not (fun other : Char => decide (other = char)) text
    rw [first] at stopped
    simp at stopped

theorem leadingRun_eq_iff {char : Char} {text : Text} {length : Nat} :
    leadingRun char text = length ↔
      ∃ rest, text = List.replicate length char ++ rest ∧ rest.head? ≠ some char := by
  constructor
  · rintro rfl
    exact exists_eq_replicate_leadingRun_append char text
  · rintro ⟨rest, rfl, boundary⟩
    exact leadingRun_replicate_append length boundary

theorem leadingRun_append {quote : Char} {front tail : Text}
    (apart : tail.head? ≠ some quote) :
    leadingRun quote (front ++ tail) = leadingRun quote front := by
  obtain ⟨rest, shape, boundary⟩ := exists_eq_replicate_leadingRun_append quote front
  apply leadingRun_eq_iff.mpr
  refine ⟨rest ++ tail, ?_, ?_⟩
  · rw [← List.append_assoc, ← shape]
  · cases rest with
    | nil => exact apart
    | cons char rest => exact boundary

/-- A character apart from the run ends it, whatever follows later. -/
theorem leadingRun_append_of_mem {quote other : Char} {front : Text}
    (member : other ∈ front) (different : other ≠ quote) (tail : Text) :
    leadingRun quote (front ++ tail) = leadingRun quote front := by
  obtain ⟨rest, shape, boundary⟩ := exists_eq_replicate_leadingRun_append quote front
  apply leadingRun_eq_iff.mpr
  refine ⟨rest ++ tail, ?_, ?_⟩
  · rw [← List.append_assoc, ← shape]
  · cases rest with
    | nil =>
        rw [shape, List.append_nil] at member
        exact absurd (List.eq_of_mem_replicate member) different
    | cons char rest => exact boundary

theorem runAt_iff_drop_eq {text : Text} {offset : Nat} {char : Char} {length : Nat} :
    RunAt text offset char length ↔
      ∃ rest, text.drop offset = List.replicate length char ++ rest ∧
        rest.head? ≠ some char := by
  constructor
  · intro ⟨copies, ended⟩
    refine ⟨(text.drop offset).drop length, ?_, ?_⟩
    · have run : (text.drop offset).take length = List.replicate length char := by
        apply List.ext_getElem?
        intro index
        by_cases inside : index < length
        · simp [inside, copies index inside]
        · rw [List.getElem?_take_eq_none (by omega)]
          simp [inside]
      rw [← run, List.take_append_drop]
    · simpa [List.head?_drop] using ended
  · rintro ⟨rest, shape, boundary⟩
    have place : ∀ index, text[offset + index]? = (List.replicate length char ++ rest)[index]? := by
      intro index
      rw [← shape, List.getElem?_drop]
    constructor
    · intro index inside
      rw [place, List.getElem?_append_left (by simpa using inside)]
      simp [inside]
    · rw [place, List.getElem?_append_right (by simp)]
      simpa [List.head?_eq_getElem?] using boundary

theorem runAt_iff_leadingRun_eq
    {text : Text} {offset : Nat} {char : Char} {length : Nat} :
    RunAt text offset char length ↔ leadingRun char (text.drop offset) = length := by
  rw [runAt_iff_drop_eq, leadingRun_eq_iff]

theorem le_leadingRun_iff {char : Char} {text : Text} {length : Nat} :
    length ≤ leadingRun char text ↔ ∀ index, index < length → text[index]? = some char := by
  obtain ⟨rest, shape, boundary⟩ := exists_eq_replicate_leadingRun_append char text
  generalize leadingRun char text = run at shape ⊢
  subst shape
  constructor
  · intro within index inside
    have copy : index < run := by omega
    rw [List.getElem?_append_left (by simpa using copy)]
    simp [copy]
  · intro copies
    by_contra beyond
    have next := copies run (by omega)
    rw [List.getElem?_append_right (by simp)] at next
    exact boundary (by simpa [List.head?_eq_getElem?] using next)

end Verbatim
