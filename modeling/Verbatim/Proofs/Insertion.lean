import Verbatim.Proofs.Lossless

/-!
# Putting a piece into a text

`Text.inserting` puts a piece in front of the characters at some places of a text.  All the
characters of the text are still there: `Text.charAt?_movedPlace` says where, and
`Text.movedPlace_lt_movedPlace` that their order is the same.

A stretch of the text is left as it is when no place lies in it, and the piece goes in
front of it when its first character alone stands at a place.  Every other stretch can be
cut into such ones.
-/

namespace Verbatim

namespace Text

/-- The text with a piece in front of each character that stands at one of the places,
where `position` is the place of the first character. -/
def inserting (piece : Text) (places : List Int) (position : Int) : Text → Text
  | [] => []
  | char :: rest =>
      if position ∈ places then piece ++ char :: inserting piece places (position + 1) rest
      else char :: inserting piece places (position + 1) rest

/-- Where the characters before a position end once the piece has been put in.  A piece in
front of the character at the position comes behind. -/
def movedCut (piece : Text) (places : List Int) (text : Text) (position : Int) : Int :=
  (inserting piece places 0 (text.take position.toNat)).length

/-- Where the character at a position stands once the piece has been put in. -/
def movedPlace (piece : Text) (places : List Int) (text : Text) (position : Int) : Int :=
  movedCut piece places text (position + 1) - 1

variable {piece : Text} {places : List Int} {position : Int} {text : Text}

theorem inserting_append (front rest : Text) :
    inserting piece places position (front ++ rest) =
      inserting piece places position front ++
        inserting piece places (position + front.length) rest := by
  induction front generalizing position with
  | nil => simp [inserting]
  | cons char front induction =>
      have onward : position + 1 + front.length = position + (char :: front).length := by
        rw [List.length_cons]
        omega
      rw [List.cons_append, inserting, inserting, induction, onward]
      split
      · simp
      · simp

theorem sublist_inserting (piece : Text) (places : List Int) (position : Int) (text : Text) :
    text.Sublist (inserting piece places position text) := by
  induction text generalizing position with
  | nil => exact List.nil_sublist _
  | cons char rest induction =>
      have kept := List.Sublist.cons_cons char (induction (position + 1))
      rw [inserting]
      split
      · exact kept.trans (List.sublist_append_right _ _)
      · exact kept

theorem inserting_eq_self
    (apart : ∀ place ∈ places, position ≤ place → position + text.length ≤ place) :
    inserting piece places position text = text := by
  induction text generalizing position with
  | nil => rfl
  | cons char rest induction =>
      have later : inserting piece places (position + 1) rest = rest := by
        apply induction
        intro place among behind
        have beyond := apart place among (by omega)
        rw [List.length_cons] at beyond
        omega
      have notHere : position ∉ places := by
        intro here
        have beyond := apart position here (Int.le_refl _)
        rw [List.length_cons] at beyond
        omega
      rw [inserting, if_neg notHere, later]

theorem inserting_eq_append (here : position ∈ places) (nonempty : text ≠ [])
    (apart : ∀ place ∈ places, position < place → position + text.length ≤ place) :
    inserting piece places position text = piece ++ text := by
  obtain ⟨char, rest, rfl⟩ := List.exists_cons_of_ne_nil nonempty
  have later : inserting piece places (position + 1) rest = rest := by
    apply inserting_eq_self
    intro place among behind
    have beyond := apart place among (by omega)
    rw [List.length_cons] at beyond
    omega
  rw [inserting, if_pos here, later]

/-- Up to a cut, the piece is put in as it would be into the text that ends there. -/
theorem movedCut_of_eq_append {front rest : Text} (shape : text = front ++ rest) :
    movedCut piece places text front.length = (inserting piece places 0 front).length := by
  rw [movedCut, Int.toNat_natCast, shape, List.take_left]

/-- A character of the text stands at its moved place. -/
theorem charAt?_movedPlace {index : Nat} (inside : index < text.length) :
    (inserting piece places 0 text).charAt? (movedPlace piece places text index) =
      text.charAt? index := by
  have shape : text = text.take index ++ [text[index]] ++ text.drop (index + 1) := by
    rw [List.append_assoc, List.singleton_append, ← List.drop_eq_getElem_cons inside,
      List.take_append_drop]
  have width : (text.take index ++ [text[index]]).length = index + 1 := by
    rw [List.length_append, List.length_take, List.length_singleton]
    omega
  have ending : ∃ before, inserting piece places 0 (text.take index ++ [text[index]]) =
      before ++ [text[index]] := by
    rw [inserting_append, inserting]
    split
    · exact ⟨_ ++ piece, (List.append_assoc _ _ _).symm⟩
    · exact ⟨_, rfl⟩
  obtain ⟨before, ending⟩ := ending
  have cut : movedPlace piece places text index = (before.length : Nat) := by
    have moved : movedCut piece places text
        ((text.take index ++ [text[index]]).length : Nat) = _ := movedCut_of_eq_append shape
    rw [width, ending] at moved
    rw [movedPlace, ← Int.natCast_succ, moved]
    simp
  have whole := congrArg (inserting piece places 0) shape
  rw [inserting_append, ending] at whole
  rw [cut, charAt?_natCast, charAt?_natCast, whole]
  simp [inside]

/-- A later character of the text stays behind an earlier one. -/
theorem movedPlace_lt_movedPlace {earlier later : Nat} (before : earlier < later)
    (inside : later < text.length) :
    movedPlace piece places text earlier < movedPlace piece places text later := by
  let between := (text.drop (earlier + 1)).take (later - earlier)
  have shape : text.take (later + 1) = text.take (earlier + 1) ++ between := by
    rw [← List.take_add]
    congr 1
    omega
  have nonempty : 0 < between.length := by
    rw [List.length_take, List.length_drop]
    omega
  have kept := (sublist_inserting piece places
    (0 + (text.take (earlier + 1)).length) between).length_le
  have cut (index : Nat) : movedCut piece places text (index + 1) =
      (inserting piece places 0 (text.take (index + 1))).length := rfl
  rw [movedPlace, movedPlace, cut, cut, shape, inserting_append, List.length_append]
  omega

end Text

end Verbatim
