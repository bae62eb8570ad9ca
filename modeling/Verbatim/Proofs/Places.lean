import Verbatim.Proofs.PhysicalLines
import Verbatim.Source

/-!
# Lines and columns

A position has a row and a column.  The row counts the physical lines above the position,
and the column the characters before it on its own line.  `Source.locate_eq` says so for a
text that is given by its lines, and every text is: `Text.exists_eq_terminated_append`.

`Source.exists_line_of_locate` names the line.  It is the one that cutting the text at its
line feeds gives for the row, and it goes on at the column as the text does at the
position.
-/

namespace Verbatim

namespace Text

theorem count_lineFeed_terminated {lines : List Text}
    (unbroken : ∀ line ∈ lines, '\n' ∉ line) : (terminated lines).count '\n' = lines.length := by
  induction lines with
  | nil => rfl
  | cons line later induction =>
      obtain ⟨lineUnbroken, laterUnbroken⟩ := List.forall_mem_cons.mp unbroken
      rw [terminated_cons, List.count_append, List.count_eq_zero.mpr lineUnbroken,
        List.count_cons_self, induction laterUnbroken, Nat.zero_add, List.length_cons]

/-- A text is whole lines, and what follows the last of them. -/
theorem exists_eq_terminated_append (text : Text) :
    ∃ lines front, text = terminated lines ++ front ∧
      (∀ line ∈ lines, '\n' ∉ line) ∧ '\n' ∉ front := by
  rcases List.eq_nil_or_concat (text.splitOn '\n') with none | ⟨lines, last, split⟩
  · exact absurd none (List.splitOn_ne_nil '\n' text)
  · rw [List.concat_eq_append] at split
    obtain ⟨rest, shape, restLines⟩ :=
      exists_eq_terminated_append_of_splitOn_eq_append (by simp) split
    have whole : ['\n'].intercalate (rest.splitOn '\n') = rest := List.intercalate_splitOn '\n'
    have unbroken : ∀ line ∈ lines ++ [last], '\n' ∉ line := fun line member =>
      lineFeed_not_mem_of_mem_splitOn (split ▸ member)
    rw [restLines, List.intercalate_singleton] at whole
    refine ⟨lines, last, whole ▸ shape, ?_, unbroken last (by simp)⟩
    exact fun line member => unbroken line (by simp [member])

theorem splitOn_terminated_append {lines : List Text} (unbroken : ∀ line ∈ lines, '\n' ∉ line)
    (rest : Text) : (terminated lines ++ rest).splitOn '\n' = lines ++ rest.splitOn '\n' := by
  induction lines with
  | nil => rfl
  | cons line later induction =>
      obtain ⟨lineUnbroken, laterUnbroken⟩ := List.forall_mem_cons.mp unbroken
      rw [terminated_cons, List.append_assoc, List.cons_append,
        List.splitOn_append_cons_self_of_not_mem lineUnbroken, induction laterUnbroken]
      rfl

theorem head?_splitOn (text : Text) : (text.splitOn '\n').head? = some text.firstLine := by
  obtain ⟨line, later, split⟩ := exists_splitOn_eq_cons text
  rw [split, firstLine_eq_of_splitOn_eq_cons split]
  rfl

/-- The line feed of a whole line is the last character of the line, or there are no
lines. -/
theorem head?_reverse_terminated (lines : List Text) :
    ∀ char ∈ (terminated lines).reverse.head?, char = '\n' := by
  rcases List.eq_nil_or_concat lines with rfl | ⟨earlier, last, rfl⟩
  · simp
  · simp

end Text

namespace Source

variable {source : Source} {lines : List Text} {front : Text}

/-- The row of a position counts the lines above it, and the column what stands before it
on its line. -/
theorem locate_eq {rest : Text}
    (content : source.content = Text.terminated lines ++ front ++ rest)
    (linesUnbroken : ∀ line ∈ lines, '\n' ∉ line) (frontUnbroken : '\n' ∉ front) :
    source.locate ((Text.terminated lines ++ front).length : Nat) =
      (source.firstRow + lines.length, (front.length : Int)) := by
  have before : source.content.take (Text.terminated lines ++ front).length =
      Text.terminated lines ++ front := by
    rw [content, List.take_left]
  have rows : (Text.terminated lines ++ front).count '\n' = lines.length := by
    rw [List.count_append, Text.count_lineFeed_terminated linesUnbroken,
      List.count_eq_zero.mpr frontUnbroken, Nat.add_zero]
  have onLine : (Text.terminated lines ++ front).reverse.takeWhile (· ≠ '\n') =
      front.reverse := by
    rw [List.reverse_append]
    apply takeWhile_append_of_boundary
    · intro char member
      have different : char ≠ '\n' := by
        rintro rfl
        exact frontUnbroken (List.mem_reverse.mp member)
      simp [different]
    · intro char first
      simp [Text.head?_reverse_terminated lines char first]
  unfold locate
  rw [if_neg (by omega), Int.toNat_natCast, before]
  simp only [rows, onLine, List.length_reverse, List.length_append, Prod.mk.injEq, true_and]
  omega

/-- What stands above a position, and what stands before it on its line. -/
theorem exists_above {position : Nat} (inside : position ≤ source.content.length) :
    ∃ above front,
      source.content.take position = Text.terminated above ++ front ∧
      source.content = Text.terminated above ++ front ++ source.content.drop position ∧
      (∀ line ∈ above, '\n' ∉ line) ∧ '\n' ∉ front ∧
      (Text.terminated above ++ front).length = position ∧
      source.locate position = (source.firstRow + above.length, (front.length : Int)) := by
  obtain ⟨above, front, before, aboveUnbroken, frontUnbroken⟩ :=
    Text.exists_eq_terminated_append (source.content.take position)
  have content : source.content =
      Text.terminated above ++ front ++ source.content.drop position := by
    rw [← before, List.take_append_drop]
  have reached : (Text.terminated above ++ front).length = position := by
    rw [← before, List.length_take, Nat.min_eq_left inside]
  have located := locate_eq content aboveUnbroken frontUnbroken
  rw [reached] at located
  exact ⟨above, front, before, content, aboveUnbroken, frontUnbroken, reached, located⟩

/-- Cutting a text at its line feeds gives a line for the row of each position.  The line
goes on at the column as the text does at the position. -/
theorem exists_line_of_locate {position : Nat} (inside : position ≤ source.content.length) :
    ∃ (row : Nat) (front : Text),
      source.locate position = (source.firstRow + row, (front.length : Int)) ∧
      front <:+ source.content.take position ∧
      (source.content.splitOn '\n')[row]? =
        some (front ++ Text.firstLine (source.content.drop position)) := by
  obtain ⟨lines, front, before, content, linesUnbroken, frontUnbroken, _, located⟩ :=
    exists_above inside
  refine ⟨lines.length, front, located, ⟨_, before.symm⟩, ?_⟩
  have split := Text.splitOn_terminated_append linesUnbroken
    (front ++ source.content.drop position)
  rw [← List.append_assoc, ← content] at split
  rw [split, getElem?_length_append, Text.head?_splitOn, Text.firstLine_append frontUnbroken]

end Source

end Verbatim
