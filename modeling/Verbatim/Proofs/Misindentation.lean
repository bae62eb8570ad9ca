import Mathlib.Data.List.Infix
import Verbatim.Proofs.ValueOutcomes

/-!
# What a misindentation points at

A misindented line is named together with a position, and `misindented_at_difference` says
what stands there: a character of the text, on the line that is named, where the
indentation has another one.

If the line is merely too short, the position lies behind its text, on its terminator.
That is a difference all the same, because indentation is whitespace and neither a
carriage return nor a line feed is.
-/

namespace Verbatim

/-- From its offset on, a line of a text agrees with an indentation for some characters,
and differs in the next one.  A line that is a beginning of the indentation differs in its
terminator. -/
structure Line.DiffersAt (line : Line) (text indentation : Text) (agreed : Nat) : Prop where
  shorter : agreed < indentation.length
  inside : line.offset + agreed < text.length
  agrees : text.slice line.offset (line.offset + agreed) = indentation.take agreed
  differs : text.charAt? (line.offset + agreed) ≠ indentation[agreed]?
  tooShort : line.text <+: indentation →
    agreed = line.text.length ∧
      text.charAt? (line.offset + agreed) = line.terminator.characters.head? ∧
      (text.charAt? (line.offset + agreed) = some '\r' ∨
        text.charAt? (line.offset + agreed) = some '\n')

namespace LongestCommonPrefix

variable {common left right : Text}

/-- Behind its longest common prefix with the left text, the right one goes on, unless the
left text begins with all of it. -/
theorem length_lt (longest : LongestCommonPrefix common left right)
    (apart : ¬ right <+: left) : common.length < right.length := by
  by_contra whole
  have same : common = right := longest.beginsRight.eq_of_length_le (Nat.le_of_not_lt whole)
  exact apart (same ▸ longest.beginsLeft)

theorem getElem?_ne (longest : LongestCommonPrefix common left right)
    (apart : ¬ right <+: left) : left[common.length]? ≠ right[common.length]? := by
  intro same
  have shorter := longest.length_lt apart
  rw [List.getElem?_eq_getElem shorter] at same
  obtain ⟨inside, next⟩ := List.getElem?_eq_some_iff.mp same
  have ofLeft : common ++ [left[common.length]] <+: left :=
    List.concat_get_prefix longest.beginsLeft inside
  have ofRight : common ++ [right[common.length]] <+: right :=
    List.concat_get_prefix longest.beginsRight shorter
  have further := longest.longest _ (next ▸ ofLeft) ofRight
  have lengths := further.length_le
  rw [List.length_append, List.length_singleton] at lengths
  omega

theorem length_eq_of_prefix (longest : LongestCommonPrefix common left right)
    (begins : left <+: right) : common.length = left.length :=
  Nat.le_antisymm longest.beginsLeft.length_le
    (longest.longest left (List.prefix_refl left) begins).length_le

end LongestCommonPrefix

section Source

variable {text rest common indentation : Text} {line : Line} {place : Nat}

/-- A captured line stands in the text behind a line feed, with its terminator. -/
theorem Layout.exists_eq_append_of_mem_lines {dialect : Dialect} (layout : Layout dialect)
    {following : Text} {offset : Nat}
    (shape : text.drop offset = layout.characters ++ following)
    (member : line ∈ (layout.block offset).lines) :
    ∃ front rest : Text, text = front ++ '\n' :: line.characters ++ rest ∧
      line.offset = front.length + 1 ∧ offset ≤ front.length := by
  obtain ⟨index, found⟩ := List.getElem?_of_mem member
  obtain ⟨before, raw, after, content, _, rfl⟩ := Line.exists_of_getElem?_placed found
  obtain ⟨rest, stands⟩ := layout.drop_line shape content
  generalize widths : offset + (layout.length + layout.opening.length +
    (Text.terminated before).length) = lineFeed at stands
  have inText : lineFeed < text.length := by
    have lengths := congrArg List.length stands
    simp at lengths
    omega
  have width : (text.take lineFeed).length = lineFeed := by
    rw [List.length_take, Nat.min_eq_left (Nat.le_of_lt inText)]
  refine ⟨text.take lineFeed, rest, ?_, ?_, by omega⟩
  · rw [Line.characters_ofTerminated]
    conv_lhs => rw [← List.take_append_drop lineFeed text, stands]
    simp
  · rw [Line.offset_ofTerminated]
    omega

theorem Layout.exists_drop_eq_of_mem_lines {dialect : Dialect} (layout : Layout dialect)
    {following : Text} {offset : Nat}
    (shape : text.drop offset = layout.characters ++ following)
    (member : line ∈ (layout.block offset).lines) :
    ∃ place rest, line.offset = (place : Nat) ∧ offset < place ∧
      text.drop place = line.characters ++ rest := by
  obtain ⟨front, rest, whole, lineOffset, behind⟩ :=
    layout.exists_eq_append_of_mem_lines shape member
  refine ⟨front.length + 1, rest, lineOffset, by omega, ?_⟩
  rw [whole, ← List.drop_drop, List.append_assoc, List.drop_left]
  rfl

theorem Text.charAt?_add_of_drop_eq (stands : text.drop place = rest) (index : Nat) :
    text.charAt? ((place : Int) + index) = rest[index]? := by
  rw [← Int.natCast_add, Text.charAt?_natCast, ← List.getElem?_drop, stands]

theorem Terminator.head?_characters {terminator : Terminator} (present : terminator ≠ .absent) :
    terminator.characters.head? = some '\r' ∨ terminator.characters.head? = some '\n' := by
  cases terminator with
  | lineFeed => exact .inr rfl
  | carriageReturnLineFeed => exact .inl rfl
  | absent => exact absurd rfl present

/-- On its own text a line has the character where it ceases to agree, and behind it the
terminator. -/
theorem Line.getElem?_characters {agreed : Nat} (within : agreed ≤ line.text.length)
    (present : line.terminator ≠ .absent) :
    (line.characters ++ rest)[agreed]? =
      if agreed < line.text.length then line.text[agreed]?
      else line.terminator.characters.head? := by
  rw [Line.characters, List.append_assoc]
  split
  · next inside => rw [List.getElem?_append_left inside]
  · next behind =>
      obtain rfl : agreed = line.text.length := by omega
      rw [getElem?_length_append, List.head?_append]
      rcases Terminator.head?_characters present with first | first <;> rw [first] <;> rfl

theorem Line.differsAt {dialect : Dialect} (offset : line.offset = (place : Nat))
    (stands : text.drop place = line.characters ++ rest)
    (present : line.terminator ≠ .absent)
    (blank : ∀ char ∈ indentation, dialect.isWhitespace char = true)
    (misfits : line.Misfits indentation)
    (longest : LongestCommonPrefix common line.text indentation) :
    line.DiffersAt text indentation common.length := by
  have within := longest.beginsLeft.length_le
  have shorter := longest.length_lt misfits.2
  have found : text.charAt? (line.offset + common.length) =
      if common.length < line.text.length then line.text[common.length]?
      else line.terminator.characters.head? := by
    rw [offset, Text.charAt?_add_of_drop_eq stands, Line.getElem?_characters within present]
  constructor
  case shorter => exact shorter
  case inside =>
    have filled : 0 < line.terminator.characters.length := by
      cases ending : line.terminator with
      | absent => exact absurd ending present
      | lineFeed | carriageReturnLineFeed => simp [Terminator.characters]
    have lengths := congrArg List.length stands
    rw [Line.characters, List.length_drop, List.length_append, List.length_append] at lengths
    omega
  case agrees =>
    obtain ⟨later, shape⟩ := longest.beginsLeft
    have begins : text.drop place = common ++ (later ++ line.terminator.characters ++ rest) := by
      rw [stands, Line.characters, ← shape]
      simp
    rw [offset, Text.slice_of_drop_eq_append begins]
    exact List.prefix_iff_eq_take.mp longest.beginsRight
  case differs =>
    rw [found]
    split
    · exact longest.getElem?_ne misfits.2
    · intro same
      -- What the indentation goes on with is whitespace, and no terminator begins with it.
      have next := List.getElem?_eq_getElem shorter
      have whitespace := blank _ (List.getElem_mem shorter)
      rw [next] at same
      rcases Terminator.head?_characters present with returned | fed
      · rw [returned] at same
        rw [← Option.some.inj same, dialect.isWhitespace_carriageReturn] at whitespace
        cases whitespace
      · rw [fed] at same
        rw [← Option.some.inj same, dialect.isWhitespace_lineFeed] at whitespace
        cases whitespace
  case tooShort =>
    intro begins
    have whole := longest.length_eq_of_prefix begins
    rw [if_neg (by omega)] at found
    exact ⟨whole, found, found ▸ Terminator.head?_characters present⟩

end Source

/-- A misindentation points at the first character of a line that differs from the
indentation, and all earlier lines fit. -/
theorem misindented_at_difference
    {dialect : Dialect} {text : Text} {offset : Nat} {block : Block} {index : Nat}
    {position : Int} (scanned : scan dialect text offset = .ok block)
    (rejected : block.value = .error (.malformed (.misindented index position))) :
    ∃ line agreed, block.lines[index]? = some line ∧
      position = line.offset + (agreed : Nat) ∧ offset < position ∧
      line.DiffersAt text block.indentation agreed ∧
      ∀ earlier ∈ block.lines.take index,
        earlier.text = [] ∨ block.indentation <+: earlier.text := by
  obtain ⟨before, line, after, common, lines, rfl, fits, misfits, longest, rfl⟩ :=
    Block.value_eq_misindented_iff.mp rejected
  have member : line ∈ block.lines := by simp [lines]
  have present := (unbroken_and_ended_of_scan_eq_ok scanned line member).2
  obtain ⟨layout, following, shape, _, rfl⟩ := scan_eq_ok_iff.mp scanned
  obtain ⟨place, rest, lineOffset, behind, stands⟩ :=
    layout.exists_drop_eq_of_mem_lines shape member
  refine ⟨line, common.length, ?_, rfl, by omega,
    Line.differsAt lineOffset stands present layout.indentationBlank misfits longest, ?_⟩
  · rw [lines, getElem?_length_append]
    rfl
  · rw [lines, List.take_left]
    intro earlier among
    by_contra apart
    exact fits earlier among (not_or.mp apart)

/-- Behind a line that fits and an empty one, a line is too short and differs in its
carriage return. -/
theorem misindented_at_difference_carriage_return :
    let text := ['"', '"', '"', '\n', ' ', '\t', 'a', '\n', '\n', ' ', '\r', '\n', ' ', '\t',
      '"', '"', '"']
    let block : Block :=
      { markerLength := 3
        trailing := []
        lines := [⟨[' ', '\t', 'a'], .lineFeed, 4⟩, ⟨[], .lineFeed, 8⟩,
          ⟨[' '], .carriageReturnLineFeed, 9⟩]
        indentation := [' ', '\t']
        quote := '"'
        start := 0
        finish := 17 }
    scan .standard text 0 = .ok block ∧
      block.value = .error (.malformed (.misindented 2 10)) ∧
      ∃ line agreed, block.lines[2]? = some line ∧ (10 : Int) = line.offset + (agreed : Nat) ∧
        (0 : Int) < 10 ∧ line.DiffersAt text block.indentation agreed ∧
        ∀ earlier ∈ block.lines.take 2,
          earlier.text = [] ∨ block.indentation <+: earlier.text := by
  intro text block
  have scanned : scan .standard text (0 : Nat) = .ok block := by decide +kernel
  have rejected : block.value = .error (.malformed (.misindented 2 10)) := by decide +kernel
  exact ⟨scanned, rejected, misindented_at_difference scanned rejected⟩

end Verbatim
