import Mathlib.Algebra.GroupWithZero.Nat
import Mathlib.Data.Prod.Lex
import Verbatim.Proofs.Places
import Verbatim.Proofs.WholeLines

/-!
# The rows of a source

The rows of a source are the lines of its text, each with its line feed, and a position lies
on the row that it is located on.  `Source.LiesAt` says in full what a row and a column say
about a position, and `liesAt_locate` that they are right for every position, up to the end
of the text.  One step to the right stays on the row, or begins the next one behind a line
feed and behind nothing else, so rows and columns grow with the position.
-/

namespace Verbatim

namespace Text

theorem lines_of_unbroken {line : Text} (unbroken : '\n' ∉ line) : line.lines = [line] := by
  induction line with
  | nil => rfl
  | cons char rest induction =>
      have different : char ≠ '\n' := Ne.symm (List.ne_of_not_mem_cons unbroken)
      rw [lines, if_neg different, induction (List.not_mem_of_not_mem_cons unbroken)]

theorem lines_append_lineFeed {line : Text} (unbroken : '\n' ∉ line) (rest : Text) :
    lines (line ++ '\n' :: rest) = (line ++ ['\n']) :: rest.lines := by
  induction line with
  | nil => rfl
  | cons char line induction =>
      have different : char ≠ '\n' := Ne.symm (List.ne_of_not_mem_cons unbroken)
      rw [List.cons_append, lines, if_neg different,
        induction (List.not_mem_of_not_mem_cons unbroken)]
      rfl

/-- The lines of a text are cut where its line feeds are. -/
theorem lines_terminated_append {whole : List Text} (unbroken : ∀ line ∈ whole, '\n' ∉ line)
    (rest : Text) :
    lines (terminated whole ++ rest) = whole.map (· ++ ['\n']) ++ rest.lines := by
  induction whole with
  | nil => rfl
  | cons line later induction =>
      obtain ⟨lineUnbroken, laterUnbroken⟩ := List.forall_mem_cons.mp unbroken
      rw [terminated_cons, List.append_assoc, List.cons_append,
        lines_append_lineFeed lineUnbroken, induction laterUnbroken]
      rfl

theorem length_lines (text : Text) : text.lines.length = text.count '\n' + 1 := by
  obtain ⟨whole, last, rfl, wholeUnbroken, lastUnbroken⟩ := exists_eq_terminated_append text
  rw [lines_terminated_append wholeUnbroken, lines_of_unbroken lastUnbroken, List.count_append,
    count_lineFeed_terminated wholeUnbroken, List.count_eq_zero.mpr lastUnbroken]
  simp

/-- A text has a line for each of its line feeds, and further ones above the last. -/
theorem exists_eq_terminated_append_of_le_count {text : Text} {count : Nat}
    (enough : count ≤ text.count '\n') :
    ∃ above rest, text = terminated above ++ rest ∧ (∀ line ∈ above, '\n' ∉ line) ∧
      above.length = count := by
  obtain ⟨whole, last, rfl, wholeUnbroken, lastUnbroken⟩ := exists_eq_terminated_append text
  rw [List.count_append, count_lineFeed_terminated wholeUnbroken,
    List.count_eq_zero.mpr lastUnbroken, Nat.add_zero] at enough
  refine ⟨whole.take count, terminated (whole.drop count) ++ last, ?_, ?_, ?_⟩
  · rw [← List.append_assoc, ← terminated_append, List.take_append_drop]
  · exact fun line member => wholeUnbroken line (List.mem_of_mem_take member)
  · rw [List.length_take, Nat.min_eq_left enough]

theorem wholeLines_terminated (lines : List Text) : (terminated lines).WholeLines := by
  rcases List.eq_nil_or_concat lines with rfl | ⟨earlier, last, rfl⟩
  · exact .inl rfl
  · exact .inr (by simp [EndsLine])

/-- The first line of a text, with the line feed that ends it. -/
def restOfLine (text : Text) : Text :=
  text.lines.head?.getD []

theorem restOfLine_of_unbroken {line : Text} (unbroken : '\n' ∉ line) :
    line.restOfLine = line := by
  rw [restOfLine, lines_of_unbroken unbroken]
  rfl

theorem restOfLine_append_lineFeed {line : Text} (unbroken : '\n' ∉ line) (rest : Text) :
    restOfLine (line ++ '\n' :: rest) = line ++ ['\n'] := by
  rw [restOfLine, lines_append_lineFeed unbroken]
  rfl

theorem head?_lines (text : Text) : text.lines.head? = some text.restOfLine := by
  rcases text.unbroken_or_exists_eq_append_lineFeed with whole | ⟨line, rest, whole, rfl⟩
  · rw [restOfLine_of_unbroken whole, lines_of_unbroken whole, List.head?_cons]
  · rw [restOfLine_append_lineFeed whole, lines_append_lineFeed whole, List.head?_cons]

theorem restOfLine_append {front : Text} (unbroken : '\n' ∉ front) (rest : Text) :
    restOfLine (front ++ rest) = front ++ rest.restOfLine := by
  rcases rest.unbroken_or_exists_eq_append_lineFeed with whole | ⟨line, later, whole, rfl⟩
  · rw [restOfLine_of_unbroken whole, restOfLine_of_unbroken (by simp [unbroken, whole])]
  · rw [restOfLine_append_lineFeed whole, ← List.append_assoc,
      restOfLine_append_lineFeed (by simp [unbroken, whole]), List.append_assoc]

/-- A line goes on up to the next line feed, or it ends with the text. -/
theorem restOfLine_eq_or (text : Text) :
    text.restOfLine = text.firstLine ∨ text.restOfLine = text.firstLine ++ ['\n'] := by
  rcases text.unbroken_or_exists_eq_append_lineFeed with whole | ⟨line, rest, whole, rfl⟩
  · left
    have first := firstLine_append whole []
    rw [List.append_nil] at first
    rw [restOfLine_of_unbroken whole, first]
    simp [firstLine]
  · right
    rw [restOfLine_append_lineFeed whole, firstLine_append_lineFeed whole]

theorem restOfLine_isPrefix (text : Text) : text.restOfLine <+: text := by
  rcases text.unbroken_or_exists_eq_append_lineFeed with whole | ⟨line, rest, whole, rfl⟩
  · exact ⟨[], by rw [restOfLine_of_unbroken whole, List.append_nil]⟩
  · rw [restOfLine_append_lineFeed whole]
    exact ⟨rest, (List.append_cons line '\n' rest).symm⟩

theorem lineFeed_not_mem_dropLast_restOfLine (text : Text) :
    '\n' ∉ text.restOfLine.dropLast := by
  rcases restOfLine_eq_or text with whole | fed
  · rw [whole]
    exact fun member => lineFeed_not_mem_firstLine text ((List.dropLast_sublist _).subset member)
  · rw [fed, List.dropLast_concat]
    exact lineFeed_not_mem_firstLine text

theorem head?_restOfLine (text : Text) : text.restOfLine.head? = text.head? := by
  rcases text.unbroken_or_exists_eq_append_lineFeed with whole | ⟨line, rest, whole, rfl⟩
  · rw [restOfLine_of_unbroken whole]
  · rw [restOfLine_append_lineFeed whole]
    cases line <;> rfl

end Text

namespace Source

/-- What a row and a column say about a position of a source. -/
structure LiesAt (source : Source) (index : Nat) (row column : Int) : Prop where
  /-- Each line feed before the position begins a row, and nothing else does. -/
  rowsAbove : row = source.firstRow + (source.content.take index).count '\n'
  /-- The column counts what stands before the position behind the last line feed. -/
  onRow : ∃ above front : Text, source.content.take index = above ++ front ∧
    above.WholeLines ∧ '\n' ∉ front ∧ column = front.length
  oneLine : '\n' ∉ (source.line row).dropLast
  within : 0 ≤ column ∧ column ≤ (source.line row).length
  character : (source.line row)[column.toNat]? = source.content[index]?
  linesAbove :
    (((List.range (row - source.firstRow).toNat).map fun (above : Nat) =>
      (source.line (source.firstRow + above)).length).sum : Int) = index - column

variable {source : Source} {above : List Text} {front rest : Text} {index : Nat}

theorem line_eq_getElem? {count : Nat} (fits : count < source.content.lines.length) :
    some (source.line (source.firstRow + count)) = source.content.lines[count]? := by
  have row : min (source.firstRow + count - source.firstRow).toNat
      (source.content.lines.length - 1) = count := by
    omega
  simp only [line, row, List.getElem?_eq_getElem fits, Option.getD_some]

/-- The first rows of a source are its first lines. -/
theorem map_line_range {count : Nat} (fits : count ≤ source.content.lines.length) :
    ((List.range count).map fun (row : Nat) => source.line (source.firstRow + row)) =
      source.content.lines.take count := by
  apply List.ext_getElem?
  intro row
  by_cases before : row < count
  · rw [List.getElem?_map, List.getElem?_range before, List.getElem?_take_of_lt before,
      ← line_eq_getElem? (Nat.lt_of_lt_of_le before fits)]
    rfl
  · rw [List.getElem?_eq_none (by simpa using before),
      List.getElem?_eq_none (by rw [List.length_take]; omega)]

/-- The row of a position, from what stands before the position on it. -/
theorem line_of_eq_append
    (content : source.content = Text.terminated above ++ front ++ rest)
    (aboveUnbroken : ∀ line ∈ above, '\n' ∉ line) (frontUnbroken : '\n' ∉ front) :
    source.line (source.firstRow + above.length) = front ++ rest.restOfLine := by
  have lines : source.content.lines =
      above.map (· ++ ['\n']) ++ Text.lines (front ++ rest) := by
    rw [content, List.append_assoc, Text.lines_terminated_append aboveUnbroken]
  have found : source.content.lines[above.length]? = (Text.lines (front ++ rest)).head? := by
    rw [lines, ← List.length_map (· ++ ['\n']), getElem?_length_append]
  rw [Text.head?_lines, Text.restOfLine_append frontUnbroken] at found
  have fits : above.length < source.content.lines.length :=
    (List.getElem?_eq_some_iff.mp found).1
  exact Option.some.inj ((line_eq_getElem? fits).trans found)

/-- The rows above a line are as long as the lines above it are together. -/
theorem sum_length_rows_above (content : source.content = Text.terminated above ++ rest)
    (aboveUnbroken : ∀ line ∈ above, '\n' ∉ line) :
    ((List.range above.length).map fun (row : Nat) =>
      (source.line (source.firstRow + row)).length).sum = (Text.terminated above).length := by
  have lines : source.content.lines = above.map (· ++ ['\n']) ++ rest.lines := by
    rw [content, Text.lines_terminated_append aboveUnbroken]
  have fits : above.length ≤ source.content.lines.length := by
    rw [lines, List.length_append, List.length_map]
    omega
  have rows := congrArg (List.map List.length) (map_line_range fits)
  rw [lines, List.take_left' (List.length_map _), List.map_map] at rows
  rw [Text.terminated, List.flatMap_def, List.length_flatten]
  exact congrArg List.sum rows

/-- A position lies on the row and at the column that it is located at. -/
theorem liesAt_locate (inside : index ≤ source.content.length) :
    source.LiesAt index (source.locate index).1 (source.locate index).2 := by
  obtain ⟨above, front, before, content, aboveUnbroken, frontUnbroken, reached, located⟩ :=
    exists_above inside
  have row := line_of_eq_append content aboveUnbroken frontUnbroken
  have rowsAbove := sum_length_rows_above (content.trans (List.append_assoc _ _ _)) aboveUnbroken
  rw [located]
  constructor
  case rowsAbove =>
    rw [before, List.count_append, Text.count_lineFeed_terminated aboveUnbroken,
      List.count_eq_zero.mpr frontUnbroken, Nat.add_zero]
  case onRow =>
    exact ⟨_, front, before, Text.wholeLines_terminated above, frontUnbroken, rfl⟩
  case oneLine =>
    rw [row, ← Text.restOfLine_append frontUnbroken]
    exact Text.lineFeed_not_mem_dropLast_restOfLine _
  case within =>
    rw [row, List.length_append]
    omega
  case character =>
    rw [row, Int.toNat_natCast, getElem?_length_append, Text.head?_restOfLine, List.head?_drop]
  case linesAbove =>
    have count : (source.firstRow + (above.length : Int) - source.firstRow).toNat =
        above.length := by
      omega
    rw [List.length_append] at reached
    rw [count, rowsAbove]
    omega

/-- One step to the right begins a row behind a line feed, and behind nothing else. -/
theorem locate_succ {char : Char} (here : source.content[index]? = some char) :
    source.locate (index + 1 : Nat) =
      if char = '\n' then ((source.locate index).1 + 1, 0)
      else ((source.locate index).1, (source.locate index).2 + 1) := by
  obtain ⟨inside, rfl⟩ := List.getElem?_eq_some_iff.mp here
  obtain ⟨above, front, _, content, aboveUnbroken, frontUnbroken, reached, located⟩ :=
    exists_above (Nat.le_of_lt inside)
  rw [List.drop_eq_getElem_cons inside] at content
  generalize source.content[index] = char, source.content.drop (index + 1) = rest at content
  rw [located]
  split
  · next feed =>
    subst feed
    have longer : source.content =
        Text.terminated (above ++ [front]) ++ [] ++ rest := by
      rw [content]
      simp
    have next := locate_eq longer (by simpa [or_imp, forall_and] using
      ⟨aboveUnbroken, frontUnbroken⟩) List.not_mem_nil
    have step : (Text.terminated (above ++ [front]) ++ []).length = index + 1 := by
      rw [← reached]
      simp
      omega
    rw [step] at next
    rw [next]
    simp
    omega
  · next other =>
    have longer : source.content =
        Text.terminated above ++ (front ++ [char]) ++ rest := by
      rw [content]
      simp
    have next := locate_eq longer aboveUnbroken (by simp [frontUnbroken, Ne.symm other])
    have step : (Text.terminated above ++ (front ++ [char])).length = index + 1 := by
      rw [← List.append_assoc, List.length_append, reached, List.length_singleton]
    rw [step] at next
    rw [next]
    simp

theorem locate_lt_locate_succ (inside : index < source.content.length) :
    toLex (source.locate index) < toLex (source.locate (index + 1 : Nat)) := by
  rw [locate_succ (List.getElem?_eq_getElem inside), Prod.Lex.toLex_lt_toLex]
  split
  · left
    exact Int.lt_succ _
  · right
    exact ⟨rfl, Int.lt_succ _⟩

/-- Rows and columns grow with the position. -/
theorem locate_lt_locate {later : Nat} (before : index < later)
    (inside : later ≤ source.content.length) :
    toLex (source.locate index) < toLex (source.locate later) := by
  induction later, before using Nat.le_induction with
  | base => exact locate_lt_locate_succ inside
  | succ later _ induction =>
      exact (induction (Nat.le_of_succ_le inside)).trans (locate_lt_locate_succ inside)

/-- The rows up to that of the end of the text are the text. -/
theorem flatMap_line_range (source : Source) :
    ((List.range ((source.locate source.content.length).1 - source.firstRow + 1).toNat).flatMap
      fun (row : Nat) => source.line (source.firstRow + row)) = source.content := by
  have last := (@liesAt_locate source _ (Nat.le_refl _)).rowsAbove
  have count : ((source.locate source.content.length).1 - source.firstRow + 1).toNat =
      source.content.lines.length := by
    rw [last, List.take_length, Text.length_lines]
    omega
  rw [count, List.flatMap_def, map_line_range (Nat.le_refl _), List.take_length,
    Text.flatten_lines]

end Source

end Verbatim
