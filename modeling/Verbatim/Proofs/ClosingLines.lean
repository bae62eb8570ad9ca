import Verbatim.Proofs.PhysicalLines

/-!
# Closing lines and captured lines

`ClosesWith` says what a closing line is: its maximal whitespace prefix, the
indentation, and then exactly as many quote characters as the marker has.
`closingIndentation?_eq_some_iff` identifies this with the test that a capture
makes.

A capture is then described for a text that begins with lines none of which
closes: it keeps them as `Line.placed` lays them out and goes on behind them.
-/

namespace Verbatim

/-- A line closes a marker of some length with an indentation: the indentation is
the longest whitespace prefix of the line, and exactly `length` quote characters
follow it. -/
def ClosesWith (dialect : Dialect) (quote : Char) (length : Nat)
    (line indentation : Text) : Prop :=
  ∃ rest following,
    line = indentation ++ rest ∧
    (∀ char ∈ indentation, dialect.isWhitespace char = true) ∧
    (∀ char ∈ rest.head?, dialect.isWhitespace char = false) ∧
    rest = List.replicate length quote ++ following ∧
    following.head? ≠ some quote

theorem closingIndentation?_eq_some_iff
    {dialect : Dialect} {quote : Char} {length : Nat} {line indentation : Text} :
    closingIndentation? dialect quote length line = some indentation ↔
      ClosesWith dialect quote length line indentation := by
  unfold closingIndentation?
  constructor
  · intro closes
    split at closes
    · next counted =>
        cases closes
        obtain ⟨following, shape, boundary⟩ := leadingRun_eq_iff.mp counted
        refine ⟨line.dropWhile dialect.isWhitespace, following,
          (List.takeWhile_append_dropWhile).symm, ?_, ?_, shape, boundary⟩
        · intro char member
          exact List.mem_takeWhile_imp member
        · intro char first
          have stopped := List.head?_dropWhile_not dialect.isWhitespace line
          rw [first] at stopped
          simpa using stopped
    · cases closes
  · rintro ⟨rest, following, rfl, blank, maximal, shape, boundary⟩
    rw [takeWhile_append_of_boundary blank maximal,
      dropWhile_append_of_boundary blank maximal,
      if_pos (leadingRun_eq_iff.mpr ⟨following, shape, boundary⟩)]

/-- A line closes a marker, whatever its indentation. -/
def Closes (dialect : Dialect) (quote : Char) (length : Nat) (line : Text) : Prop :=
  ∃ indentation, ClosesWith dialect quote length line indentation

theorem closingIndentation?_eq_none_iff
    {dialect : Dialect} {quote : Char} {length : Nat} {line : Text} :
    closingIndentation? dialect quote length line = none ↔
      ¬ Closes dialect quote length line := by
  rw [Option.eq_none_iff_forall_ne_some]
  constructor
  · rintro other ⟨indentation, closes⟩
    exact other indentation (closingIndentation?_eq_some_iff.mpr closes)
  · intro stays indentation closes
    exact stays ⟨indentation, closingIndentation?_eq_some_iff.mp closes⟩

/-- Whether a line closes a marker is a matter of the run behind its leading whitespace. -/
theorem closes_iff_leadingRun_eq
    {dialect : Dialect} {quote : Char} {length : Nat} {line : Text} :
    Closes dialect quote length line ↔
      leadingRun quote (line.dropWhile dialect.isWhitespace) = length := by
  rw [← not_iff_not, ← closingIndentation?_eq_none_iff]
  simp [closingIndentation?]

theorem ClosesWith.of_leadingRun_eq
    {dialect : Dialect} {quote : Char} {length : Nat} {line : Text}
    (run : leadingRun quote (line.dropWhile dialect.isWhitespace) = length) :
    ClosesWith dialect quote length line (line.takeWhile dialect.isWhitespace) :=
  closingIndentation?_eq_some_iff.mp (if_pos run)

/-- Neither an indentation in front nor a carriage return behind changes the run
that might close a marker. -/
theorem leadingRun_dropWhile_append
    {dialect : Dialect} {quote : Char} {indentation line tail : Text}
    (blank : ∀ char ∈ indentation, dialect.isWhitespace char = true)
    (solid : ∀ char ∈ tail.head?, dialect.isWhitespace char = false)
    (apart : tail.head? ≠ some quote) :
    leadingRun quote ((indentation ++ line ++ tail).dropWhile dialect.isWhitespace) =
      leadingRun quote (line.dropWhile dialect.isWhitespace) := by
  rw [List.append_assoc, List.dropWhile_append_of_pos blank]
  induction line with
  | nil =>
      have whole : tail.dropWhile dialect.isWhitespace = tail :=
        dropWhile_append_of_boundary (List.forall_mem_nil _) solid
      have none : leadingRun quote ([] ++ tail) = leadingRun quote [] :=
        leadingRun_append apart
      simpa [whole] using none
  | cons char line induction =>
      by_cases whitespace : dialect.isWhitespace char = true
      · simpa [List.dropWhile_cons, whitespace] using induction
      · have same : leadingRun quote ((char :: line) ++ tail) =
            leadingRun quote (char :: line) :=
          leadingRun_append apart
        simpa [List.dropWhile_cons, whitespace] using same

/-- Of the lines that close a marker one is the first, if there are any. -/
theorem exists_first_closing_or_stays
    (dialect : Dialect) (quote : Char) (length : Nat) (lines : List Text) :
    (∀ line ∈ lines, ¬ Closes dialect quote length line) ∨
      ∃ before line after indentation, lines = before ++ line :: after ∧
        (∀ earlier ∈ before, ¬ Closes dialect quote length earlier) ∧
        ClosesWith dialect quote length line indentation := by
  rcases exists_first_or_forall_not (Closes dialect quote length) lines with
    stays | ⟨before, line, after, shape, earlier, indentation, closesWith⟩
  · exact .inl stays
  · exact .inr ⟨before, line, after, indentation, shape, earlier, closesWith⟩

theorem ClosesWith.eq_append
    {dialect : Dialect} {quote : Char} {length : Nat} {line indentation : Text}
    (closes : ClosesWith dialect quote length line indentation) :
    ∃ following, line = indentation ++ List.replicate length quote ++ following ∧
      following.head? ≠ some quote := by
  obtain ⟨rest, following, rfl, _, _, rfl, boundary⟩ := closes
  exact ⟨following, by simp, boundary⟩

theorem ClosesWith.blank
    {dialect : Dialect} {quote : Char} {length : Nat} {line indentation : Text}
    (closes : ClosesWith dialect quote length line indentation) :
    ∀ char ∈ indentation, dialect.isWhitespace char = true := by
  obtain ⟨_, _, _, blank, _⟩ := closes
  exact blank

theorem ClosesWith.isWhitespace_quote
    {dialect : Dialect} {quote : Char} {length : Nat} {line indentation : Text}
    (closes : ClosesWith dialect quote length line indentation) (positive : 0 < length) :
    dialect.isWhitespace quote = false := by
  obtain ⟨rest, following, _, _, maximal, rfl, _⟩ := closes
  apply maximal quote
  rw [List.head?_append, List.head?_replicate, if_neg (by omega)]
  rfl

theorem lineFeed_not_mem_of_blank {dialect : Dialect} {text : Text}
    (blank : ∀ char ∈ text, dialect.isWhitespace char = true) : '\n' ∉ text := by
  intro member
  have whitespace := blank _ member
  rw [dialect.isWhitespace_lineFeed] at whitespace
  cases whitespace

theorem carriageReturn_not_mem_of_blank {dialect : Dialect} {text : Text}
    (blank : ∀ char ∈ text, dialect.isWhitespace char = true) : '\r' ∉ text := by
  intro member
  have whitespace := blank _ member
  rw [dialect.isWhitespace_carriageReturn] at whitespace
  cases whitespace

/-- A text closes a marker when its first line does, and the characters after
that line have no say. -/
theorem ClosesWith.firstLine_append
    {dialect : Dialect} {quote : Char} {length : Nat} {indentation following : Text}
    (positive : 0 < length)
    (blank : ∀ char ∈ indentation, dialect.isWhitespace char = true)
    (notBlank : dialect.isWhitespace quote = false) (notLineFeed : quote ≠ '\n')
    (boundary : following.head? ≠ some quote) :
    ClosesWith dialect quote length
      (indentation ++ List.replicate length quote ++ following).firstLine indentation := by
  have indentationUnbroken : '\n' ∉ indentation := lineFeed_not_mem_of_blank blank
  have markerUnbroken : '\n' ∉ List.replicate length quote := by
    intro member
    exact notLineFeed (List.eq_of_mem_replicate member).symm
  rw [Text.firstLine_append (by simp [indentationUnbroken, markerUnbroken])]
  refine ⟨List.replicate length quote ++ following.firstLine, following.firstLine,
    by simp, blank, ?_, rfl, ?_⟩
  · intro char first
    rw [List.head?_append, List.head?_replicate, if_neg (by omega)] at first
    cases first
    exact notBlank
  · intro first
    apply boundary
    cases following with
    | nil => exact first
    | cons char following =>
        by_cases feed : char = '\n'
        · simp [Text.firstLine, feed] at first
        · simpa [Text.firstLine, feed] using first

/-- Lines that each end in a line feed, as captured from a position on. -/
def Line.placed (position : Int) : List Text → List Line
  | [] => []
  | line :: later =>
      Line.ofTerminated position line :: placed (position + line.length + 1) later

theorem Line.flatMap_characters_placed (position : Int) (lines : List Text) :
    (placed position lines).flatMap Line.characters = Text.terminated lines := by
  induction lines generalizing position with
  | nil => rfl
  | cons line later induction =>
      simp [placed, Line.characters_ofTerminated, induction]

/-- Lines that do not close are captured one after another. -/
theorem capture_terminated_append
    {dialect : Dialect} {quote : Char} {length : Nat} {content : List Text}
    (unbroken : ∀ line ∈ content, '\n' ∉ line)
    (stays : ∀ line ∈ content, ¬ Closes dialect quote length line)
    (position : Int) (rest : Text) :
    capture dialect quote length position (Text.terminated content ++ rest) =
      { capture dialect quote length
          (position + (Text.terminated content).length) rest with
        lines := Line.placed position content ++
          (capture dialect quote length
            (position + (Text.terminated content).length) rest).lines } := by
  induction content generalizing position with
  | nil => simp [Line.placed]
  | cons line later induction =>
      obtain ⟨lineUnbroken, laterUnbroken⟩ := List.forall_mem_cons.mp unbroken
      obtain ⟨lineStays, laterStays⟩ := List.forall_mem_cons.mp stays
      have shape : Text.terminated (line :: later) ++ rest =
          line ++ '\n' :: (Text.terminated later ++ rest) := by
        simp
      have first : (line ++ '\n' :: (Text.terminated later ++ rest)).firstLine = line :=
        Text.firstLine_append_lineFeed lineUnbroken _
      have sum : position + line.length + 1 + (Text.terminated later).length =
          position + (Text.terminated (line :: later)).length := by
        simp
        omega
      rw [shape, capture_of_content
        (by rw [first]; exact closingIndentation?_eq_none_iff.mpr lineStays)
        (Text.afterFirstLine?_append_lineFeed lineUnbroken _), first,
        induction laterUnbroken laterStays, sum]
      rfl

/-- A capture ends with the first line that closes. -/
theorem capture_of_closing_line
    {dialect : Dialect} {quote : Char} {length : Nat} {content : List Text}
    {indentation following : Text} (positive : 0 < length)
    (unbroken : ∀ line ∈ content, '\n' ∉ line)
    (stays : ∀ line ∈ content, ¬ Closes dialect quote length line)
    (blank : ∀ char ∈ indentation, dialect.isWhitespace char = true)
    (notBlank : dialect.isWhitespace quote = false) (notLineFeed : quote ≠ '\n')
    (boundary : following.head? ≠ some quote) (position : Int) :
    capture dialect quote length position
        (Text.terminated content ++ (indentation ++ List.replicate length quote ++ following)) =
      ⟨Line.placed position content,
        position + (Text.terminated content).length + indentation.length + length,
        some indentation⟩ := by
  have closes := ClosesWith.firstLine_append positive blank notBlank notLineFeed boundary
  rw [capture_terminated_append unbroken stays,
    capture_of_closing (closingIndentation?_eq_some_iff.mpr closes)]
  simp

/-- Where no line closes, nothing closes the capture. -/
theorem indentation?_capture_of_stay
    {dialect : Dialect} {quote : Char} {length : Nat} {text : Text}
    (stays : ∀ line ∈ text.splitOn '\n', ¬ Closes dialect quote length line)
    (position : Int) :
    (capture dialect quote length position text).indentation? = none := by
  obtain ⟨content, last, lines⟩ :
      ∃ content last, text.splitOn '\n' = content ++ [last] :=
    ⟨_, _, (List.dropLast_concat_getLast (List.splitOn_ne_nil '\n' text)).symm⟩
  have unbroken : ∀ line ∈ content ++ [last], '\n' ∉ line := by
    intro line member
    exact Text.lineFeed_not_mem_of_mem_splitOn (lines ▸ member)
  obtain ⟨rest, rfl, split⟩ :=
    Text.exists_eq_terminated_append_of_splitOn_eq_append (by simp) lines
  rw [lines] at stays
  have restIsLast : rest.firstLine = last := Text.firstLine_eq_of_splitOn_eq_cons split
  have restIsLine : rest.afterFirstLine? = none := by
    rcases Text.unbroken_or_exists_eq_append_lineFeed rest with whole | broken
    · exact Text.afterFirstLine?_of_unbroken whole
    · obtain ⟨line, more, lineUnbroken, rfl⟩ := broken
      rw [List.splitOn_append_cons_self_of_not_mem lineUnbroken] at split
      exact absurd (List.cons.inj split).2 (List.splitOn_ne_nil '\n' more)
  rw [capture_terminated_append (fun line member => unbroken line (by simp [member]))
    (fun line member => stays line (by simp [member])),
    capture_of_cutOff
      (by rw [restIsLast]; exact closingIndentation?_eq_none_iff.mpr (stays last (by simp)))
      restIsLine]

end Verbatim
