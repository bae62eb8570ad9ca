import Verbatim.Proofs.Lossless
import Verbatim.Proofs.Values

/-!
# The value of a block, line by line

`value_line_by_line` says for every block, made by hand or scanned, what its value is
or why it has none.

A scanned block needs two more facts.  Its lines hold no line feed and have a terminator,
wherever the scan began, so the line feeds of its value are those between the pieces.
-/

namespace Verbatim

section Scanned

/-- No line feed of a value is in a piece of it. -/
theorem count_lineFeed_intercalate {pieces : List Text}
    (unbroken : ∀ piece ∈ pieces, '\n' ∉ piece) :
    (['\n'].intercalate pieces).count '\n' = pieces.length - 1 := by
  induction pieces with
  | nil => rfl
  | cons piece later induction =>
      obtain ⟨pieceUnbroken, laterUnbroken⟩ := List.forall_mem_cons.mp unbroken
      have none : piece.count '\n' = 0 := List.count_eq_zero.mpr pieceUnbroken
      cases later with
      | nil => simpa using none
      | cons next others =>
          rw [List.intercalate_cons_of_ne_nil (by simp), List.count_append, List.count_append,
            induction laterUnbroken, none]
          simp
          omega

theorem Line.unbroken_dedented {line : Line} (indentation : Text)
    (unbroken : '\n' ∉ line.text) : '\n' ∉ line.dedented indentation :=
  fun member => unbroken (List.mem_of_mem_drop member)

theorem Line.unbroken_piece {line : Line} (indentation : Text) (unbroken : '\n' ∉ line.text) :
    '\n' ∉ line.piece indentation := by
  have dedented := line.unbroken_dedented indentation unbroken
  have ending : '\n' ∉ line.terminator.carriageReturn := by
    cases line.terminator <;> simp [Terminator.carriageReturn]
  simp [piece, dedented, ending]

theorem Block.unbroken_pieces {indentation : Text} {before : List Line} {last : Line}
    (unbroken : ∀ line ∈ before ++ [last], '\n' ∉ line.text) :
    ∀ piece ∈ before.map (Line.piece indentation) ++ [last.dedented indentation],
      '\n' ∉ piece := by
  intro piece member
  rcases List.mem_append.mp member with earlier | final
  · obtain ⟨line, among, rfl⟩ := List.mem_map.mp earlier
    exact line.unbroken_piece indentation (unbroken line (by simp [among]))
  · rw [List.mem_singleton.mp final]
    exact last.unbroken_dedented indentation (unbroken last (by simp))

/-- The lines of a capture are ended, and hold no line feed. -/
theorem unbroken_and_ended_of_mem_capture (dialect : Dialect) (quote : Char) (length : Nat)
    (position : Int) (text : Text) :
    ∀ line ∈ (capture dialect quote length position text).lines,
      '\n' ∉ line.text ∧ line.terminator ≠ .absent := by
  fun_induction capture dialect quote length position text with
  | case1 position text indentation closes => exact List.forall_mem_nil _
  | case2 position text content last => exact List.forall_mem_nil _
  | case3 position text content rest follows later induction =>
      refine List.forall_mem_cons.mpr ⟨⟨?_, ?_⟩, induction⟩
      · exact Line.unbroken_ofTerminated (Text.lineFeed_not_mem_firstLine text)
      · rcases Line.terminated_ofTerminated position text.firstLine with ended | ended <;>
          simp [ended]

theorem Scanner.lines_of_start_eq_ok {dialect : Dialect} {text : Text} {offset : Int}
    {scanner : Scanner} (started : start dialect text offset = .ok scanner) :
    scanner.lines = [] := by
  unfold start at started
  cases found : Opening.find dialect text offset with
  | error failure => rw [found] at started; cases started
  | ok opening =>
      rw [found] at started
      cases started
      rfl

theorem Scanner.lines_of_readOpeningLine_eq_ok {scanner ready : Scanner} {phase : Phase}
    (awaited : scanner.readOpeningLine = (.ok phase, ready)) :
    ready.lines = scanner.lines := by
  unfold readOpeningLine at awaited
  split at awaited
  · cases awaited
  · cases awaited
  · cases awaited
    rfl

theorem Scanner.unbroken_and_ended_of_captureContent {scanner : Scanner} {block : Block}
    (closed : scanner.captureContent.1 = .ok block) (fresh : scanner.lines = []) :
    ∀ line ∈ block.lines, '\n' ∉ line.text ∧ line.terminator ≠ .absent := by
  have captured := unbroken_and_ended_of_mem_capture scanner.dialect scanner.opening.quote
    scanner.opening.length scanner.position (scanner.text.suffix scanner.position)
  unfold captureContent at closed
  simp only [fresh, List.nil_append] at closed
  split at closed
  · cases closed
    exact captured
  · cases closed

/-- The lines of a scanned block are ended, and hold no line feed, wherever the scan
began. -/
theorem unbroken_and_ended_of_scan_eq_ok {dialect : Dialect} {text : Text} {offset : Int}
    {block : Block} (scanned : scan dialect text offset = .ok block) :
    ∀ line ∈ block.lines, '\n' ∉ line.text ∧ line.terminator ≠ .absent := by
  unfold scan at scanned
  cases started : Scanner.start dialect text offset with
  | error failure => rw [started] at scanned; cases scanned
  | ok scanner =>
      have fresh := Scanner.lines_of_start_eq_ok started
      rw [started] at scanned
      simp only [bind, Except.bind, Scanner.run,
        (Scanner.lt_position_of_start_eq_ok started).1] at scanned
      rcases awaited : scanner.readOpeningLine with ⟨answer, ready⟩
      cases answer with
      | error malformation => rw [awaited] at scanned; cases scanned
      | ok next =>
          simp only [awaited] at scanned
          cases closed : ready.captureContent.1 with
          | error malformation => rw [closed] at scanned; cases scanned
          | ok captured =>
              rw [closed] at scanned
              cases scanned
              exact Scanner.unbroken_and_ended_of_captureContent closed
                ((Scanner.lines_of_readOpeningLine_eq_ok awaited).trans fresh)

end Scanned

/-- What the value of a block is, or why it has none, for every block.

A line that misfits comes before anything else, and the first of them is named, with the
place where it ceases to agree with the indentation.  Where all lines fit, the first line
without a terminator that others follow is named.  In all other cases there is a value,
and each line gives one piece of it, without the indentation and up to the line feed. -/
theorem value_line_by_line (block : Block) :
    ((∃ index position, block.value = .error (.malformed (.misindented index position))) ↔
        ∃ line ∈ block.lines, line.Misfits block.indentation) ∧
      (∀ index position,
        block.value = .error (.malformed (.misindented index position)) ↔
          FirstMisfit block.indentation block.lines index position) ∧
      (∀ line, block.value = .error (.missingTerminator line) ↔
        (∀ line ∈ block.lines, ¬ line.Misfits block.indentation) ∧
          FirstUnended block.lines line) ∧
      ((∃ value, block.value = .ok value) ↔
        (∀ line ∈ block.lines, ¬ line.Misfits block.indentation) ∧
          ∀ line ∈ block.lines.dropLast, line.terminator ≠ .absent) ∧
      (∀ value, block.value = .ok value → block.lines = [] → value = []) ∧
      (∀ value before last, block.value = .ok value → block.lines = before ++ [last] →
        value = ['\n'].intercalate
            (before.map (Line.piece block.indentation) ++ [last.dedented block.indentation]) ∧
          ((∀ line ∈ block.lines, '\n' ∉ line.text) →
            value.splitOn '\n' =
              before.map (Line.piece block.indentation) ++
                [last.dedented block.indentation])) ∧
      ∀ dialect text offset value,
        scan dialect text offset = .ok block → block.value = .ok value →
          value.count '\n' = block.lines.length - 1 := by
  refine ⟨?_, ?_, ?_, ?_, ?_, ?_, ?_⟩
  case refine_1 =>
    rw [← Block.exists_firstMisfit_iff]
    exact exists_congr fun index => exists_congr fun position =>
      Block.value_eq_misindented_iff
  case refine_2 => exact fun index position => Block.value_eq_misindented_iff
  case refine_3 => exact fun line => Block.value_eq_missingTerminator_iff
  case refine_4 => exact Block.exists_value_eq_ok_iff
  case refine_5 => exact fun value valued none => Block.eq_nil_of_value_eq_ok valued none
  case refine_6 =>
    intro value before last valued shape
    obtain rfl := Block.eq_intercalate_of_value_eq_ok valued shape
    refine ⟨rfl, fun unbroken => ?_⟩
    apply List.splitOn_intercalate
    · exact Block.unbroken_pieces (shape ▸ unbroken)
    · simp
  case refine_7 =>
    intro dialect text offset value scanned valued
    have unbroken : ∀ line ∈ block.lines, '\n' ∉ line.text := fun line member =>
      (unbroken_and_ended_of_scan_eq_ok scanned line member).1
    rcases List.eq_nil_or_concat block.lines with none | ⟨before, last, shape⟩
    · rw [Block.eq_nil_of_value_eq_ok valued none, none]
      rfl
    · rw [List.concat_eq_append] at shape
      rw [Block.eq_intercalate_of_value_eq_ok valued shape,
        count_lineFeed_intercalate (Block.unbroken_pieces (shape ▸ unbroken)), shape]
      simp

/-- A scanned block with both kinds of line end, an empty line and a carriage return that
ends no line, then two blocks made by hand: in one the second line is short of the
indentation, in the other it lacks its terminator. -/
theorem value_line_by_line_three_blocks :
    let text := ['"', '"', '"', '\n', ' ', ' ', 'a', '\\', '\r', '\n', '\n', ' ', ' ', ' ', 'b',
      '\r', 'c', '\n', ' ', ' ', '"', '"', '"']
    let scanned : Block :=
      { markerLength := 3
        trailing := []
        lines := [⟨[' ', ' ', 'a', '\\'], .carriageReturnLineFeed, 4⟩, ⟨[], .lineFeed, 10⟩,
          ⟨[' ', ' ', ' ', 'b', '\r', 'c'], .lineFeed, 11⟩]
        indentation := [' ', ' ']
        quote := '"'
        start := 0
        finish := 23 }
    let value := ['a', '\\', '\r', '\n', '\n', ' ', 'b', '\r', 'c']
    let short : Block :=
      { scanned with lines := [⟨[], .absent, 0⟩, ⟨[' ', 'x'], .lineFeed, -7⟩] }
    let unended : Block :=
      { scanned with lines := [⟨[], .lineFeed, 0⟩, ⟨[' ', ' '], .absent, 5⟩, ⟨[], .absent, 5⟩] }
    scan .standard text 0 = .ok scanned ∧ scanned.value = .ok value ∧
      value.splitOn '\n' = [['a', '\\', '\r'], [], [' ', 'b', '\r', 'c']] ∧
      value.count '\n' = 2 ∧
      FirstMisfit short.indentation short.lines 1 (-6) ∧
      FirstUnended unended.lines ⟨[' ', ' '], .absent, 5⟩ := by
  intro text scanned value short unended
  have fromText : scan .standard text 0 = .ok scanned := by decide +kernel
  have valued : scanned.value = .ok value := by decide +kernel
  obtain ⟨_, _, _, _, _, pieces, count⟩ := value_line_by_line scanned
  refine ⟨fromText, valued, ?_, count _ _ _ _ fromText valued, ?_, ?_⟩
  · have shape : scanned.lines =
        [⟨[' ', ' ', 'a', '\\'], .carriageReturnLineFeed, 4⟩, ⟨[], .lineFeed, 10⟩] ++
          [⟨[' ', ' ', ' ', 'b', '\r', 'c'], .lineFeed, 11⟩] := rfl
    exact (pieces value _ _ valued shape).2 (by decide)
  · obtain ⟨_, misindented, _⟩ := value_line_by_line short
    exact (misindented 1 (-6)).mp (by decide +kernel)
  · obtain ⟨_, _, missing, _⟩ := value_line_by_line unended
    exact ((missing _).mp (by decide +kernel)).2

end Verbatim
