import Verbatim.Failure
import Verbatim.Text.Lines

/-!
# Sources and pictures

Reading knows positions only.  People want a line and a column, and a picture of
the line with the place underlined.  A source is a text with the name of the file
it came from and the number of its first line, and it converts between the two
views.

Rows follow the same rule as reading does: only a line feed starts a new row.
-/

namespace Verbatim

structure Source where
  content : Text
  fileName? : Option Text
  firstRow : Int
  deriving DecidableEq, Repr

/-- How many carets stand below a place in a line: as many as are asked for and fit
on the line, and at least one. -/
def caretCount (line : Text) (start width : Int) : Nat :=
  (max 1 (min width (line.withoutLineEnd.length - start))).toNat

/-- A place in a line: carets below it, and then a caption.  Before the carets a tab
stands below a tab and a blank below anything else.  `margin` precedes the line. -/
def underlined (line : Text) (start width : Int) (margin caption : Text) : Text :=
  let shown := line.withoutLineEnd
  let before := margin ++ shown.take (shown.index start)
  margin ++ shown ++ ['\n'] ++
    before.map (fun char => if char = '\t' then '\t' else ' ') ++
    List.replicate (caretCount line start width) '^' ++ [' '] ++ caption

/-- The caption of a place that nobody captioned. -/
def defaultCaption : Text := "near here".toList

namespace Source

/-- A source without a name whose lines are counted from one. -/
def ofText (content : Text) : Source where
  content := content
  fileName? := none
  firstRow := 1

/-- The row and the column of a position.  Columns are counted from zero.  A
position before the text lies in the row above the first, at a column counted
back from the end of the text; a position beyond the text lies in its last row. -/
def locate (source : Source) (position : Int) : Int × Int :=
  if position < 0 then (source.firstRow - 1, position - source.content.length)
  else
    let before := source.content.take position.toNat
    let lineStart := before.length - (before.reverse.takeWhile (· ≠ '\n')).length
    (source.firstRow + before.count '\n', position - lineStart)

/-- The line of a row, with its line feed.  A row above the first stands for the
first, and one below the last for the last. -/
def line (source : Source) (row : Int) : Text :=
  let lines := source.content.lines
  lines[min (row - source.firstRow).toNat (lines.length - 1)]?.getD []

/-- The reference to a place at which a message begins. -/
def heading (source : Source) (row column : Int) (message : Text) : Text :=
  let place :=
    match source.fileName? with
    | none => "At".toList
    | some name => name ++ [':']
  place ++ " line ".toList ++ Numeral.signed row ++ ", column ".toList ++
    Numeral.signed (column + 1) ++ ": ".toList ++ message

/-- A message about a span: where it begins, and a picture of it. -/
def report (source : Source) (span : Span) (message : Text) : Text :=
  let (row, column) := source.locate span.start
  source.heading row column message ++ ['\n'] ++
    underlined (source.line row) column span.width " >>> ".toList defaultCaption

def explain (source : Source) (malformation : Malformation) : Text :=
  source.report ⟨malformation.position, malformation.position + 1⟩ malformation.rule

end Source

end Verbatim
