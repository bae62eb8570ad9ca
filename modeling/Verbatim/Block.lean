import Verbatim.Text.Position

/-!
# Captured blocks

A block is a verbatim string exactly as it stands in a text: what followed its
opening marker, the lines between its markers, and the indentation of its closing
marker.  Nothing in it is interpreted.  A block that came from a scan satisfies
much more than its type says; blocks may also be made by hand, with any numbers
in them.
-/

namespace Verbatim

/-- The least number of quote characters in a marker. -/
def minimumMarkerLength : Nat := 3

inductive Terminator where
  | lineFeed
  | carriageReturnLineFeed
  | absent
  deriving DecidableEq, Repr

def Terminator.characters : Terminator → Text
  | .lineFeed => ['\n']
  | .carriageReturnLineFeed => ['\r', '\n']
  | .absent => []

/-- A captured line: its text without the terminator, and where that text
starts. -/
structure Line where
  text : Text
  terminator : Terminator
  offset : Int
  deriving DecidableEq, Repr

/-- The captured line for a line that ended in a line feed.  A carriage return
directly before the line feed belongs to the terminator. -/
def Line.ofTerminated (offset : Int) (line : Text) : Line :=
  if line.getLast? = some '\r' then ⟨line.dropLast, .carriageReturnLineFeed, offset⟩
  else ⟨line, .lineFeed, offset⟩

/-- A line is its text followed by its terminator. -/
def Line.characters (line : Line) : Text :=
  line.text ++ line.terminator.characters

theorem Line.characters_ofTerminated (offset : Int) (line : Text) :
    (Line.ofTerminated offset line).characters = line ++ ['\n'] := by
  unfold Line.ofTerminated
  split
  · next ending =>
      obtain ⟨front, rfl⟩ := List.getLast?_eq_some_iff.mp ending
      simp [Line.characters, Terminator.characters]
  · rfl

/-- A stretch of a text, from its first position to just past its last one. -/
structure Span where
  start : Int
  stop : Int
  deriving DecidableEq, Repr

/-- The number of characters a span covers when it lies within a text. -/
def Span.width (span : Span) : Int :=
  span.stop - span.start

/-- A verbatim string as captured.

`markerLength` counts the quote characters of each marker, `trailing` is the
whitespace after the opening marker, `lines` are the lines between the marker
lines and `indentation` is what stands before the closing marker.  The opening
marker begins at `start`; `finish` is just past the closing one, where the host
goes on reading. -/
structure Block where
  markerLength : Int
  trailing : Text
  lines : List Line
  indentation : Text
  quote : Char
  start : Int
  finish : Int
  deriving DecidableEq, Repr

def Block.openingMarker (block : Block) : Span :=
  ⟨block.start, block.start + block.markerLength⟩

def Block.closingMarker (block : Block) : Span :=
  ⟨block.finish - block.markerLength, block.finish⟩

end Verbatim
