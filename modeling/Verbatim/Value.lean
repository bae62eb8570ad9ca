import Verbatim.Failure

/-!
# The value of a block

The closing marker's indentation is the yardstick: every content line that is not
empty must begin with exactly that indentation, and loses it.  An empty line is
exempt, so nobody has to pad blank lines; a line of blanks is not empty.

The value is the stripped lines with the terminators between them.  The
terminator of the last line belongs to the closing line.  Nothing else changes,
and no escape is decoded.
-/

namespace Verbatim

/-- How many characters two texts agree on from their beginning. -/
def agreement : Text → Text → Nat
  | left :: lefts, right :: rights => if left = right then agreement lefts rights + 1 else 0
  | _, _ => 0

/-- A content line without the indentation, where `index` counts content lines
from zero. -/
def Line.strip (indentation : Text) (index : Nat) (line : Line) :
    Except Malformation Text :=
  if line.text = [] then .ok []
  else if indentation <+: line.text then .ok (line.text.drop indentation.length)
  else .error (.misindented index (line.offset + agreement line.text indentation))

/-- The lines, the first of which has the given index, without the
indentation. -/
def stripLines (indentation : Text) (index : Nat) :
    List Line → Except Malformation (List Text)
  | [] => .ok []
  | line :: later => do
      let text ← line.strip indentation index
      let texts ← stripLines indentation (index + 1) later
      .ok (text :: texts)

def Block.strippedLines (block : Block) : Except Malformation (List Text) :=
  stripLines block.indentation 0 block.lines

/-- Stripped lines with the terminators between them.  Only the last line may
lack a terminator, and the last line's terminator is dropped. -/
def joinLines : List (Line × Text) → Except Failure Text
  | [] => .ok []
  | [(_, text)] => .ok text
  | (line, text) :: later =>
      if line.terminator = .absent then .error (.missingTerminator line)
      else (joinLines later).map fun rest => text ++ line.terminator.characters ++ rest

def Block.value (block : Block) : Except Failure Text := do
  let texts ← block.strippedLines.mapError Failure.malformed
  joinLines (block.lines.zip texts)

end Verbatim
