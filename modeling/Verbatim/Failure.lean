import Verbatim.Block
import Verbatim.Text.Numeral

/-!
# What can go wrong

There are exactly three ways for a verbatim string to be malformed.  Each knows
the position of the trouble and the rule that was violated.

Reading may fail for other reasons as well: there may be no marker to begin with,
a position may lie outside the text, a block made by hand may lack a terminator
between two lines, an observer may not be implemented, and a warning may be taken
for an error.
-/

namespace Verbatim

/-- The ways in which a verbatim string is malformed. -/
inductive Malformation where
  /-- Something other than whitespace follows the opening marker on its line. -/
  | strayText (position : Int)
  /-- The text ran out, at `finish`, before a closing marker for the marker at
  `start`.  More text could still close it. -/
  | unterminated (start finish : Int)
  /-- A content line, counted from zero, does not begin with the closing marker's
  indentation, and `position` is the first character that differs. -/
  | misindented (line : Nat) (position : Int)
  deriving DecidableEq, Repr

namespace Malformation

def position : Malformation → Int
  | .strayText position => position
  | .unterminated start _ => start
  | .misindented _ position => position

def rule : Malformation → Text
  | .strayText _ =>
      "only whitespace may follow the opening marker on its line".toList
  | .unterminated _ _ => "verbatim string has no closing marker".toList
  | .misindented _ _ =>
      "every non-blank line must begin with the closing marker's indentation".toList

private def pairText (first second : Int) : Text :=
  '(' :: Numeral.signed first ++ [',', ' '] ++ Numeral.signed second ++ [')']

/-- The numbers of a malformation; several stand in parentheses. -/
def message : Malformation → Text
  | .strayText position => Numeral.signed position
  | .unterminated start finish => pairText start finish
  | .misindented line position => pairText line position

end Malformation

/-- Why nothing was read. -/
inductive Failure where
  | malformed (malformation : Malformation)
  /-- No quote character stands at the offset. -/
  | noMarker (offset : Int)
  /-- Too few quote characters stand at the offset. -/
  | shortMarker (found : Nat) (offset : Int)
  | outOfRange (position : Int)
  /-- A line other than the last has no terminator. -/
  | missingTerminator (line : Line)
  | unimplementedObserver
  /-- A warning was raised instead of being passed on. -/
  | raisedWarning (warning : Text)
  deriving DecidableEq, Repr

/-- Whether a position is a signed number of sixty-four bits.  None other is ever
looked up, however long the text is. -/
def isAddress (position : Int) : Bool :=
  -Int.pow 2 63 ≤ position ∧ position < Int.pow 2 63

def Failure.message : Failure → Text
  | .malformed malformation => malformation.message
  | .noMarker offset =>
      "No verbatim string marker at offset ".toList ++ Numeral.signed offset
  | .shortMarker found offset =>
      "A verbatim string marker needs at least ".toList ++
        Numeral.decimal minimumMarkerLength ++ " quotes; found ".toList ++
        Numeral.decimal found ++ " at offset ".toList ++ Numeral.signed offset
  | .outOfRange position =>
      if isAddress position then "string index out of range".toList
      else "cannot fit 'int' into an index-sized integer".toList
  | .missingTerminator _ => "Only the last content line may lack a terminator".toList
  | .unimplementedObserver => "the observer is not implemented".toList
  | .raisedWarning warning => warning

end Verbatim
