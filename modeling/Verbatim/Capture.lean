import Verbatim.Marker
import Verbatim.Text.Lines

/-!
# Capturing lines

The opening line may hold only whitespace after its marker.  After it, whole
lines are captured as they stand until a closing line appears: whitespace, then
exactly as many quote characters as the opening marker has, and no further one.
A longer or a shorter run never closes the block; that is what lets an author
choose a marker that the content does not contain.

All functions here read the remaining text only.  Positions are handed on and
never looked up.
-/

namespace Verbatim

/-- What the rest of an opening line turned out to be. -/
inductive OpeningLine where
  /-- The character at the index is neither whitespace nor part of the line's
  end. -/
  | stray (index : Nat)
  /-- The text ends before the line does. -/
  | cutOff
  /-- Whitespace and a line end, with the text that follows. -/
  | complete (trailing rest : Text)
  deriving DecidableEq, Repr

/-- Read the rest of an opening line.  A carriage return that ends it is half of
a line end, or will be once more text arrives. -/
def OpeningLine.read (dialect : Dialect) (text : Text) : OpeningLine :=
  let trailing := text.firstLine.withoutFinalReturn
  match trailing.findIdx? fun char => !dialect.isWhitespace char with
  | some index => .stray index
  | none =>
      match text.afterFirstLine? with
      | none => .cutOff
      | some rest => .complete trailing rest

theorem OpeningLine.afterFirstLine?_of_read_eq_complete {dialect : Dialect}
    {text trailing rest : Text} (complete : read dialect text = .complete trailing rest) :
    text.afterFirstLine? = some rest := by
  unfold read at complete
  simp only at complete
  split at complete
  · cases complete
  · split at complete
    · cases complete
    · next follows => cases complete; exact follows

/-- The indentation of a closing line for a marker; a line that does not close
has none. -/
def closingIndentation? (dialect : Dialect) (quote : Char) (length : Nat) (line : Text) :
    Option Text :=
  if leadingRun quote (line.dropWhile dialect.isWhitespace) = length then
    some (line.takeWhile dialect.isWhitespace)
  else none

/-- What was captured: the content lines, how far the capture came, and the
closing indentation if a closing line was found.  Without one, the capture came
as far as the line that the end of the text cut off. -/
structure Capture where
  lines : List Line
  position : Int
  indentation? : Option Text
  deriving DecidableEq, Repr

/-- Capture lines from `position` on until one closes the block. -/
def capture (dialect : Dialect) (quote : Char) (length : Nat) (position : Int)
    (text : Text) : Capture :=
  match closingIndentation? dialect quote length text.firstLine with
  | some indentation =>
      ⟨[], position + indentation.length + length, some indentation⟩
  | none =>
      match follows : text.afterFirstLine? with
      | none => ⟨[], position, none⟩
      | some rest =>
          let later :=
            capture dialect quote length (position + text.firstLine.length + 1) rest
          { later with lines := Line.ofTerminated position text.firstLine :: later.lines }
termination_by text.length
decreasing_by exact Text.length_lt_of_afterFirstLine?_eq_some follows

theorem capture_of_closing {dialect : Dialect} {quote : Char} {length : Nat}
    {position : Int} {text indentation : Text}
    (closes : closingIndentation? dialect quote length text.firstLine = some indentation) :
    capture dialect quote length position text =
      ⟨[], position + indentation.length + length, some indentation⟩ := by
  rw [capture]
  simp [closes]

theorem capture_of_cutOff {dialect : Dialect} {quote : Char} {length : Nat}
    {position : Int} {text : Text}
    (content : closingIndentation? dialect quote length text.firstLine = none)
    (last : text.afterFirstLine? = none) :
    capture dialect quote length position text = ⟨[], position, none⟩ := by
  rw [capture]
  simp only [content]
  split
  · rfl
  · next follows => rw [last] at follows; cases follows

theorem capture_of_content {dialect : Dialect} {quote : Char} {length : Nat}
    {position : Int} {text rest : Text}
    (content : closingIndentation? dialect quote length text.firstLine = none)
    (follows : text.afterFirstLine? = some rest) :
    capture dialect quote length position text =
      { capture dialect quote length (position + text.firstLine.length + 1) rest with
        lines := Line.ofTerminated position text.firstLine ::
          (capture dialect quote length (position + text.firstLine.length + 1) rest).lines } := by
  rw [capture]
  simp only [content]
  split
  · next last => rw [follows] at last; cases last
  · next other same => rw [follows] at same; cases same; rfl

theorem le_position_capture (dialect : Dialect) (quote : Char) (length : Nat)
    (position : Int) (text : Text) :
    position ≤ (capture dialect quote length position text).position := by
  fun_induction capture dialect quote length position text with
  | case1 position text indentation closes => simp only; omega
  | case2 position text content last => exact Int.le_refl _
  | case3 position text content rest follows later induction =>
      simp only [later] at *
      omega

end Verbatim
