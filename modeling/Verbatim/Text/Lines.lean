import Verbatim.Text.Position

/-!
# Lines of a text

A line ends at a line feed and nowhere else.  A carriage return means something
only directly before that line feed; anywhere else it is an ordinary character,
and so is every other separator.

`lines` keeps the line feeds, so the lines concatenate to the text, and the last
line is whatever follows the last line feed, be it empty.
-/

namespace Verbatim

namespace Text

def firstLine (text : Text) : Text :=
  text.takeWhile (· ≠ '\n')

def afterFirstLine? (text : Text) : Option Text :=
  match text.dropWhile (· ≠ '\n') with
  | [] => none
  | _ :: rest => some rest

/-- The line without the carriage return that may end it. -/
def withoutFinalReturn (line : Text) : Text :=
  if line.getLast? = some '\r' then line.dropLast else line

/-- The lines of a text, each with its line feed, and then what follows the last
line feed. -/
def lines : Text → List Text
  | [] => [[]]
  | char :: rest =>
      if char = '\n' then [char] :: lines rest
      else
        match lines rest with
        | [] => [[char]]
        | line :: more => (char :: line) :: more

/-- The line without any carriage returns and line feeds that end it. -/
def withoutLineEnd (line : Text) : Text :=
  (line.reverse.dropWhile fun char => char = '\n' || char = '\r').reverse

theorem firstLine_append_dropWhile (text : Text) :
    text.firstLine ++ text.dropWhile (· ≠ '\n') = text :=
  List.takeWhile_append_dropWhile

/-- What follows the first line feed is the text without its first line and that
line feed. -/
theorem eq_firstLine_append_of_afterFirstLine?_eq_some {text rest : Text}
    (follows : text.afterFirstLine? = some rest) :
    text = text.firstLine ++ '\n' :: rest := by
  unfold afterFirstLine? at follows
  have whole := firstLine_append_dropWhile text
  split at follows
  · cases follows
  · next feed tail dropped =>
      cases follows
      have stopped : feed = '\n' := by
        have := List.head?_dropWhile_not (fun char : Char => decide (char ≠ '\n')) text
        rw [dropped] at this
        simpa using this
      rw [dropped, stopped] at whole
      exact whole.symm

theorem length_lt_of_afterFirstLine?_eq_some {text rest : Text}
    (follows : text.afterFirstLine? = some rest) :
    rest.length < text.length := by
  have whole := congrArg List.length (eq_firstLine_append_of_afterFirstLine?_eq_some follows)
  simp at whole
  omega

theorem flatten_lines (text : Text) : text.lines.flatten = text := by
  induction text with
  | nil => rfl
  | cons char rest induction =>
      unfold lines
      split
      · simp [induction]
      · split
        · next none => rw [none] at induction; simp at induction; simp [← induction]
        · next line more some => rw [some] at induction; simpa using induction

end Text

end Verbatim
