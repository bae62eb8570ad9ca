/-!
# Signed positions in a text

A text is a list of characters.  A position counts characters from the start of
the text, and a negative position counts back from its end, so that `-1` names
the last character.  Cutting clips both ends to the text.  Reading onward is not
clipped: position `0` follows position `-1`, so a reader that starts at a
negative position passes the end of the text and goes on at its beginning.

For positions that are not negative all of this is the plain suffix; that is
what `suffix_of_nonneg` and `onward_of_nonneg` say.
-/

namespace Verbatim

/-- A text is the list of its characters.  Every position, column and length in
this library is a count of characters. -/
abbrev Text := List Char

namespace Text

/-- The number of characters before a position, clipped to the text. -/
def index (text : Text) (position : Int) : Nat :=
  if position < 0 then (text.length + position).toNat
  else min position.toNat text.length

def suffix (text : Text) (position : Int) : Text :=
  text.drop (text.index position)

/-- The characters between two positions; there are none when the positions are
out of order. -/
def slice (text : Text) (start stop : Int) : Text :=
  (text.take (text.index stop)).drop (text.index start)

/-- The character at a position, counted from either end of the text. -/
def charAt? (text : Text) (position : Int) : Option Char :=
  if -(text.length : Int) ≤ position ∧ position < text.length then
    text[text.index position]?
  else none

/-- What a reader meets from a position on: from a negative position first the
end of the text, and then the whole of it. -/
def onward (text : Text) (position : Int) : Text :=
  if position < 0 then text.suffix position ++ text
  else text.drop position.toNat

/-- Where the line that holds a position ends: at its line feed, or where the
text ends. -/
def lineEnd (text : Text) (position : Int) : Nat :=
  text.index position + ((text.suffix position).takeWhile (· ≠ '\n')).length

theorem index_of_le_length {text : Text} {count : Nat} (inside : count ≤ text.length) :
    text.index count = count := by
  unfold index
  split <;> omega

theorem index_natCast (text : Text) (count : Nat) : text.index count = min count text.length := by
  unfold index
  split <;> omega

theorem suffix_of_nonneg {text : Text} {position : Int} (nonneg : 0 ≤ position) :
    text.suffix position = text.drop position.toNat := by
  have notNegative : ¬ position < 0 := by omega
  unfold suffix index
  rw [if_neg notNegative]
  by_cases inside : position.toNat ≤ text.length
  · rw [Nat.min_eq_left inside]
  · rw [Nat.min_eq_right (by omega), List.drop_length,
      List.drop_eq_nil_of_le (by omega)]

theorem onward_of_nonneg {text : Text} {position : Int} (nonneg : 0 ≤ position) :
    text.onward position = text.drop position.toNat := by
  have notNegative : ¬ position < 0 := by omega
  unfold onward
  rw [if_neg notNegative]

theorem onward_of_neg {text : Text} {position : Int} (negative : position < 0) :
    text.onward position = text.drop (text.length + position).toNat ++ text := by
  unfold onward suffix index
  rw [if_pos negative, if_pos negative]

theorem length_onward {text : Text} {position : Int}
    (inside : -(text.length : Int) ≤ position) :
    (text.onward position).length = ((text.length : Int) - position).toNat := by
  by_cases negative : position < 0
  · rw [onward_of_neg negative, List.length_append, List.length_drop]
    omega
  · rw [onward_of_nonneg (by omega), List.length_drop]
    omega

end Text

end Verbatim
