import Verbatim.Text.Position

/-!
# Numerals

A number is written with the fewest decimal digits, and a negative one with a
leading minus sign.  A report column keeps the first place free for the sign and
pads with blanks on the left.  A character code is written in a fixed number of
lower-case hexadecimal digits.
-/

namespace Verbatim

namespace Numeral

def decimal (number : Nat) : Text :=
  Nat.toDigits 10 number

/-- An integer in decimal, with a sign when it is negative. -/
def signed (number : Int) : Text :=
  if number < 0 then '-' :: decimal number.natAbs else decimal number.natAbs

/-- An integer in a column that is at least `width` wide.  A blank stands where
the minus sign of a negative number would be. -/
def inColumn (width : Nat) (number : Int) : Text :=
  ((if number < 0 then '-' else ' ') :: decimal number.natAbs).leftpad width ' '

/-- The last `width` hexadecimal digits of a number. -/
def hexadecimal : Nat → Nat → Text
  | 0, _ => []
  | width + 1, number => hexadecimal width (number / 16) ++ [Nat.digitChar (number % 16)]

theorem signed_natCast (number : Nat) : signed number = decimal number := by
  have notNegative : ¬ (number : Int) < 0 := by omega
  simp [signed, notNegative]

end Numeral

end Verbatim
