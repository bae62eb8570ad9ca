import Verbatim.Text.Numeral
import Verbatim.Text.Printable

/-!
# Quoted text

A quoted text stands on one line and can be read back.  It is enclosed in single
quotes, or in double quotes when it holds a single quote and no double quote.
The backslash and the enclosing quote are escaped by a backslash; tab, line feed
and carriage return have escapes of their own; any other unprintable character is
written by its code, with as many hexadecimal digits as its size needs: two, four
or eight.

Which characters are printable is a parameter.  `quoted` takes the characters
that Unicode calls printable.
-/

namespace Verbatim

namespace Quoted

def enclosing (text : Text) : Char :=
  if '\'' ∈ text ∧ '"' ∉ text then '"' else '\''

/-- The code of a character behind a backslash. -/
def escapedCode (char : Char) : Text :=
  if char.toNat < 0x100 then '\\' :: 'x' :: Numeral.hexadecimal 2 char.toNat
  else if char.toNat < 0x10000 then '\\' :: 'u' :: Numeral.hexadecimal 4 char.toNat
  else '\\' :: 'U' :: Numeral.hexadecimal 8 char.toNat

/-- How a character is written between a pair of enclosing quotes. -/
def escaped (printable : Char → Bool) (quote char : Char) : Text :=
  if char = quote ∨ char = '\\' then ['\\', char]
  else if char = '\t' then ['\\', 't']
  else if char = '\n' then ['\\', 'n']
  else if char = '\r' then ['\\', 'r']
  else if printable char then [char]
  else escapedCode char

/-- A text between its enclosing quotes, for a given notion of printable
character. -/
def quotedWith (printable : Char → Bool) (text : Text) : Text :=
  let quote := enclosing text
  quote :: text.flatMap (escaped printable quote) ++ [quote]

end Quoted

def quoted (text : Text) : Text :=
  Quoted.quotedWith Text.isPrintable text

end Verbatim
