import Verbatim.Text.Numeral

/-!
# JSON text

Only as much of JSON as a listing of literals needs: numbers, strings, arrays and
objects, written in ASCII.  In a string, the quotation mark, the backslash and
the common control characters have their short escapes, and every other character
outside the printable ASCII range is written as its UTF-16 code units.

A compact text separates items by a comma and a blank.  An indented one gives
each item a line of its own, indented by two blanks for each level.
-/

namespace Verbatim

namespace Json

/-- The UTF-16 code units of a character: one, or a surrogate pair. -/
def codeUnits (char : Char) : List Nat :=
  if char.toNat < 0x10000 then [char.toNat]
  else
    [0xD800 + (char.toNat - 0x10000) / 0x400,
      0xDC00 + (char.toNat - 0x10000) % 0x400]

def escaped (char : Char) : Text :=
  if char = '"' then ['\\', '"']
  else if char = '\\' then ['\\', '\\']
  else if char = '\n' then ['\\', 'n']
  else if char = '\r' then ['\\', 'r']
  else if char = '\t' then ['\\', 't']
  else if char = '\x08' then ['\\', 'b']
  else if char = '\x0c' then ['\\', 'f']
  else if 0x20 ≤ char.toNat ∧ char.toNat ≤ 0x7e then [char]
  else (codeUnits char).flatMap fun unit =>
    '\\' :: 'u' :: Numeral.hexadecimal 4 unit

def string (text : Text) : Text :=
  '"' :: text.flatMap escaped ++ ['"']

/-- Whether items share a line or have a line each. -/
inductive Layout where
  | compact
  | indented
  deriving DecidableEq, Repr

/-- The line break and margin before an item at a level; a compact text has
none. -/
def Layout.margin (layout : Layout) (level : Nat) : Text :=
  match layout with
  | .compact => []
  | .indented => '\n' :: List.replicate (2 * level) ' '

/-- What stands between two items at a level. -/
def Layout.separator (layout : Layout) (level : Nat) : Text :=
  match layout with
  | .compact => [',', ' ']
  | .indented => ',' :: layout.margin level

/-- Items between brackets, the items standing one level below the brackets.
Brackets without items are written without a break. -/
def bracketed (layout : Layout) (level : Nat) (left right : Char)
    (items : List Text) : Text :=
  match items with
  | [] => [left, right]
  | _ :: _ =>
      left :: layout.margin (level + 1) ++
        (layout.separator (level + 1)).intercalate items ++
        layout.margin level ++ [right]

def array (layout : Layout) (level : Nat) (items : List Text) : Text :=
  bracketed layout level '[' ']' items

/-- An object with the given names, whose values are JSON text. -/
def object (layout : Layout) (level : Nat) (members : List (Text × Text)) : Text :=
  bracketed layout level '\x7b' '\x7d' <|
    members.map fun (name, value) => string name ++ ':' :: ' ' :: value

end Json

end Verbatim
