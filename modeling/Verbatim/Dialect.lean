import Verbatim.Text.Quoted

/-!
# Dialects

A host language has its own quote characters and its own notion of whitespace,
and a verbatim string must agree with both.  A dialect records the two choices.
It always has a quote character: `Dialect.ofSettings` refuses settings without
one, and whitespace modes that do not exist.

Line feeds and carriage returns are whitespace in no mode, because they delimit
lines.  Each mode accepts everything that the mode before it accepts.
-/

namespace Verbatim

inductive Whitespace where
  /-- Blanks and tabs. -/
  | normal
  /-- Form feeds and vertical tabs as well. -/
  | ascii
  /-- Everything Unicode counts as whitespace, line breaks apart. -/
  | unicode
  deriving DecidableEq, Repr

namespace Whitespace

def characters : Whitespace → List Char
  | .normal => [' ', '\t']
  | .ascii => [' ', '\t', '\x0c', '\x0b']
  | .unicode =>
      [' ', '\t', '\x0c', '\x0b', '\x1c', '\x1d', '\x1e', '\x1f', '\u0085', '\u00a0',
        '\u1680', '\u2000', '\u2001', '\u2002', '\u2003', '\u2004', '\u2005', '\u2006',
        '\u2007', '\u2008', '\u2009', '\u200a', '\u2028', '\u2029', '\u202f', '\u205f',
        '\u3000']

/-- The name by which settings refer to a mode. -/
def name : Whitespace → Text
  | .normal => "normal".toList
  | .ascii => "ascii".toList
  | .unicode => "unicode".toList

/-- The modes in the order of their names. -/
def all : List Whitespace := [.ascii, .normal, .unicode]

def ofName? (name : Text) : Option Whitespace :=
  all.find? fun mode => mode.name = name

theorem characters_normal_subset_ascii :
    Whitespace.normal.characters ⊆ Whitespace.ascii.characters := by decide

theorem characters_ascii_subset_unicode :
    Whitespace.ascii.characters ⊆ Whitespace.unicode.characters := by decide

theorem lineFeed_not_mem_characters (mode : Whitespace) : '\n' ∉ mode.characters := by
  cases mode <;> decide

theorem carriageReturn_not_mem_characters (mode : Whitespace) :
    '\r' ∉ mode.characters := by
  cases mode <;> decide

end Whitespace

/-- The quote characters and the whitespace of a host language. -/
structure Dialect where
  quotes : Text
  whitespace : Whitespace
  quotes_ne_nil : quotes ≠ []
  deriving DecidableEq, Repr

/-- Why settings do not make a dialect. -/
inductive DialectFault where
  | unknownWhitespace (name : Text)
  | noQuotes
  deriving DecidableEq, Repr

def DialectFault.message : DialectFault → Text
  | .unknownWhitespace name =>
      "Unknown whitespace mode ".toList ++ quoted name ++ "; expected one of ".toList ++
        ", ".toList.intercalate (Whitespace.all.map Whitespace.name)
  | .noQuotes => "A dialect needs at least one quote character".toList

namespace Dialect

/-- A quotation mark opens and closes, and blanks and tabs are whitespace. -/
def standard : Dialect where
  quotes := ['"']
  whitespace := .normal
  quotes_ne_nil := by decide

def ofQuotes (quotes : Text) (whitespace : Whitespace) : Except DialectFault Dialect :=
  if present : quotes ≠ [] then .ok ⟨quotes, whitespace, present⟩
  else .error .noQuotes

/-- The dialect with the given quote characters and the named whitespace mode.
An unknown mode is refused before missing quotes are. -/
def ofSettings (quotes name : Text) : Except DialectFault Dialect :=
  match Whitespace.ofName? name with
  | none => .error (.unknownWhitespace name)
  | some whitespace => ofQuotes quotes whitespace

def isWhitespace (dialect : Dialect) (char : Char) : Bool :=
  dialect.whitespace.characters.contains char

def isQuote (dialect : Dialect) (char : Char) : Bool :=
  dialect.quotes.contains char

theorem isWhitespace_lineFeed (dialect : Dialect) : dialect.isWhitespace '\n' = false := by
  simpa [isWhitespace] using dialect.whitespace.lineFeed_not_mem_characters

theorem isWhitespace_carriageReturn (dialect : Dialect) : dialect.isWhitespace '\r' = false := by
  simpa [isWhitespace] using dialect.whitespace.carriageReturn_not_mem_characters

end Dialect

end Verbatim
