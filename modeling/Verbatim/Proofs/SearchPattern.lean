import Verbatim.Text.Numeral

/-!
# Search patterns

A search pattern is a regular expression.  `Pattern` has as much of the language as a search
for equal characters needs: a set of characters, a group that remembers what it took, a
reference to it, a sequence, and a greedy repetition with a least count.

`Pattern.ways` lists all ways to match a pattern at the front of a text, in the order in
which they are tried; a repetition tries one more round before it goes on.  The first way
counts.  `Pattern.search?` finds the leftmost place with a way, and `Pattern.spans` goes on
searching where the last match ended.

`Pattern.parse?` reads the notation, for a set in a group and a counted reference to it.
In a set, a backslash takes its meaning from a character that has one; `escape` writes
backslashes before all of those.
-/

namespace Verbatim

/-- The characters from some codes on up to others, or all the other ones. -/
structure CharacterSet where
  negated : Bool
  stretches : List (Char × Char)
  deriving DecidableEq, Repr

def CharacterSet.holds (set : CharacterSet) (char : Char) : Bool :=
  set.negated != set.stretches.any fun (first, last) => first ≤ char && char ≤ last

inductive Pattern where
  | set (members : CharacterSet)
  /-- What the body takes is remembered. -/
  | group (body : Pattern)
  /-- What the group took, once more. -/
  | reference
  | sequence (first second : Pattern)
  /-- At least `count` rounds of the body, and as many as possible. -/
  | atLeast (count : Nat) (body : Pattern)
  deriving DecidableEq, Repr

namespace Pattern

/-- Where a match has come to: what the group took, if it took anything, and the text that
is left. -/
abbrev Way := Option Text × Text

/-- Rounds of a body, as many as there are; a round that takes nothing is the last. -/
def rounds (body : Way → List Way) (way : Way) : List Way :=
  ((body way).flatMap fun next =>
    if _shorter : next.2.length < way.2.length then rounds body next else []) ++ [way]
termination_by way.2.length

/-- Rounds of a body, the first `count` of which are required. -/
def repeated (body : Way → List Way) : Nat → Way → List Way
  | 0, way => rounds body way
  | count + 1, way => (body way).flatMap (repeated body count)

/-- All ways to go on with a pattern, the ones to be tried first in front. -/
def ways : Pattern → Way → List Way
  | .set _, (_, []) => []
  | .set members, (taken?, char :: rest) =>
      if members.holds char then [(taken?, rest)] else []
  | .group body, way =>
      (ways body way).map fun next =>
        (some (way.2.take (way.2.length - next.2.length)), next.2)
  | .reference, (none, _) => []
  | .reference, (some taken, text) =>
      if taken <+: text then [(some taken, text.drop taken.length)] else []
  | .sequence first second, way => (ways first way).flatMap (ways second)
  | .atLeast count body, way => repeated (ways body) count way

/-- How many characters at the front of a text the pattern matches. -/
def length? (pattern : Pattern) (text : Text) : Option Nat :=
  (pattern.ways (none, text)).head?.map fun way => text.length - way.2.length

/-- The leftmost match in a text whose first character stands at an offset: where it begins
and where it ends. -/
def search? (pattern : Pattern) (offset : Nat) : Text → Option (Nat × Nat)
  | [] => (pattern.length? []).map fun length => (offset, offset + length)
  | char :: rest =>
      match pattern.length? (char :: rest) with
      | some length => some (offset, offset + length)
      | none => search? pattern (offset + 1) rest

/-- The matches from an offset on, each search beginning where the match before ended.
After a match that took nothing there is no further search. -/
def spansFrom (pattern : Pattern) (text : Text) (offset : Nat) : List (Nat × Nat) :=
  match pattern.search? offset (text.drop offset) with
  | none => []
  | some (start, stop) =>
      (start, stop) ::
        if _ahead : offset < stop ∧ stop ≤ text.length then spansFrom pattern text stop else []
termination_by text.length - offset

def spans (pattern : Pattern) (text : Text) : List (Nat × Nat) :=
  pattern.spansFrom text 0

section Notation

/-- A character of the notation, by itself or behind a backslash. -/
inductive Token where
  | plain (char : Char)
  | escaped (char : Char)
  deriving DecidableEq, Repr

/-- The tokens of a written pattern, unless a lone backslash ends it. -/
def tokens? : Text → Option (List Token)
  | [] => some []
  | char :: rest =>
      if char = '\\' then
        match rest with
        | [] => none
        | escaped :: rest => (tokens? rest).map (.escaped escaped :: ·)
      else (tokens? rest).map (.plain char :: ·)

theorem tokens?_plain {char : Char} (ordinary : char ≠ '\\') (rest : Text) :
    tokens? (char :: rest) = (tokens? rest).map (.plain char :: ·) := by
  rw [tokens?.eq_def]
  simp only [if_neg ordinary]

theorem tokens?_escaped (char : Char) (rest : Text) :
    tokens? ('\\' :: char :: rest) = (tokens? rest).map (.escaped char :: ·) := by
  rw [tokens?.eq_def]
  simp only [if_true]

/-- The character that a token stands for in a set.  Letters and digits mean something else
behind a backslash. -/
def Token.member? : Token → Option Char
  | .plain char => some char
  | .escaped char => if char.isAlphanum then none else some char

/-- The stretches of a set up to its closing bracket, and the tokens behind it.  A bracket
that comes first is a member. -/
def stretches? (first : Bool) : List Token → Option (List (Char × Char) × List Token)
  | [] => none
  | token :: rest =>
      if token = .plain ']' ∧ first = false then some ([], rest)
      else
        match token.member?, rest with
        | none, _ => none
        | some low, .plain '-' :: .plain ']' :: rest => some ([(low, low), ('-', '-')], rest)
        | some low, .plain '-' :: token :: rest =>
            match token.member? with
            | none => none
            | some high =>
                if high < low then none
                else (stretches? false rest).map fun (later, rest) => ((low, high) :: later, rest)
        | some low, rest =>
            (stretches? false rest).map fun (later, rest) => ((low, low) :: later, rest)

theorem stretches?_close (rest : List Token) :
    stretches? false (.plain ']' :: rest) = some ([], rest) := by
  rw [stretches?.eq_def]
  simp

/-- A member without a hyphen behind it stands for itself. -/
theorem stretches?_single {first : Bool} {token next : Token} {low : Char} {rest : List Token}
    (opened : token ≠ .plain ']') (member : token.member? = some low)
    (apart : next ≠ .plain '-') :
    stretches? first (token :: next :: rest) =
      (stretches? false (next :: rest)).map fun (later, rest) => ((low, low) :: later, rest) := by
  rw [stretches?.eq_def]
  simp only [opened, false_and, if_false, member]
  split
  · next absent => cases absent
  · next range => exact absurd (List.cons.inj range).1 apart
  · next range => exact absurd (List.cons.inj range).1 apart
  · next same _ _ =>
      cases same
      rfl

/-- The set behind an opening bracket, and the tokens behind it. -/
def set? : List Token → Option (CharacterSet × List Token)
  | .plain '^' :: rest => (stretches? true rest).map fun (found, rest) => (⟨true, found⟩, rest)
  | tokens => (stretches? true tokens).map fun (found, rest) => (⟨false, found⟩, rest)

theorem set?_of_ne_caret {token : Token} {rest : List Token} (apart : token ≠ .plain '^') :
    set? (token :: rest) =
      (stretches? true (token :: rest)).map fun (found, rest) => (⟨false, found⟩, rest) := by
  unfold set?
  split
  · next caret => exact absurd (List.cons.inj caret).1 apart
  · rfl

/-- The count, of one digit, in braces that leave its upper end open and end the pattern. -/
def openCount? (tokens : List Token) : Option Nat :=
  match tokens with
  | .plain '\x7b' :: .plain digit :: [.plain ',', .plain '\x7d'] =>
      if digit.isDigit then some (digit.toNat - '0'.toNat) else none
  | _ => none

/-- Read a pattern that consists of a set in a group and a counted reference to the
group. -/
def parse? (written : Text) : Option Pattern := do
  let .plain '(' :: .plain '[' :: tokens ← tokens? written | none
  let (members, .plain ')' :: .escaped '1' :: tokens) ← set? tokens | none
  let count ← openCount? tokens
  some (.sequence (.group (.set members)) (.atLeast count .reference))

/-- The characters that may mean more than themselves in a pattern. -/
def specialCharacters : List Char :=
  ['(', ')', '[', ']', '\x7b', '\x7d', '?', '*', '+', '-', '|', '^', '$', '\\', '.', '&', '~',
    '#', ' ', '\t', '\n', '\r', '\x0b', '\x0c']

/-- The text in which every character stands for itself. -/
def escape (text : Text) : Text :=
  text.flatMap fun char => if char ∈ specialCharacters then ['\\', char] else [char]

end Notation

end Pattern

end Verbatim
