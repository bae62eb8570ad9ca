import Mathlib.Data.Nat.Digits.Defs
import Verbatim.Proofs.Runs
import Verbatim.Text.Quoted

/-!
# Reading numerals and quoted texts back

A decoder takes a value off the front of a text.  It undoes a way of writing when it finds
the value whatever stands behind (`Decodes`); only a digit behind a numeral would be taken
for a part of it.

Escapes are given by a table: the letters that stand for a character each, and the letters
that a code in a fixed number of hexadecimal digits follows.  A decoder for an escaped text
finds codes up to the closing quote, and what is written piece by piece is read piece by
piece (`Spells`).  `Quoted.decodes_quotedWith` puts this together for quoted texts: whichever
characters count as printable, and with either enclosing quote, the text is found again.
-/

namespace Verbatim

/-- Takes a value off the front of a text, and leaves the rest. -/
abbrev Decoder (α : Type) := Text → Option (α × Text)

/-- No digit stands at the front of a text. -/
def Text.Separated (rest : Text) : Prop :=
  ∀ char ∈ rest.head?, char.isDigit = false

/-- A decoder finds a value by what was written for it. -/
def Decoder.Decodes {α : Type} (decoder : Decoder α) (written : Text) (value : α) : Prop :=
  ∀ rest : Text, rest.Separated → decoder (written ++ rest) = some (value, rest)

theorem mapM_map_eq_some {α β γ : Type} {write : α → β} {read : β → Option γ} {value : α → γ}
    {items : List α} (each : ∀ item ∈ items, read (write item) = some (value item)) :
    (items.map write).mapM read = some (items.map value) := by
  induction items with
  | nil => rfl
  | cons item later induction =>
      obtain ⟨here, there⟩ := List.forall_mem_cons.mp each
      simp [here, induction there]

/-- All characters are visible ASCII characters or blanks. -/
def Text.Printed (text : Text) : Prop :=
  ∀ char ∈ text, ' ' ≤ char ∧ char ≤ '~'

/-- No character is beyond ASCII. -/
def Text.IsAscii (text : Text) : Prop :=
  ∀ char ∈ text, char.toNat < 0x80

namespace Text

theorem IsAscii.append {front rest : Text} (first : front.IsAscii) (second : rest.IsAscii) :
    IsAscii (front ++ rest) :=
  List.forall_mem_append.mpr ⟨first, second⟩

theorem IsAscii.cons {char : Char} {rest : Text} (first : char.toNat < 0x80)
    (second : rest.IsAscii) : IsAscii (char :: rest) :=
  List.forall_mem_cons.mpr ⟨first, second⟩

theorem isAscii_nil : IsAscii [] :=
  List.forall_mem_nil _

theorem separated_nil : Text.Separated [] := by
  intro char first
  cases first

theorem separated_cons {char : Char} (apart : char.isDigit = false) (rest : Text) :
    Text.Separated (char :: rest) := by
  intro first same
  cases same
  exact apart

theorem Printed.append {front rest : Text} (first : front.Printed) (second : rest.Printed) :
    Printed (front ++ rest) :=
  List.forall_mem_append.mpr ⟨first, second⟩

theorem Printed.cons {char : Char} {rest : Text} (first : ' ' ≤ char ∧ char ≤ '~')
    (second : rest.Printed) : Printed (char :: rest) :=
  List.forall_mem_cons.mpr ⟨first, second⟩

theorem printed_nil : Printed [] :=
  List.forall_mem_nil _

theorem Printed.flatMap {α : Type} {items : List α} {written : α → Text}
    (each : ∀ item ∈ items, (written item).Printed) : Printed (items.flatMap written) := by
  intro char member
  obtain ⟨item, among, inside⟩ := List.mem_flatMap.mp member
  exact each item among char inside

theorem Printed.isAscii {text : Text} (printed : text.Printed) : text.IsAscii := by
  intro char member
  have bound : char.toNat ≤ '~'.toNat := (printed char member).2
  exact Nat.lt_of_le_of_lt bound (by decide)

theorem lineBreak_lt_blank {lineBreak : Char} (isBreak : lineBreak = '\n' ∨ lineBreak = '\r') :
    lineBreak < ' ' := by
  rcases isBreak with rfl | rfl <;> decide

/-- What is printed stays on its line. -/
theorem Printed.not_mem {text : Text} (printed : text.Printed) {lineBreak : Char}
    (below : lineBreak < ' ') : lineBreak ∉ text :=
  fun member => Char.not_lt.mpr (printed lineBreak member).1 below

end Text

namespace Numeral

section Decimal

theorem isDigit_of_mem_decimal {number : Nat} {char : Char} (member : char ∈ decimal number) :
    char.isDigit = true :=
  Nat.isDigit_of_mem_toDigits (by decide) (by decide) member

theorem exists_decimal_eq (number : Nat) :
    ∃ digit others, decimal number = digit :: others ∧ digit.isDigit = true := by
  obtain ⟨digit, others, shape⟩ := List.exists_cons_of_ne_nil
    (show decimal number ≠ [] from Nat.toDigits_ne_nil)
  exact ⟨digit, others, shape, isDigit_of_mem_decimal (shape ▸ List.mem_cons_self)⟩

theorem printed_decimal (number : Nat) : Text.Printed (decimal number) := by
  intro char member
  have digit := isDigit_of_mem_decimal member
  simp only [Char.isDigit, Bool.and_eq_true, decide_eq_true_eq] at digit
  exact ⟨Char.le_trans (by decide) digit.1, Char.le_trans digit.2 (by decide)⟩

theorem printed_signed (number : Int) : Text.Printed (signed number) := by
  unfold signed
  split
  · exact .cons (by decide) (printed_decimal _)
  · exact printed_decimal _

/-- A number begins with its sign or with a digit. -/
theorem exists_signed_eq (number : Int) :
    ∃ char behind, signed number = char :: behind ∧ (char = '-' ∨ char.isDigit = true) := by
  unfold signed
  split
  · exact ⟨_, _, rfl, .inl rfl⟩
  · obtain ⟨digit, others, shape, isDigit⟩ := exists_decimal_eq number.natAbs
    exact ⟨digit, others, shape, .inr isDigit⟩

/-- The number that the digits at the front of a text make, unless there are none. -/
def decodeDecimal : Decoder Nat := fun text =>
  match text.takeWhile Char.isDigit with
  | [] => none
  | digit :: digits =>
      some (Nat.ofDigitChars 10 (digit :: digits) 0, text.dropWhile Char.isDigit)

def decodeSigned : Decoder Int
  | [] => none
  | char :: rest =>
      if char = '-' then (decodeDecimal rest).map fun (number, rest) => (-number, rest)
      else (decodeDecimal (char :: rest)).map fun (number, rest) => (number, rest)

theorem decodes_decimal (number : Nat) :
    Decoder.Decodes decodeDecimal (decimal number) number := by
  intro rest separated
  have digits := fun char (member : char ∈ decimal number) => isDigit_of_mem_decimal member
  obtain ⟨digit, others, shape, _⟩ := exists_decimal_eq number
  have whole : Nat.ofDigitChars 10 (digit :: others) 0 = number := by
    rw [← shape]
    exact Nat.ofDigitChars_toDigits (by decide) (by decide)
  unfold decodeDecimal
  rw [takeWhile_append_of_boundary digits separated,
    dropWhile_append_of_boundary digits separated, shape]
  simp only [whole]

theorem decodes_signed (number : Int) :
    Decoder.Decodes decodeSigned (signed number) number := by
  intro rest separated
  have found := decodes_decimal number.natAbs rest separated
  unfold signed
  split
  · next negative =>
      have value : -(number.natAbs : Int) = number := by omega
      simp only [List.cons_append, decodeSigned, if_true, found, Option.map_some, value]
  · next notNegative =>
      have value : (number.natAbs : Int) = number := by omega
      obtain ⟨digit, others, shape, isDigit⟩ := exists_decimal_eq number.natAbs
      have noSign : digit ≠ '-' := by
        rintro rfl
        cases isDigit
      rw [shape, List.cons_append] at found ⊢
      simp only [decodeSigned, if_neg noSign, found, Option.map_some, value]

end Decimal

section Hexadecimal

theorem printed_hexadecimal (width number : Nat) : Text.Printed (hexadecimal width number) := by
  induction width generalizing number with
  | zero => exact Text.printed_nil
  | succ width induction =>
      have digits : ∀ digit < 16, ' ' ≤ Nat.digitChar digit ∧ Nat.digitChar digit ≤ '~' := by
        decide
      exact .append (induction (number / 16))
        (.cons (digits _ (Nat.mod_lt _ (by decide))) Text.printed_nil)

/-- What a digit stands for, up to fifteen. -/
def digitValue? (digit : Char) : Option Nat :=
  (List.range 16).find? fun value => Nat.digitChar value = digit

/-- The number that a fixed count of hexadecimal digits makes. -/
def decodeHexadecimal : Nat → Decoder Nat
  | 0, text => some (0, text)
  | width + 1, text =>
      match decodeHexadecimal width text with
      | some (high, digit :: rest) =>
          (digitValue? digit).map fun low => (16 * high + low, rest)
      | _ => none

theorem digitValue?_digitChar {value : Nat} (fits : value < 16) :
    digitValue? (Nat.digitChar value) = some value := by
  have each : ∀ value < 16, digitValue? (Nat.digitChar value) = some value := by decide
  exact each value fits

theorem decodeHexadecimal_append {width number : Nat} (fits : number < 16 ^ width)
    (rest : Text) :
    decodeHexadecimal width (hexadecimal width number ++ rest) = some (number, rest) := by
  induction width generalizing number rest with
  | zero =>
      obtain rfl : number = 0 := by omega
      rfl
  | succ width induction =>
      have high : number / 16 < 16 ^ width := by
        rw [Nat.pow_succ] at fits
        omega
      have low := digitValue?_digitChar (Nat.mod_lt number (show 0 < 16 by decide))
      rw [hexadecimal, List.append_assoc, List.singleton_append, decodeHexadecimal,
        induction high]
      simp only [low, Option.map_some, Nat.div_add_mod]

theorem length_le_of_decodeHexadecimal {width number : Nat} {text rest : Text}
    (decoded : decodeHexadecimal width text = some (number, rest)) :
    rest.length ≤ text.length := by
  induction width generalizing number rest with
  | zero =>
      cases decoded
      exact Nat.le_refl _
  | succ width induction =>
      rw [decodeHexadecimal] at decoded
      split at decoded
      · next high digit later found =>
          obtain ⟨low, _, same⟩ := Option.map_eq_some_iff.mp decoded
          cases same
          exact Nat.le_trans (Nat.le_succ _) (induction found)
      · cases decoded

end Hexadecimal

end Numeral

/-- What stands behind a backslash: a letter for a character, or a letter and then a code in
a fixed number of hexadecimal digits. -/
structure Escapes where
  letters : List (Char × Char)
  widths : List (Char × Nat)

namespace Escapes

variable {escapes : Escapes} {letter char quote : Char} {width code : Nat}

/-- The code behind a backslash. -/
def decodeEscape (escapes : Escapes) : Decoder Nat
  | [] => none
  | letter :: rest =>
      match escapes.letters.lookup letter with
      | some char => some (char.toNat, rest)
      | none =>
          match escapes.widths.lookup letter with
          | some width => Numeral.decodeHexadecimal width rest
          | none => none

/-- The code of the first character, which may be escaped. -/
def decodeCode (escapes : Escapes) : Decoder Nat
  | [] => none
  | char :: rest =>
      if char = '\\' then escapes.decodeEscape rest else some (char.toNat, rest)

theorem decodeCode_plain (ordinary : char ≠ '\\') (rest : Text) :
    escapes.decodeCode (char :: rest) = some (char.toNat, rest) := by
  rw [decodeCode, if_neg ordinary]

theorem decodeCode_letter (listed : escapes.letters.lookup letter = some char) (rest : Text) :
    escapes.decodeCode ('\\' :: letter :: rest) = some (char.toNat, rest) := by
  rw [decodeCode, if_pos rfl, decodeEscape, listed]

theorem decodeCode_width (noLetter : escapes.letters.lookup letter = none)
    (listed : escapes.widths.lookup letter = some width) (fits : code < 16 ^ width)
    (rest : Text) :
    escapes.decodeCode ('\\' :: letter :: Numeral.hexadecimal width code ++ rest) =
      some (code, rest) := by
  rw [List.cons_append, List.cons_append, decodeCode, if_pos rfl, decodeEscape, noLetter,
    listed]
  exact Numeral.decodeHexadecimal_append fits rest

theorem length_lt_of_decodeEscape {text rest : Text}
    (decoded : escapes.decodeEscape text = some (code, rest)) : rest.length < text.length := by
  rcases text with _ | ⟨letter, later⟩
  · cases decoded
  · rw [decodeEscape] at decoded
    refine Nat.lt_succ_of_le ?_
    split at decoded
    · cases decoded
      exact Nat.le_refl _
    · split at decoded
      · exact Numeral.length_le_of_decodeHexadecimal decoded
      · cases decoded

theorem length_lt_of_decodeCode {text rest : Text}
    (decoded : escapes.decodeCode text = some (code, rest)) : rest.length < text.length := by
  rcases text with _ | ⟨char, later⟩
  · cases decoded
  · rw [decodeCode] at decoded
    split at decoded
    · exact Nat.lt_succ_of_lt (length_lt_of_decodeEscape decoded)
    · cases decoded
      exact Nat.lt_succ_self _

/-- The codes of the characters in front of the closing quote, and what follows the
quote. -/
def decodeCodes (escapes : Escapes) (quote : Char) (text : Text) : Option (List Nat × Text) :=
  if text.head? = some quote then some ([], text.tail)
  else
    match _decoded : escapes.decodeCode text with
    | none => none
    | some (code, rest) =>
        (escapes.decodeCodes quote rest).map fun (codes, rest) => (code :: codes, rest)
termination_by text.length
decreasing_by exact length_lt_of_decodeCode _decoded

/-- What is written is read as some codes in front of all others. -/
def Spells (escapes : Escapes) (quote : Char) (written : Text) (codes : List Nat) : Prop :=
  ∀ rest : Text, escapes.decodeCodes quote (written ++ rest) =
    (escapes.decodeCodes quote rest).map fun (others, rest) => (codes ++ others, rest)

theorem Spells.nil (escapes : Escapes) (quote : Char) : escapes.Spells quote [] [] := by
  intro rest
  simp

theorem Spells.append {first second : Text} {codes others : List Nat}
    (front : escapes.Spells quote first codes) (behind : escapes.Spells quote second others) :
    escapes.Spells quote (first ++ second) (codes ++ others) := by
  intro rest
  rw [List.append_assoc, front, behind, Option.map_map]
  simp only [Function.comp_def, List.append_assoc]

theorem Spells.flatMap {α : Type} {items : List α} {written : α → Text} {codes : α → List Nat}
    (each : ∀ item ∈ items, escapes.Spells quote (written item) (codes item)) :
    escapes.Spells quote (items.flatMap written) (items.flatMap codes) := by
  induction items with
  | nil => exact .nil escapes quote
  | cons item later induction =>
      obtain ⟨here, there⟩ := List.forall_mem_cons.mp each
      rw [List.flatMap_cons, List.flatMap_cons]
      exact here.append (induction there)

/-- One code, as long as its first character is not taken for the closing quote. -/
theorem Spells.single {first : Char} {behind : Text} (notClosing : first ≠ quote)
    (decoded : ∀ rest, escapes.decodeCode (first :: behind ++ rest) = some (code, rest)) :
    escapes.Spells quote (first :: behind) [code] := by
  intro rest
  rw [decodeCodes, List.cons_append, List.head?_cons,
    if_neg fun same => notClosing (Option.some.inj same)]
  split
  · next missing =>
      rw [← List.cons_append, decoded] at missing
      cases missing
  · next found =>
      rw [← List.cons_append, decoded] at found
      cases found
      rfl

theorem Spells.decodeCodes_eq {written : Text} {codes : List Nat}
    (spells : escapes.Spells quote written codes) (rest : Text) :
    escapes.decodeCodes quote (written ++ quote :: rest) = some (codes, rest) := by
  have closed : escapes.decodeCodes quote (quote :: rest) = some ([], rest) := by
    rw [decodeCodes, List.head?_cons, if_pos rfl, List.tail_cons]
  rw [spells, closed, Option.map_some]
  simp only [List.append_nil]

end Escapes

namespace CodePoint

/-- The character with a code, if there is one. -/
def char? (code : Nat) : Option Char :=
  if code.isValidChar then some (Char.ofNat code) else none

theorem char?_toNat (char : Char) : char? char.toNat = some char := by
  have valid : char.toNat.isValidChar := char.valid
  rw [char?, if_pos valid, Char.ofNat_toNat]

theorem toNat_lt_limit (char : Char) : char.toNat < 0x110000 := by
  rcases char.valid with low | ⟨_, high⟩
  · exact Nat.lt_trans low (by decide)
  · exact high

end CodePoint

namespace Quoted

/-- The escapes of quoted texts. -/
def escapes : Escapes where
  letters := [('\\', '\\'), ('\'', '\''), ('"', '"'), ('t', '\t'), ('n', '\n'), ('r', '\r')]
  widths := [('x', 2), ('u', 4), ('U', 8)]

/-- Read a quoted text back. -/
def decode : Decoder Text
  | [] => none
  | quote :: rest =>
      if quote = '\'' ∨ quote = '"' then
        (escapes.decodeCodes quote rest).bind fun (codes, rest) =>
          (codes.mapM CodePoint.char?).map fun text => (text, rest)
      else none

theorem enclosing_isQuote (text : Text) : enclosing text = '\'' ∨ enclosing text = '"' := by
  unfold enclosing
  split
  · exact .inr rfl
  · exact .inl rfl

theorem widths_spec : ∀ escape ∈ escapes.widths,
    escapes.letters.lookup escape.1 = none ∧ escapes.widths.lookup escape.1 = some escape.2 ∧
      ' ' ≤ escape.1 ∧ escape.1 ≤ '~' := by
  decide

/-- A code is written with as many digits as it needs. -/
theorem exists_escapedCode_eq (char : Char) :
    ∃ letter width, (letter, width) ∈ escapes.widths ∧ char.toNat < 16 ^ width ∧
      escapedCode char = '\\' :: letter :: Numeral.hexadecimal width char.toNat := by
  unfold escapedCode
  split
  · next small => exact ⟨'x', 2, by decide, small, rfl⟩
  · split
    · next medium => exact ⟨'u', 4, by decide, medium, rfl⟩
    · have large : char.toNat < 16 ^ 8 :=
        Nat.lt_trans (CodePoint.toNat_lt_limit char) (by decide)
      exact ⟨'U', 8, by decide, large, rfl⟩

theorem spells_escaped (printable : Char → Bool) {quote : Char}
    (isQuote : quote = '\'' ∨ quote = '"') (char : Char) :
    escapes.Spells quote (escaped printable quote char) [char.toNat] := by
  have notClosing : '\\' ≠ quote := by
    rcases isQuote with rfl | rfl <;> decide
  fun_cases escaped printable quote char
  case case1 special =>
    have listed : escapes.letters.lookup char = some char := by
      rcases special with rfl | rfl
      · rcases isQuote with rfl | rfl <;> rfl
      · rfl
    exact .single notClosing (Escapes.decodeCode_letter listed)
  case case2 _ same | case3 _ _ same | case4 _ _ _ same =>
    subst same
    exact .single notClosing (Escapes.decodeCode_letter rfl)
  case case5 plain _ _ _ _ =>
    exact .single (fun same => plain (.inl same))
      (Escapes.decodeCode_plain fun same => plain (.inr same))
  case case6 =>
    obtain ⟨letter, width, listed, fits, shape⟩ := exists_escapedCode_eq char
    obtain ⟨noLetter, found, _⟩ := widths_spec _ listed
    rw [shape]
    exact .single notClosing (Escapes.decodeCode_width noLetter found fits)

theorem printed_escapedCode (char : Char) : Text.Printed (escapedCode char) := by
  obtain ⟨letter, width, listed, _, shape⟩ := exists_escapedCode_eq char
  obtain ⟨_, _, visible⟩ := widths_spec _ listed
  rw [shape]
  exact .cons (by decide) (.cons visible (Numeral.printed_hexadecimal _ _))

/-- Line feeds and carriage returns are escaped before it is asked what is printable. -/
theorem lineBreak_not_mem_escaped (printable : Char → Bool) {quote lineBreak : Char}
    (isQuote : quote = '\'' ∨ quote = '"') (isBreak : lineBreak = '\n' ∨ lineBreak = '\r')
    (char : Char) : lineBreak ∉ escaped printable quote char := by
  have below := Text.lineBreak_lt_blank isBreak
  fun_cases escaped printable quote char with
  | case1 special =>
      have visible : ' ' ≤ char ∧ char ≤ '~' := by
        rcases special with rfl | rfl
        · rcases isQuote with rfl | rfl <;> decide
        · decide
      exact Text.Printed.not_mem (.cons (by decide) (.cons visible Text.printed_nil)) below
  | case2 | case3 | case4 =>
      exact Text.Printed.not_mem (.cons (by decide) (.cons (by decide) Text.printed_nil)) below
  | case5 _ _ noLineFeed noCarriageReturn =>
      -- A character stands for itself only once it is known to be no line break.
      rintro (_ | ⟨_, ⟨⟩⟩)
      exact isBreak.elim noLineFeed noCarriageReturn
  | case6 => exact (printed_escapedCode char).not_mem below

/-- A quoted text stays on its line. -/
theorem lineBreak_not_mem_quotedWith (printable : Char → Bool) {lineBreak : Char}
    (isBreak : lineBreak = '\n' ∨ lineBreak = '\r') (text : Text) :
    lineBreak ∉ quotedWith printable text := by
  have notQuote : lineBreak ≠ enclosing text := by
    rcases isBreak with rfl | rfl <;> rcases enclosing_isQuote text with same | same <;>
      rw [same] <;> decide
  unfold quotedWith
  rw [List.mem_append, List.mem_cons, List.mem_singleton, List.mem_flatMap]
  rintro ((quote | ⟨char, _, inside⟩) | quote)
  · exact notQuote quote
  · exact lineBreak_not_mem_escaped printable (enclosing_isQuote text) isBreak char inside
  · exact notQuote quote

/-- A quoted text is read back, whichever characters are printable. -/
theorem decodes_quotedWith (printable : Char → Bool) (text : Text) :
    Decoder.Decodes decode (quotedWith printable text) text := by
  intro rest _
  have spells : escapes.Spells (enclosing text)
      (text.flatMap (escaped printable (enclosing text))) (text.map Char.toNat) := by
    rw [List.map_eq_flatMap]
    exact .flatMap fun char _ => spells_escaped printable (enclosing_isQuote text) char
  have characters : (text.map Char.toNat).mapM CodePoint.char? = some text := by
    have each : (text.map Char.toNat).mapM CodePoint.char? = some (text.map fun char => char) :=
      mapM_map_eq_some fun char _ => CodePoint.char?_toNat char
    rwa [List.map_id'] at each
  unfold quotedWith
  simp only [List.cons_append, List.append_assoc, List.nil_append, decode,
    if_pos (enclosing_isQuote text), spells.decodeCodes_eq, Option.bind_some, characters,
    Option.map_some]

end Quoted

end Verbatim
