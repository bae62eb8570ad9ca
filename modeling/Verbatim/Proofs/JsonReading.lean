import Mathlib.Data.List.Forall2
import Verbatim.Proofs.Decoding
import Verbatim.Text.Json

/-!
# Reading JSON text back

`Json.read?` reads JSON text of numbers, strings, arrays and objects.  Blanks and line ends
between its parts mean nothing, so it does not matter whether items share a line.  A string
is a sequence of UTF-16 code units, in which a character outside the basic plane is a pair of
surrogates.

What is written as a string, an array or an object is decoded as that: `decodes_string`,
`decodes_array` and `decodes_object` have what is said of the parts as their hypotheses.
-/

namespace Verbatim

namespace Json

section Strings

/-- The escapes of strings. -/
def escapes : Escapes where
  letters := [('"', '"'), ('\\', '\\'), ('/', '/'), ('b', '\x08'), ('f', '\x0c'), ('n', '\n'),
    ('r', '\r'), ('t', '\t')]
  widths := [('u', 4)]

/-- The character that a pair of surrogates makes. -/
def paired? (high low : Nat) : Option Char :=
  if 0xD800 ≤ high ∧ high < 0xDC00 ∧ 0xDC00 ≤ low ∧ low < 0xE000 then
    CodePoint.char? (0x10000 + 0x400 * (high - 0xD800) + (low - 0xDC00))
  else none

/-- The text that UTF-16 code units make. -/
def ofCodeUnits? : List Nat → Option Text
  | [] => some []
  | unit :: rest =>
      match CodePoint.char? unit with
      | some char => (ofCodeUnits? rest).map (char :: ·)
      | none =>
          match rest with
          | [] => none
          | low :: rest =>
              match paired? unit low with
              | some char => (ofCodeUnits? rest).map (char :: ·)
              | none => none

theorem ofCodeUnits?_of_char? {unit : Nat} {char : Char}
    (basic : CodePoint.char? unit = some char) (rest : List Nat) :
    ofCodeUnits? (unit :: rest) = (ofCodeUnits? rest).map (char :: ·) := by
  rw [ofCodeUnits?.eq_def]
  simp only [basic]

theorem ofCodeUnits?_of_paired? {high low : Nat} {char : Char}
    (surrogate : CodePoint.char? high = none) (paired : paired? high low = some char)
    (rest : List Nat) :
    ofCodeUnits? (high :: low :: rest) = (ofCodeUnits? rest).map (char :: ·) := by
  rw [ofCodeUnits?.eq_def]
  simp only [surrogate, paired]

theorem codeUnits_of_lt {char : Char} (basic : char.toNat < 0x10000) :
    codeUnits char = [char.toNat] := by
  rw [codeUnits, if_pos basic]

theorem lt_of_mem_codeUnits {char : Char} {unit : Nat} (member : unit ∈ codeUnits char) :
    unit < 0x10000 := by
  have limit := CodePoint.toNat_lt_limit char
  unfold codeUnits at member
  split at member
  · next basic =>
      rw [List.mem_singleton] at member
      omega
  · simp only [List.mem_cons, List.not_mem_nil, or_false] at member
    omega

theorem ofCodeUnits?_codeUnits_append (char : Char) (units : List Nat) :
    ofCodeUnits? (codeUnits char ++ units) = (ofCodeUnits? units).map (char :: ·) := by
  have limit := CodePoint.toNat_lt_limit char
  by_cases basic : char.toNat < 0x10000
  · rw [codeUnits_of_lt basic, List.singleton_append]
    exact ofCodeUnits?_of_char? (CodePoint.char?_toNat char) units
  · have surrogate : CodePoint.char? (0xD800 + (char.toNat - 0x10000) / 0x400) = none := by
      refine if_neg ?_
      simp only [Nat.isValidChar]
      omega
    have code : 0x10000 + 0x400 * (0xD800 + (char.toNat - 0x10000) / 0x400 - 0xD800) +
        (0xDC00 + (char.toNat - 0x10000) % 0x400 - 0xDC00) = char.toNat := by
      omega
    have paired : paired? (0xD800 + (char.toNat - 0x10000) / 0x400)
        (0xDC00 + (char.toNat - 0x10000) % 0x400) = some char := by
      rw [paired?, if_pos (by omega), code, CodePoint.char?_toNat]
    rw [codeUnits, if_neg basic]
    exact ofCodeUnits?_of_paired? surrogate paired units

theorem ofCodeUnits?_flatMap_codeUnits (text : Text) :
    ofCodeUnits? (text.flatMap codeUnits) = some text := by
  induction text with
  | nil => rfl
  | cons char later induction =>
      rw [List.flatMap_cons, ofCodeUnits?_codeUnits_append, induction, Option.map_some]

theorem spells_escaped (char : Char) : escapes.Spells '"' (escaped char) (codeUnits char) := by
  fun_cases escaped char
  case case1 same | case2 _ same | case3 _ _ same | case4 _ _ _ same | case5 _ _ _ _ same |
      case6 _ _ _ _ _ same | case7 _ _ _ _ _ _ same =>
    subst same
    exact .single (by decide) (Escapes.decodeCode_letter rfl)
  case case8 notQuote notBackslash _ _ _ _ _ visible =>
    rw [codeUnits_of_lt (by omega)]
    exact .single notQuote (Escapes.decodeCode_plain notBackslash)
  case case9 =>
    have units : codeUnits char = (codeUnits char).flatMap fun unit => [unit] := by
      rw [← List.map_eq_flatMap, List.map_id']
    have spells : escapes.Spells '"'
        ((codeUnits char).flatMap fun unit => '\\' :: 'u' :: Numeral.hexadecimal 4 unit)
        ((codeUnits char).flatMap fun unit => [unit]) := by
      refine .flatMap fun unit member => .single (by decide) ?_
      exact Escapes.decodeCode_width rfl rfl (lt_of_mem_codeUnits member)
    rwa [← units] at spells

theorem printed_escaped (char : Char) : Text.Printed (escaped char) := by
  fun_cases escaped char with
  | case1 | case2 | case3 | case4 | case5 | case6 | case7 =>
      exact .cons (by decide) (.cons (by decide) Text.printed_nil)
  | case8 _ _ _ _ _ _ _ visible =>
      exact .cons ⟨visible.1, visible.2⟩ Text.printed_nil
  | case9 =>
      exact .flatMap fun unit _ =>
        .cons (by decide) (.cons (by decide) (Numeral.printed_hexadecimal 4 unit))

theorem printed_string (text : Text) : Text.Printed (string text) := by
  unfold string
  exact .cons (by decide) (.append (.flatMap fun char _ => printed_escaped char)
    (.cons (by decide) Text.printed_nil))

/-- The text of a string. -/
def decodeString : Decoder Text
  | [] => none
  | quote :: rest =>
      if quote = '"' then
        (escapes.decodeCodes '"' rest).bind fun (units, rest) =>
          (ofCodeUnits? units).map fun text => (text, rest)
      else none

theorem decodeString_append (text rest : Text) :
    decodeString (string text ++ rest) = some (text, rest) := by
  have spells : escapes.Spells '"' (text.flatMap escaped) (text.flatMap codeUnits) :=
    .flatMap fun char _ => spells_escaped char
  unfold string
  simp only [List.cons_append, List.append_assoc, List.nil_append, decodeString, if_true,
    spells.decodeCodes_eq, Option.bind_some, ofCodeUnits?_flatMap_codeUnits, Option.map_some]

end Strings

/-- What JSON text says. -/
inductive Value where
  | number (value : Int)
  | string (text : Text)
  | array (items : List Value)
  | object (members : List (Text × Value))

section Decoders

variable {α : Type}

/-- A character that may stand between the parts of JSON text. -/
def isBlank (char : Char) : Bool :=
  char = ' ' || char = '\t' || char = '\n' || char = '\r'

def isClosing (char : Char) : Bool :=
  char = ']' || char = '\x7d'

def skipBlanks (text : Text) : Text :=
  text.dropWhile isBlank

/-- One item at least, with commas between items, and the closing bracket. -/
def decodeItems (item : Decoder α) (close : Char) (text : Text) : Option (List α × Text) :=
  match item (skipBlanks text) with
  | none => none
  | some (first, rest) =>
      match skipBlanks rest with
      | [] => none
      | char :: later =>
          if char = close then some ([first], later)
          else if _shorter : char = ',' ∧ later.length < text.length then
            (decodeItems item close later).map fun (others, rest) => (first :: others, rest)
          else none
termination_by text.length

/-- What follows an opening bracket, up to the closing one. -/
def decodeBracketed (item : Decoder α) (close : Char) (text : Text) :
    Option (List α × Text) :=
  match skipBlanks text with
  | [] => none
  | char :: rest =>
      if char = close then some ([], rest) else decodeItems item close text

/-- A name, a colon and what has the name. -/
def decodeMember (value : Decoder α) : Decoder (Text × α) := fun text =>
  match decodeString text with
  | none => none
  | some (name, rest) =>
      match skipBlanks rest with
      | [] => none
      | char :: later =>
          if char = ':' then
            (value (skipBlanks later)).map fun (found, rest) => ((name, found), rest)
          else none

/-- A value in which brackets are nested less deep than the given depth. -/
def decodeValue : Nat → Decoder Value
  | 0, _ => none
  | _ + 1, [] => none
  | depth + 1, char :: rest =>
      if char = '[' then
        (decodeBracketed (decodeValue depth) ']' rest).map fun (items, rest) =>
          (.array items, rest)
      else if char = '\x7b' then
        (decodeBracketed (decodeMember (decodeValue depth)) '\x7d' rest).map
          fun (members, rest) => (.object members, rest)
      else if char = '"' then
        (decodeString (char :: rest)).map fun (text, rest) => (.string text, rest)
      else
        (Numeral.decodeSigned (char :: rest)).map fun (number, rest) => (.number number, rest)

/-- Read the value that a text consists of.  Its brackets are not nested deeper than it is
long. -/
def read? (text : Text) : Option Value :=
  match decodeValue text.length (skipBlanks text) with
  | none => none
  | some (value, rest) => if skipBlanks rest = [] then some value else none

end Decoders

section Reading

variable {α : Type} {front rest written : Text}

theorem skipBlanks_append (blank : ∀ char ∈ front, isBlank char = true) (rest : Text) :
    skipBlanks (front ++ rest) = skipBlanks rest :=
  List.dropWhile_append_of_pos blank

theorem skipBlanks_cons {char : Char} (solid : isBlank char = false) (rest : Text) :
    skipBlanks (char :: rest) = char :: rest :=
  List.dropWhile_cons_of_neg (by simp [solid])

theorem isBlank_of_mem_margin (layout : Layout) (level : Nat) :
    ∀ char ∈ layout.margin level, isBlank char = true := by
  cases layout with
  | compact => exact List.forall_mem_nil _
  | indented =>
      refine List.forall_mem_cons.mpr ⟨rfl, ?_⟩
      intro char member
      rw [List.eq_of_mem_replicate member]
      rfl

/-- Items are separated by a comma and blanks. -/
theorem exists_separator_eq (layout : Layout) (level : Nat) :
    ∃ gap, layout.separator level = ',' :: gap ∧ ∀ char ∈ gap, isBlank char = true := by
  cases layout with
  | compact => exact ⟨[' '], rfl, List.forall_mem_singleton.mpr rfl⟩
  | indented => exact ⟨_, rfl, isBlank_of_mem_margin .indented level⟩

/-- A text for a value: it does not begin like the end of something else, and the decoder
finds the value. -/
structure Writes (decoder : Decoder α) (written : Text) (value : α) : Prop where
  begins : ∃ char behind, written = char :: behind ∧ isBlank char = false ∧
    isClosing char = false
  decodes : decoder.Decodes written value

/-- Blanks in front of a written value are skipped. -/
theorem Writes.decoder_skipBlanks {decoder : Decoder α} {value : α}
    (writes : Writes decoder written value) (blank : ∀ char ∈ front, isBlank char = true)
    (separated : rest.Separated) :
    decoder (skipBlanks (front ++ (written ++ rest))) = some (value, rest) := by
  obtain ⟨char, behind, shape, solid, _⟩ := writes.begins
  have skipped : skipBlanks (front ++ (written ++ rest)) = written ++ rest := by
    rw [skipBlanks_append blank, shape, List.cons_append, skipBlanks_cons solid]
  rw [skipped]
  exact writes.decodes rest separated

theorem separated_append_of_blank (blank : ∀ char ∈ front, isBlank char = true)
    (separated : rest.Separated) : Text.Separated (front ++ rest) := by
  rcases front with _ | ⟨char, front⟩
  · exact separated
  · refine Text.separated_cons ?_ (front ++ rest)
    have among := blank char List.mem_cons_self
    simp only [isBlank, Bool.or_eq_true, decide_eq_true_eq] at among
    rcases among with ((rfl | rfl) | rfl) | rfl <;> rfl

/-- A closing bracket is nothing else. -/
theorem apart_of_isClosing {close : Char} (closing : isClosing close = true) :
    close ≠ ',' ∧ isBlank close = false ∧ close.isDigit = false := by
  simp only [isClosing, Bool.or_eq_true, decide_eq_true_eq] at closing
  rcases closing with rfl | rfl <;> decide

theorem decodeItems_last {item : Decoder α} {close : Char} {text later : Text} {value : α}
    (found : item (skipBlanks text) = some (value, rest))
    (next : skipBlanks rest = close :: later) :
    decodeItems item close text = some ([value], later) := by
  rw [decodeItems, found]
  simp only [next, if_true]

theorem decodeItems_more {item : Decoder α} {close : Char} {text later : Text} {value : α}
    (found : item (skipBlanks text) = some (value, rest))
    (next : skipBlanks rest = ',' :: later) (apart : close ≠ ',')
    (shorter : later.length < text.length) :
    decodeItems item close text =
      (decodeItems item close later).map fun (others, rest) => (value :: others, rest) := by
  rw [decodeItems, found]
  simp only [next, if_neg apart.symm, true_and, shorter, dite_true]

/-- Written items are found one after another, and blanks around them are skipped. -/
theorem decodeItems_intercalate {item : Decoder α} {close : Char} {gap back : Text}
    (closing : isClosing close = true) (blankGap : ∀ char ∈ gap, isBlank char = true)
    (blankBack : ∀ char ∈ back, isBlank char = true) {items : List Text} {values : List α}
    (each : List.Forall₂ (Writes item) items values) (present : items ≠ [])
    (blankFront : ∀ char ∈ front, isBlank char = true) (rest : Text) :
    decodeItems item close
        (front ++ ((',' :: gap).intercalate items ++ (back ++ close :: rest))) =
      some (values, rest) := by
  obtain ⟨notComma, solid, notDigit⟩ := apart_of_isClosing closing
  induction each generalizing front with
  | nil => exact absurd rfl present
  | @cons written value items values writes others induction =>
      -- Behind the last item the bracket is closed, and behind any other one a comma follows.
      cases others with
      | nil =>
          have behind : Text.Separated (back ++ close :: rest) :=
            separated_append_of_blank blankBack (Text.separated_cons notDigit rest)
          rw [List.intercalate_singleton]
          refine decodeItems_last (writes.decoder_skipBlanks blankFront behind) ?_
          rw [skipBlanks_append blankBack, skipBlanks_cons solid]
      | @cons next _ later _ _ _ =>
          have shape : (',' :: gap).intercalate (written :: next :: later) ++
              (back ++ close :: rest) = written ++ (',' :: (gap ++
                ((',' :: gap).intercalate (next :: later) ++ (back ++ close :: rest)))) := by
            rw [List.intercalate_cons_cons]
            simp only [List.append_assoc, List.cons_append]
          have behind := Text.separated_cons (show ','.isDigit = false by decide)
            (gap ++ ((',' :: gap).intercalate (next :: later) ++ (back ++ close :: rest)))
          rw [shape]
          rw [decodeItems_more (writes.decoder_skipBlanks blankFront behind)
            (skipBlanks_cons (by decide) _) notComma]
          · rw [induction (List.cons_ne_nil _ _) blankGap, Option.map_some]
          · simp only [List.length_append, List.length_cons]
            omega

theorem exists_intercalate_eq (separator first : Text) (others : List Text) :
    ∃ behind, separator.intercalate (first :: others) = first ++ behind := by
  cases others with
  | nil => exact ⟨[], by rw [List.intercalate_singleton, List.append_nil]⟩
  | cons next later => exact ⟨_, by rw [List.intercalate_cons_cons, List.append_assoc]⟩

theorem bracketed_cons (layout : Layout) (level : Nat) (left right : Char) (first : Text)
    (others : List Text) :
    bracketed layout level left right (first :: others) =
      left :: (layout.margin (level + 1) ++
        ((layout.separator (level + 1)).intercalate (first :: others) ++
          (layout.margin level ++ [right]))) := by
  simp [bracketed]

theorem two_le_length_bracketed (layout : Layout) (level : Nat) (left right : Char)
    (items : List Text) : 2 ≤ (bracketed layout level left right items).length := by
  cases items with
  | nil => exact Nat.le_refl 2
  | cons first others =>
      rw [bracketed_cons]
      simp only [List.length_cons, List.length_append, List.length_nil]
      omega

/-- In either layout the written items are what is found between the brackets. -/
theorem exists_bracketed_eq {item : Decoder α} (layout : Layout) (level : Nat) (left : Char)
    {close : Char} (closing : isClosing close = true) {items : List Text} {values : List α}
    (each : List.Forall₂ (Writes item) items values) :
    ∃ inner, bracketed layout level left close items = left :: inner ∧
      ∀ rest, decodeBracketed item close (inner ++ rest) = some (values, rest) := by
  cases each with
  | nil =>
      obtain ⟨_, solid, _⟩ := apart_of_isClosing closing
      refine ⟨[close], rfl, ?_⟩
      intro rest
      rw [decodeBracketed, List.singleton_append, skipBlanks_cons solid]
      exact if_pos rfl
  | @cons written _ items values writes others =>
      obtain ⟨gap, separator, blankGap⟩ := exists_separator_eq layout (level + 1)
      have blankFront := isBlank_of_mem_margin layout (level + 1)
      have blankBack := isBlank_of_mem_margin layout level
      refine ⟨_, bracketed_cons layout level left close written items, ?_⟩
      intro rest
      have found := decodeItems_intercalate closing blankGap blankBack
        (List.Forall₂.cons writes others) (List.cons_ne_nil _ _) blankFront rest
      obtain ⟨char, later, begins, solid, notClosing⟩ := writes.begins
      obtain ⟨behind, shape⟩ := exists_intercalate_eq (',' :: gap) written items
      have apart : char ≠ close := by
        rintro rfl
        exact Bool.false_ne_true (notClosing.symm.trans closing)
      simp only [separator, List.append_assoc, List.singleton_append]
      rw [decodeBracketed, skipBlanks_append blankFront, found, shape, begins,
        List.cons_append, List.cons_append, skipBlanks_cons solid]
      exact if_neg apart

theorem writes_number (depth : Nat) (number : Int) :
    Writes (decodeValue (depth + 1)) (Numeral.signed number) (.number number) := by
  obtain ⟨char, behind, shape, first⟩ := Numeral.exists_signed_eq number
  have apart : char ≠ '[' ∧ char ≠ '\x7b' ∧ char ≠ '"' ∧ isBlank char = false ∧
      isClosing char = false := by
    rcases first with rfl | digit
    · decide
    · have different : ∀ other, other.isDigit = false → char ≠ other := by
        rintro _ noDigit rfl
        exact Bool.false_ne_true (noDigit.symm.trans digit)
      simp [isBlank, isClosing, different]
  obtain ⟨noArray, noObject, noString, solid, notClosing⟩ := apart
  refine ⟨⟨char, behind, shape, solid, notClosing⟩, ?_⟩
  intro rest separated
  have found := Numeral.decodes_signed number rest separated
  rw [shape, List.cons_append] at found ⊢
  rw [decodeValue, if_neg noArray, if_neg noObject, if_neg noString, found, Option.map_some]

theorem writes_string (depth : Nat) (text : Text) :
    Writes (decodeValue (depth + 1)) (string text) (.string text) := by
  refine ⟨⟨'"', _, rfl, rfl, rfl⟩, ?_⟩
  intro rest _
  have found := decodeString_append text rest
  unfold string at found ⊢
  rw [List.cons_append, List.cons_append] at found ⊢
  rw [decodeValue, if_neg (by decide), if_neg (by decide), if_pos rfl, found, Option.map_some]

theorem writes_array {depth : Nat} (layout : Layout) (level : Nat) {items : List Text}
    {values : List Value} (each : List.Forall₂ (Writes (decodeValue depth)) items values) :
    Writes (decodeValue (depth + 1)) (array layout level items) (.array values) := by
  have closing : isClosing ']' = true := rfl
  obtain ⟨inner, shape, found⟩ := exists_bracketed_eq layout level '[' closing each
  refine ⟨⟨'[', inner, shape, rfl, rfl⟩, ?_⟩
  intro rest _
  rw [array, shape, List.cons_append, decodeValue, if_pos rfl, found, Option.map_some]

theorem writes_member {decoder : Decoder α} {value : α} (name : Text)
    (writes : Writes decoder written value) :
    Writes (decodeMember decoder) (string name ++ ':' :: ' ' :: written) (name, value) := by
  refine ⟨⟨'"', _, rfl, rfl, rfl⟩, ?_⟩
  intro rest separated
  have found : decoder (skipBlanks ([' '] ++ (written ++ rest))) = some (value, rest) :=
    writes.decoder_skipBlanks (List.forall_mem_singleton.mpr rfl) separated
  rw [List.append_assoc, decodeMember, decodeString_append]
  simp only [List.cons_append]
  rw [skipBlanks_cons (by decide)]
  simp only [if_true]
  exact congrArg _ found

/-- The members of an object are found by their names and by what was written for them. -/
theorem writes_object {depth : Nat} (layout : Layout) (level : Nat)
    {members : List (Text × Text)} {values : List (Text × Value)}
    (each : List.Forall₂ (fun member value => member.1 = value.1 ∧
      Writes (decodeValue depth) member.2 value.2) members values) :
    Writes (decodeValue (depth + 1)) (object layout level members) (.object values) := by
  have written : List.Forall₂ (Writes (decodeMember (decodeValue depth)))
      (members.map fun (name, value) => string name ++ ':' :: ' ' :: value) values := by
    rw [List.forall₂_map_left_iff]
    refine each.imp ?_
    rintro ⟨name, text⟩ ⟨_, value⟩ ⟨rfl, writes⟩
    exact writes_member name writes
  have closing : isClosing '\x7d' = true := rfl
  obtain ⟨inner, shape, found⟩ := exists_bracketed_eq layout level '\x7b' closing written
  refine ⟨⟨'\x7b', inner, shape, rfl, rfl⟩, ?_⟩
  intro rest _
  rw [object, shape, List.cons_append, decodeValue, if_neg (by decide), if_pos rfl, found,
    Option.map_some]

/-- A written value is read, also with blanks or line ends behind it. -/
theorem read?_append {value : Value}
    (writes : Writes (decodeValue (written ++ rest).length) written value)
    (blank : ∀ char ∈ rest, isBlank char = true) : read? (written ++ rest) = some value := by
  have separated : rest.Separated := by
    simpa using separated_append_of_blank blank Text.separated_nil
  have found := writes.decoder_skipBlanks (List.forall_mem_nil _) separated
  have finished : skipBlanks rest = [] := List.dropWhile_eq_nil_iff.mpr blank
  rw [List.nil_append] at found
  rw [read?, found]
  exact if_pos finished

end Reading

section Ascii

theorem isAscii_margin (layout : Layout) (level : Nat) : (layout.margin level).IsAscii := by
  intro char member
  have blank := isBlank_of_mem_margin layout level char member
  simp only [isBlank, Bool.or_eq_true, decide_eq_true_eq] at blank
  rcases blank with ((rfl | rfl) | rfl) | rfl <;> decide

theorem isAscii_separator (layout : Layout) (level : Nat) :
    (layout.separator level).IsAscii := by
  cases layout with
  | compact => exact .cons (by decide) (.cons (by decide) Text.isAscii_nil)
  | indented => exact .cons (by decide) (isAscii_margin .indented level)

theorem isAscii_intercalate {separator : Text} (between : separator.IsAscii) {items : List Text}
    (each : ∀ item ∈ items, item.IsAscii) : Text.IsAscii (separator.intercalate items) := by
  induction items with
  | nil => exact Text.isAscii_nil
  | cons first others induction =>
      obtain ⟨here, there⟩ := List.forall_mem_cons.mp each
      cases others with
      | nil => rwa [List.intercalate_singleton]
      | cons next later =>
          rw [List.intercalate_cons_cons, List.append_assoc]
          exact .append here (.append between (induction there))

theorem isAscii_bracketed (layout : Layout) (level : Nat) {left right : Char}
    (opening : left.toNat < 0x80) (closing : right.toNat < 0x80) {items : List Text}
    (each : ∀ item ∈ items, item.IsAscii) :
    (bracketed layout level left right items).IsAscii := by
  have closed : Text.IsAscii [right] := .cons closing Text.isAscii_nil
  cases items with
  | nil => exact .cons opening closed
  | cons first others =>
      rw [bracketed_cons]
      have between := isAscii_separator layout (level + 1)
      exact .cons opening (.append (isAscii_margin layout (level + 1))
        (.append (isAscii_intercalate between each)
          (.append (isAscii_margin layout level) closed)))

/-- Names and strings are escaped, so an object is in ASCII if its other parts are. -/
theorem isAscii_object (layout : Layout) (level : Nat) {members : List (Text × Text)}
    (each : ∀ member ∈ members, Text.IsAscii member.2) :
    (object layout level members).IsAscii := by
  refine isAscii_bracketed layout level (by decide) (by decide) ?_
  intro item among
  obtain ⟨member, inside, rfl⟩ := List.mem_map.mp among
  exact .append (printed_string member.1).isAscii
    (.cons (by decide) (.cons (by decide) (each member inside)))

end Ascii

end Json

end Verbatim
