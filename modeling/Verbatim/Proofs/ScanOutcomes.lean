import Verbatim.Proofs.PhysicalLines
import Verbatim.Scanner

/-!
# What a scan does, by the line it meets

`MarkerAt` says that a marker stands at an offset of a text and what the text
holds after it.  From there on a scan depends on that rest alone, up to the
number of characters before it: first on how the rest of the opening line reads,
then on what is captured from the body after it.  There is one theorem for each
of these outcomes, and the same for skipping a malformed literal, so that no
later proof has to look into the scanner.
-/

namespace Verbatim

/-- A marker of a dialect stands at an offset, and `rest` is the text after it. -/
structure MarkerAt (dialect : Dialect) (text : Text) (offset : Nat) (quote : Char)
    (length : Nat) (rest : Text) : Prop where
  isQuote : dialect.isQuote quote = true
  longEnough : minimumMarkerLength ≤ length
  shape : text.drop offset = List.replicate length quote ++ rest
  boundary : rest.head? ≠ some quote

theorem Dialect.isQuote_of_not_mem {dialect : Dialect} {char : Char}
    (absent : char ∉ dialect.quotes) : dialect.isQuote char = false := by
  simpa [isQuote] using absent

theorem Text.suffix_natCast (text : Text) (position : Nat) :
    text.suffix position = text.drop position := by
  rw [suffix_of_nonneg (by omega), Int.toNat_natCast]

theorem Text.suffix_length_sub_length {text body : Text} (ending : body <:+ text) :
    text.suffix ((text.length : Int) - body.length) = body := by
  obtain ⟨front, rfl⟩ := ending
  have position : (((front ++ body).length : Nat) : Int) - body.length =
      (front.length : Nat) := by
    simp
  rw [position, suffix_natCast, List.drop_left]

theorem Text.isSuffix_of_afterFirstLine?_eq_some {text rest : Text}
    (follows : text.afterFirstLine? = some rest) : rest <:+ text := by
  have line := eq_firstLine_append_of_afterFirstLine?_eq_some follows
  exact ⟨text.firstLine ++ ['\n'], by simpa using line.symm⟩

theorem Opening.find_natCast (dialect : Dialect) (text : Text) (offset : Nat) :
    find dialect text offset = measure dialect offset (text.drop offset) := by
  unfold find
  rw [if_neg (by omega), Text.onward_of_nonneg (by omega), Int.toNat_natCast]

theorem OpeningLine.read_eq_stray_of
    {dialect : Dialect} {text : Text} {index : Nat} {char : Char}
    (place : text.firstLine.withoutFinalReturn[index]? = some char)
    (stray : dialect.isWhitespace char = false)
    (blank : ∀ earlier ∈ text.firstLine.withoutFinalReturn.take index,
      dialect.isWhitespace earlier = true) :
    read dialect text = .stray index := by
  obtain ⟨inside, rfl⟩ := List.getElem?_eq_some_iff.mp place
  have found : List.findIdx? (fun char => !dialect.isWhitespace char)
      text.firstLine.withoutFinalReturn = some index := by
    refine List.findIdx?_eq_some_iff_getElem.mpr ⟨inside, by simp [stray], ?_⟩
    intro earlier before
    have whitespace := blank (text.firstLine.withoutFinalReturn[earlier])
      (List.mem_take_iff_getElem.mpr ⟨earlier, by omega, rfl⟩)
    simp [whitespace]
  unfold read
  simp only [found]

theorem OpeningLine.read_eq_cutOff_of
    {dialect : Dialect} {text : Text}
    (blank : ∀ char ∈ text.firstLine.withoutFinalReturn, dialect.isWhitespace char = true)
    (last : text.afterFirstLine? = none) :
    read dialect text = .cutOff := by
  have found : List.findIdx? (fun char => !dialect.isWhitespace char)
      text.firstLine.withoutFinalReturn = none := by
    apply List.findIdx?_eq_none_iff.mpr
    simpa using blank
  unfold read
  simp only [found, last]

theorem OpeningLine.read_eq_complete_of
    {dialect : Dialect} {text body : Text}
    (blank : ∀ char ∈ text.firstLine.withoutFinalReturn, dialect.isWhitespace char = true)
    (follows : text.afterFirstLine? = some body) :
    read dialect text = .complete text.firstLine.withoutFinalReturn body := by
  have found : List.findIdx? (fun char => !dialect.isWhitespace char)
      text.firstLine.withoutFinalReturn = none := by
    apply List.findIdx?_eq_none_iff.mpr
    simpa using blank
  unfold read
  simp only [found, follows]

namespace MarkerAt

variable {dialect : Dialect} {text : Text} {offset : Nat} {quote : Char} {length : Nat}
variable {rest : Text}

theorem quote_ne (marker : MarkerAt dialect text offset quote length rest) {char : Char}
    (absent : char ∉ dialect.quotes) : quote ≠ char := by
  rintro rfl
  have isQuote := marker.isQuote
  rw [Dialect.isQuote_of_not_mem absent] at isQuote
  cases isQuote

theorem eq_take_append (marker : MarkerAt dialect text offset quote length rest) :
    text = text.take offset ++ List.replicate length quote ++ rest := by
  rw [List.append_assoc, ← marker.shape, List.take_append_drop]

theorem positive_length (marker : MarkerAt dialect text offset quote length rest) :
    0 < length :=
  positive_of_longEnough marker.longEnough

theorem offset_lt_length (marker : MarkerAt dialect text offset quote length rest) :
    offset < text.length := by
  have positive := marker.positive_length
  have lengths := congrArg List.length marker.shape
  simp at lengths
  omega

theorem length_eq (marker : MarkerAt dialect text offset quote length rest) :
    text.length = offset + length + rest.length := by
  have inside := marker.offset_lt_length
  have lengths := congrArg List.length marker.shape
  simp at lengths
  omega

theorem drop_eq_rest (marker : MarkerAt dialect text offset quote length rest) :
    text.drop (offset + length) = rest := by
  rw [← List.drop_drop, marker.shape]
  exact List.drop_left' List.length_replicate

/-- The marker is measured as it stands, wherever it is said to begin. -/
theorem measure_eq_ok (marker : MarkerAt dialect text offset quote length rest)
    (start : Int) :
    Opening.measure dialect start (text.drop offset) = .ok ⟨quote, length, start⟩ := by
  obtain ⟨before, rfl⟩ : ∃ before, length = before + 1 :=
    Nat.exists_eq_succ_of_ne_zero (Nat.ne_of_gt marker.positive_length)
  have counted := leadingRun_replicate_append (before + 1) marker.boundary
  have long := marker.longEnough
  rw [marker.shape]
  rw [List.replicate_succ, List.cons_append] at counted ⊢
  simp [Opening.measure, marker.isQuote, counted, Nat.not_lt.mpr long]

theorem start_eq_ok (marker : MarkerAt dialect text offset quote length rest) :
    Scanner.start dialect text offset = .ok
      { dialect, text
        opening := ⟨quote, length, offset⟩
        phase := .openingLine
        position := offset + length
        trailing := []
        lines := []
        indentation? := none } := by
  unfold Scanner.start
  rw [Opening.find_natCast, marker.measure_eq_ok]
  rfl

theorem suffix_body (marker : MarkerAt dialect text offset quote length rest)
    {body : Text} (follows : rest.afterFirstLine? = some body) :
    text.suffix ((text.length : Int) - body.length) = body := by
  have ending := Text.isSuffix_of_afterFirstLine?_eq_some follows
  exact Text.suffix_length_sub_length (ending.trans ⟨_, marker.eq_take_append.symm⟩)

theorem readOpeningLine_eq (marker : MarkerAt dialect text offset quote length rest)
    (scanner : Scanner) (sameDialect : scanner.dialect = dialect)
    (sameText : scanner.text = text) (position : scanner.position = offset + length) :
    scanner.readOpeningLine =
      match OpeningLine.read dialect rest with
      | .stray index => (.error (.strayText (offset + length + index)), scanner)
      | .cutOff => (.error scanner.unterminated, scanner)
      | .complete trailing body =>
          (.ok .content, { scanner.goTo body with trailing := trailing }) := by
  have remaining : scanner.text.suffix scanner.position = rest := by
    rw [sameText, position, ← Int.natCast_add, Text.suffix_natCast, marker.drop_eq_rest]
  have reading : OpeningLine.read scanner.dialect (scanner.text.suffix scanner.position) =
      OpeningLine.read dialect rest := by
    rw [remaining, sameDialect]
  cases outcome : OpeningLine.read dialect rest with
  | stray index =>
      simp only [Scanner.readOpeningLine, reading, outcome]
      rw [position]
  | cutOff => simp only [Scanner.readOpeningLine, reading, outcome]
  | complete trailing body => simp only [Scanner.readOpeningLine, reading, outcome]

theorem scan_of_stray (marker : MarkerAt dialect text offset quote length rest)
    {index : Nat} (read : OpeningLine.read dialect rest = .stray index) :
    scan dialect text offset =
      .error (.malformed (.strayText (offset + length + index))) := by
  unfold scan
  rw [marker.start_eq_ok]
  simp only [bind, Except.bind, Scanner.run]
  rw [marker.readOpeningLine_eq _ rfl rfl rfl, read]
  rfl

theorem scan_of_cutOff (marker : MarkerAt dialect text offset quote length rest)
    (read : OpeningLine.read dialect rest = .cutOff) :
    scan dialect text offset =
      .error (.malformed (.unterminated offset text.length)) := by
  unfold scan
  rw [marker.start_eq_ok]
  simp only [bind, Except.bind, Scanner.run]
  rw [marker.readOpeningLine_eq _ rfl rfl rfl, read]
  rfl

/-- Once the opening line is complete, what is captured from the body decides. -/
theorem scan_of_complete (marker : MarkerAt dialect text offset quote length rest)
    {trailing body : Text} (read : OpeningLine.read dialect rest = .complete trailing body)
    {captured : Capture}
    (capturing : capture dialect quote length (text.length - body.length) body = captured) :
    scan dialect text offset =
      match captured.indentation? with
      | some indentation => .ok
          { markerLength := length
            trailing := trailing
            lines := captured.lines
            indentation := indentation
            quote := quote
            start := offset
            finish := captured.position }
      | none => .error (.malformed (.unterminated offset text.length)) := by
  have remaining := marker.suffix_body
    (OpeningLine.afterFirstLine?_of_read_eq_complete read)
  unfold scan
  rw [marker.start_eq_ok]
  simp only [bind, Except.bind, Scanner.run]
  rw [marker.readOpeningLine_eq _ rfl rfl rfl, read]
  simp only [Scanner.captureContent, Scanner.goTo, remaining, capturing]
  cases captured.indentation? <;> rfl

theorem skip_of_cutOff (marker : MarkerAt dialect text offset quote length rest)
    (last : rest.afterFirstLine? = none) :
    skip dialect text offset =
      .error (.malformed (.unterminated offset text.length)) := by
  unfold skip
  rw [marker.start_eq_ok]
  have position : ((offset : Int) + length) = ((offset + length : Nat) : Int) := by simp
  simp only [bind, Except.bind, Scanner.recover, position, Text.suffix_natCast,
    marker.drop_eq_rest, last]
  rfl

theorem skip_of_complete (marker : MarkerAt dialect text offset quote length rest)
    {body : Text} (follows : rest.afterFirstLine? = some body)
    {captured : Capture}
    (capturing : capture dialect quote length (text.length - body.length) body = captured) :
    skip dialect text offset =
      match captured.indentation? with
      | some _ => .ok captured.position
      | none => .error (.malformed (.unterminated offset text.length)) := by
  have remaining := marker.suffix_body follows
  have position : ((offset : Int) + length) = ((offset + length : Nat) : Int) := by simp
  unfold skip
  rw [marker.start_eq_ok]
  simp only [bind, Except.bind, Scanner.recover, position, Text.suffix_natCast,
    marker.drop_eq_rest, follows]
  simp only [Scanner.captureContent, Scanner.goTo, remaining, capturing]
  cases captured.indentation? <;> rfl

end MarkerAt

end Verbatim
