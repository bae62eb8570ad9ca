import Verbatim.Proofs.Lossless
import Verbatim.Reader

/-!
# When a text goes on

A verdict is final when it stays the same however the text goes on.  Stray text is
final, and so is a block, unless the text breaks off right behind its closing
marker and goes on with one more quote.  A block without a closing marker is the
only verdict that asks for more, and `scan_append` says that it asks in earnest:
some continuation closes the block.

Everything here follows from what the verdicts say about the text, because a
marker, stray text and a layout are still where they were.
-/

namespace Verbatim

namespace Text

theorem withoutFinalReturn_append_singleton (line : Text) (char : Char) :
    line <+: (line ++ [char]).withoutFinalReturn := by
  by_cases ending : char = '\r'
  · simp [withoutFinalReturn, ending]
  · simp [withoutFinalReturn, ending]

theorem withoutFinalReturn_prefix_append (line tail : Text) :
    line.withoutFinalReturn <+: (line ++ tail).withoutFinalReturn := by
  rcases List.eq_nil_or_concat tail with rfl | ⟨most, char, rfl⟩
  · exact ⟨[], by simp⟩
  · have kept := withoutFinalReturn_append_singleton (line ++ most) char
    rw [List.append_assoc, ← List.concat_eq_append] at kept
    exact line.withoutFinalReturn_prefix.trans ((List.prefix_append line most).trans kept)

/-- What is judged of an opening line is still there when the text goes on, even
when the carriage return that ended the text turns out to stand inside the line. -/
theorem withoutFinalReturn_firstLine_prefix_append (rest more : Text) :
    rest.firstLine.withoutFinalReturn <+: (rest ++ more).firstLine.withoutFinalReturn := by
  rcases rest.unbroken_or_exists_eq_append_lineFeed with unbroken | broken
  · have whole : rest.firstLine = rest := by
      simpa [firstLine] using firstLine_append unbroken []
    rw [whole, firstLine_append unbroken]
    exact withoutFinalReturn_prefix_append rest more.firstLine
  · obtain ⟨line, later, unbroken, rfl⟩ := broken
    refine ⟨[], ?_⟩
    rw [List.append_nil, List.append_assoc, List.cons_append,
      firstLine_append_lineFeed unbroken, firstLine_append_lineFeed unbroken]

end Text

theorem FirstStray.of_prefix {dialect : Dialect} {front whole : Text} {index : Nat}
    (first : FirstStray dialect front index) (within : front <+: whole) :
    FirstStray dialect whole index := by
  obtain ⟨tail, rfl⟩ := within
  obtain ⟨⟨char, place, stray⟩, blank⟩ := first
  have inside : index < front.length := (List.getElem?_eq_some_iff.mp place).1
  constructor
  · refine ⟨char, ?_, stray⟩
    rwa [List.getElem?_append_left inside]
  · rwa [List.take_append_of_le_length (Nat.le_of_lt inside)]

section Continuations

variable {dialect : Dialect} {text : Text} {offset : Nat}

theorem MarkerAt.getElem?_offset {quote : Char} {length : Nat} {rest : Text}
    (marker : MarkerAt dialect text offset quote length rest) :
    text[offset]? = some quote := by
  have run : RunAt text offset quote length :=
    runAt_iff_drop_eq.mpr ⟨rest, marker.shape, marker.boundary⟩
  exact run.1 0 marker.positive_length

theorem MarkerAt.append {quote : Char} {length : Nat} {rest : Text}
    (marker : MarkerAt dialect text offset quote length rest) (more : Text)
    (apart : rest = [] → more.head? ≠ some quote) :
    MarkerAt dialect (text ++ more) offset quote length (rest ++ more) where
  isQuote := marker.isQuote
  longEnough := marker.longEnough
  shape := by
    rw [List.drop_append_of_le_length (Nat.le_of_lt marker.offset_lt_length), marker.shape,
      List.append_assoc]
  boundary := by
    cases rest with
    | nil => exact apart rfl
    | cons char rest => exact marker.boundary

theorem StrayAt.append {position : Int} (stray : StrayAt dialect text offset position)
    (more : Text) : StrayAt dialect (text ++ more) offset position := by
  obtain ⟨quote, length, rest, index, marker, first, rfl⟩ := stray
  have nonempty : rest ≠ [] := by
    rintro rfl
    obtain ⟨⟨char, place, _⟩, _⟩ := first
    simp [Text.firstLine, Text.withoutFinalReturn] at place
  refine ⟨quote, length, rest ++ more, index, marker.append more ?_, first.of_prefix ?_, rfl⟩
  · intro empty
    exact absurd empty nonempty
  · exact Text.withoutFinalReturn_firstLine_prefix_append rest more

/-- The text breaks off behind a block and goes on with one more of its quotes. -/
def Block.RunsOn (block : Block) (text more : Text) : Prop :=
  block.finish = text.length ∧ more.head? = some block.quote

theorem scan_append_eq_ok {block : Block} {more : Text}
    (scanned : scan dialect text offset = .ok block) (apart : ¬ block.RunsOn text more) :
    scan dialect (text ++ more) offset = .ok block := by
  obtain ⟨layout, following, shape, boundary, rfl⟩ := scan_eq_ok_iff.mp scanned
  have inside := (layout.markerAt shape).offset_lt_length
  have longer : (text ++ more).drop offset = layout.characters ++ (following ++ more) := by
    rw [List.drop_append_of_le_length (Nat.le_of_lt inside), shape, List.append_assoc]
  apply layout.scan_eq_ok longer
  cases following with
  | nil =>
      intro first
      apply apart
      have lengths := congrArg List.length shape
      rw [List.append_nil, List.length_drop] at lengths
      refine ⟨?_, first⟩
      simp only [Layout.block]
      omega
  | cons char following => exact boundary

theorem not_runsOn_of_scan_append {block : Block} {more : Text}
    (scanned : scan dialect (text ++ more) offset = .ok block) :
    ¬ block.RunsOn text more := by
  rintro ⟨finished, first⟩
  have maximal := (scan_lossless scanned).maximal
  rw [finished, Text.charAt?_natCast, getElem?_length_append] at maximal
  exact maximal first

/-- A block that ends inside the front of a text is found in the front alone. -/
theorem scan_eq_ok_of_append {block : Block} {more : Text}
    (scanned : scan dialect (text ++ more) offset = .ok block)
    (within : block.finish ≤ text.length) : scan dialect text offset = .ok block := by
  obtain ⟨layout, following, shape, boundary, rfl⟩ := scan_eq_ok_iff.mp scanned
  have reach : offset + layout.characters.length ≤ text.length := by
    simp only [Layout.block] at within
    omega
  rw [List.drop_append_of_le_length (by omega)] at shape
  have front : layout.characters <+: text.drop offset := by
    apply List.prefix_of_prefix_length_le (List.prefix_append layout.characters following)
    · rw [← shape]
      exact List.prefix_append (text.drop offset) more
    · rw [List.length_drop]
      omega
  obtain ⟨tail, ending⟩ := front
  apply layout.scan_eq_ok ending.symm
  rw [← ending, List.append_assoc, List.append_cancel_left_eq] at shape
  cases tail with
  | nil => simp
  | cons char tail =>
      rw [← shape] at boundary
      exact boundary

/-- A line of its own that repeats the marker closes a block. -/
theorem UnclosedAt.exists_scan_append_eq_ok {quote : Char}
    (unclosed : UnclosedAt dialect text offset) (begun : text[offset]? = some quote)
    (notBlank : dialect.isWhitespace quote = false) (notLineFeed : quote ≠ '\n') :
    ∃ more block, scan dialect (text ++ more) offset = .ok block := by
  obtain ⟨other, length, rest, opening, later, marker, lines, blank, stays⟩ := unclosed
  obtain rfl : other = quote := by
    have same := marker.getElem?_offset.symm.trans begun
    simpa using same
  refine ⟨'\n' :: List.replicate length other, ?_⟩
  have longer := marker.append ('\n' :: List.replicate length other) (by
    intro _ first
    exact notLineFeed (by simpa using first.symm))
  have markerUnbroken : '\n' ∉ List.replicate length other := by
    intro member
    exact notLineFeed (List.eq_of_mem_replicate member).symm
  have longerLines : (rest ++ '\n' :: List.replicate length other).splitOn '\n' =
      opening :: later ++ List.replicate length other :: [] := by
    rw [List.splitOn_append_cons_self, lines, List.splitOn_eq_singleton markerUnbroken]
  have closes : ClosesWith dialect other length (List.replicate length other) [] := by
    refine ⟨List.replicate length other, [], rfl, by simp, ?_, by simp, by simp⟩
    intro char first
    obtain rfl := List.eq_of_mem_replicate (List.mem_of_head? first)
    exact notBlank
  exact ⟨_, longer.scan_of_closing longerLines blank stays closes⟩

/-- Where there is no quote, there is none when the text goes on. -/
theorem scan_append_ne_ok {char : Char} (place : text[offset]? = some char)
    (noQuote : char ∉ dialect.quotes) (more : Text) (block : Block) :
    scan dialect (text ++ more) offset ≠ .ok block := by
  have inside := (List.getElem?_eq_some_iff.mp place).1
  have lacks : LacksMarker dialect (text ++ more) offset :=
    .inr ⟨char, by rwa [List.getElem?_append_left inside], .inl noQuote⟩
  rcases scan_of_lacksMarker lacks with missing | ⟨found, short⟩
  · simp [missing]
  · simp [short]

/-- With a marker at hand, only an unclosed block can still be closed. -/
theorem unclosedAt_of_scan_append_eq_ok {quote : Char} {length : Nat} {rest more : Text}
    {block : Block} (marker : MarkerAt dialect text offset quote length rest)
    (fails : ∀ other, scan dialect text offset ≠ .ok other)
    (scanned : scan dialect (text ++ more) offset = .ok block) :
    UnclosedAt dialect text offset := by
  rcases marker.scan_cases with ⟨position, stray, _⟩ | ⟨unclosed, _⟩ | standing
  · have still := scan_eq_stray_iff.mpr (stray.append more)
    rw [still] at scanned
    cases scanned
  · exact unclosed
  · obtain ⟨layout, following, shape, boundary⟩ := standing
    exact absurd (layout.scan_eq_ok shape boundary) (fails _)

end Continuations

theorem Reader.read_congr {reader : Reader} {text other : Text} {offset : Int}
    (same : scan reader.dialect text offset = scan reader.dialect other offset) :
    reader.read text offset = reader.read other offset := by
  unfold read readLiteral
  rw [same]

/-- Stray text and blocks are final verdicts, for a scan and for every reader.
Unless its quote can stand in no closing line, an unterminated block is one that
more text can still close, and the only one. -/
theorem scan_append (dialect : Dialect) (text : Text) (offset : Nat) :
    (∀ position, scan dialect text offset = .error (.malformed (.strayText position)) →
      ∀ more,
        scan dialect (text ++ more) offset = .error (.malformed (.strayText position))) ∧
    (∀ block, scan dialect text offset = .ok block → ∀ more,
      (scan dialect (text ++ more) offset = .ok block ↔ ¬ block.RunsOn text more) ∧
      (¬ block.RunsOn text more → ∀ reader : Reader, reader.dialect = dialect →
        reader.read (text ++ more) offset = reader.read text offset)) ∧
    (∀ quote, text[offset]? = some quote →
      dialect.isWhitespace quote = false → quote ≠ '\n' →
      (∀ start finish,
        scan dialect text offset = .error (.malformed (.unterminated start finish)) →
        ∃ more block, scan dialect (text ++ more) offset = .ok block) ∧
      ∀ length, RunAt text offset quote length → minimumMarkerLength ≤ length →
        ((∃ start finish,
            scan dialect text offset = .error (.malformed (.unterminated start finish))) ↔
          (∀ block, scan dialect text offset ≠ .ok block) ∧
            ∃ more block, scan dialect (text ++ more) offset = .ok block)) := by
  refine ⟨?_, ?_, ?_⟩
  · intro position scanned more
    apply scan_eq_stray_iff.mpr
    exact (scan_eq_stray_iff.mp scanned).append more
  · intro block scanned more
    refine ⟨⟨not_runsOn_of_scan_append, scan_append_eq_ok scanned⟩, ?_⟩
    rintro apart reader rfl
    apply Reader.read_congr
    rw [scan_append_eq_ok scanned apart, scanned]
  · intro quote begun notBlank notLineFeed
    have closable : ∀ start finish,
        scan dialect text offset = .error (.malformed (.unterminated start finish)) →
        ∃ more block, scan dialect (text ++ more) offset = .ok block := by
      intro start finish scanned
      obtain ⟨unclosed, _⟩ := scan_eq_unterminated_iff.mp scanned
      exact unclosed.exists_scan_append_eq_ok begun notBlank notLineFeed
    refine ⟨closable, ?_⟩
    intro length run longEnough
    constructor
    · rintro ⟨start, finish, scanned⟩
      exact ⟨by simp [scanned], closable start finish scanned⟩
    · rintro ⟨fails, more, block, scanned⟩
      by_cases isQuote : quote ∈ dialect.quotes
      · have marker := markerAt_of_runAt isQuote run longEnough
        have unclosed := unclosedAt_of_scan_append_eq_ok marker fails scanned
        exact ⟨_, _, scan_eq_unterminated_iff.mpr ⟨unclosed, rfl, rfl⟩⟩
      · exact absurd scanned (scan_append_ne_ok begun isQuote more block)

/-- Three texts that break off where the next character matters: at a carriage return
that may yet end the opening line, behind a closing marker, and behind stray text. -/
theorem scan_append_at_text_end :
    let cutOff := ['"', '"', '"', ' ', '\r']
    let closed := ['"', '"', '"', '\n', '"', '"', '"']
    let astray := ['"', '"', '"', '\r', '\r']
    let block : Block := ⟨3, [], [], [], '"', 0, 7⟩
    (scan .standard cutOff 0 = .error (.malformed (.unterminated 0 5)) ∧
      ∃ more block, scan .standard (cutOff ++ more) 0 = .ok block) ∧
    (scan .standard closed 0 = .ok block ∧
      scan .standard (closed ++ ['\n', '"']) 0 = .ok block ∧
      scan .standard (closed ++ ['"', '\n']) 0 ≠ .ok block) ∧
    (scan .standard astray 0 = .error (.malformed (.strayText 3)) ∧
      ∀ more, scan .standard (astray ++ more) 0 = .error (.malformed (.strayText 3))) := by
  intro cutOff closed astray block
  have unterminated : scan .standard cutOff 0 = .error (.malformed (.unterminated 0 5)) := by
    decide +kernel
  have found : scan .standard closed 0 = .ok block := by decide +kernel
  have stray : scan .standard astray 0 = .error (.malformed (.strayText 3)) := by
    decide +kernel
  refine ⟨⟨unterminated, ?_⟩, ⟨found, ?_, ?_⟩, stray, ?_⟩
  · exact ((scan_append .standard cutOff 0).2.2 '"' rfl (by decide) (by decide)).1 0 5
      unterminated
  · apply ((scan_append .standard closed 0).2.1 block found ['\n', '"']).1.mpr
    simp [Block.RunsOn, block]
  · intro same
    apply ((scan_append .standard closed 0).2.1 block found ['"', '\n']).1.mp same
    simp [Block.RunsOn, block, closed]
  · exact (scan_append .standard astray 0).1 3 stray

end Verbatim
