import Verbatim.Proofs.Reading

/-!
# Writing a value down

Every text is the value of a literal.  `written` writes it down, given a marker
length that no line of the value imitates and any indentation: each line goes
behind the indentation, the last one ends in a carriage return and a line feed,
and the closing line follows.  An empty line may do without the indentation, and
so may a line that is a carriage return alone, unless it is the last.

`read_written` says that reading gives the value back, whatever follows.  The two
halves of its proof are that the written lines form a layout, because none of
them closes the marker, and that stripping and joining undo the writing line by
line.
-/

namespace Verbatim

/-- The lines of a value as they are written down.  `bare` says which lines, by
their index, are to do without the indentation if they may. -/
def writtenLines (indentation : Text) (bare : Nat → Bool) (index : Nat) :
    List Text → List Text
  | [] => []
  | [last] =>
      [(if bare index ∧ last = [] then last else indentation ++ last) ++ ['\r']]
  | line :: later =>
      (if bare index ∧ (line = [] ∨ line = ['\r']) then line else indentation ++ line) ::
        writtenLines indentation bare (index + 1) later

/-- A literal whose value is the given one. -/
def written (quote : Char) (length : Nat) (indentation : Text) (bare : Nat → Bool)
    (value : Text) : Text :=
  List.replicate length quote ++
    '\n' :: Text.terminated (writtenLines indentation bare 0 (value.splitOn '\n')) ++
    indentation ++ List.replicate length quote

/-- No line of a value has exactly this many quote characters behind its leading
whitespace. -/
def Admits (dialect : Dialect) (quote : Char) (length : Nat) (value : Text) : Prop :=
  ∀ line ∈ value.splitOn '\n',
    leadingRun quote (line.dropWhile dialect.isWhitespace) ≠ length

/-- A value admits every marker that is longer than itself. -/
theorem admits_of_length_lt {dialect : Dialect} {quote : Char} {length : Nat} {value : Text}
    (longer : value.length < length) : Admits dialect quote length value := by
  intro line member
  have run := leadingRun_le_length quote (line.dropWhile dialect.isWhitespace)
  have part := (List.dropWhile_sublist dialect.isWhitespace (l := line)).length_le
  have whole := Text.length_le_of_mem_splitOn member
  omega

section Writing

variable {dialect : Dialect} {indentation : Text}

/-- What is written is a line of the value, perhaps with the indentation in front
and a carriage return behind. -/
theorem exists_of_mem_writtenLines {bare : Nat → Bool} {index : Nat} {lines : List Text}
    {raw : Text} (member : raw ∈ writtenLines indentation bare index lines) :
    ∃ front line tail, raw = front ++ line ++ tail ∧ line ∈ lines ∧
      (front = [] ∨ front = indentation) ∧ (tail = [] ∨ tail = ['\r']) := by
  fun_induction writtenLines indentation bare index lines with
  | case1 => cases member
  | case2 index last =>
      rw [List.mem_singleton] at member
      split at member
      · exact ⟨[], last, ['\r'], by simpa using member, by simp, .inl rfl, .inr rfl⟩
      · exact ⟨indentation, last, ['\r'], member, by simp, .inr rfl, .inr rfl⟩
  | case3 index line later _ induction =>
      rcases List.mem_cons.mp member with rfl | member
      · split
        · exact ⟨[], line, [], by simp, by simp, .inl rfl, .inl rfl⟩
        · exact ⟨indentation, line, [], by simp, by simp, .inr rfl, .inl rfl⟩
      · obtain ⟨front, other, tail, shape, inside, parts⟩ := induction member
        exact ⟨front, other, tail, shape, List.mem_cons_of_mem _ inside, parts⟩

theorem length_writtenLines (bare : Nat → Bool) (index : Nat) (lines : List Text) :
    (writtenLines indentation bare index lines).length = lines.length := by
  fun_induction writtenLines indentation bare index lines with
  | case1 => rfl
  | case2 => rfl
  | case3 index line later _ induction => rw [List.length_cons, List.length_cons, induction]

theorem unbroken_of_mem_writtenLines {bare : Nat → Bool} {value raw : Text}
    (blank : ∀ char ∈ indentation, dialect.isWhitespace char = true)
    (member : raw ∈ writtenLines indentation bare 0 (value.splitOn '\n')) : '\n' ∉ raw := by
  obtain ⟨front, line, tail, rfl, inside, before, behind⟩ :=
    exists_of_mem_writtenLines member
  have lineUnbroken := Text.lineFeed_not_mem_of_mem_splitOn inside
  have indentationUnbroken := lineFeed_not_mem_of_blank blank
  rcases before with rfl | rfl <;> rcases behind with rfl | rfl <;>
    simp [lineUnbroken, indentationUnbroken]

theorem not_closes_of_mem_writtenLines {bare : Nat → Bool} {quote : Char} {length : Nat}
    {value raw : Text}
    (blank : ∀ char ∈ indentation, dialect.isWhitespace char = true)
    (notCarriageReturn : quote ≠ '\r')
    (admits : Admits dialect quote length value)
    (member : raw ∈ writtenLines indentation bare 0 (value.splitOn '\n')) :
    ¬ Closes dialect quote length raw := by
  obtain ⟨front, line, tail, rfl, inside, before, behind⟩ :=
    exists_of_mem_writtenLines member
  have frontBlank : ∀ char ∈ front, dialect.isWhitespace char = true := by
    rcases before with rfl | rfl
    · exact List.forall_mem_nil _
    · exact blank
  have tailSolid : ∀ char ∈ tail.head?, dialect.isWhitespace char = false := by
    rcases behind with rfl | rfl
    · simp
    · simpa using dialect.isWhitespace_carriageReturn
  have tailApart : tail.head? ≠ some quote := by
    rcases behind with rfl | rfl
    · simp
    · simpa using Ne.symm notCarriageReturn
  rw [closes_iff_leadingRun_eq, leadingRun_dropWhile_append frontBlank tailSolid tailApart]
  exact admits line inside

/-- The layout of a written value. -/
def Layout.ofValue (quote : Char) (isQuote : dialect.isQuote quote = true)
    (notBlank : dialect.isWhitespace quote = false)
    (notCarriageReturn : quote ≠ '\r') (notLineFeed : quote ≠ '\n')
    (value : Text) (length : Nat) (longEnough : minimumMarkerLength ≤ length)
    (admits : Admits dialect quote length value) (indentation : Text)
    (blank : ∀ char ∈ indentation, dialect.isWhitespace char = true)
    (bare : Nat → Bool) : Layout dialect where
  quote := quote
  length := length
  opening := []
  content := writtenLines indentation bare 0 (value.splitOn '\n')
  indentation := indentation
  isQuote := isQuote
  longEnough := longEnough
  quoteNotBlank := notBlank
  quoteNotLineFeed := notLineFeed
  openingBlank := List.forall_mem_nil _
  openingApart := by simp
  contentUnbroken := fun _ member => unbroken_of_mem_writtenLines blank member
  contentStays := fun _ member =>
    not_closes_of_mem_writtenLines blank notCarriageReturn admits member
  indentationBlank := blank

end Writing

section Reading

variable {dialect : Dialect} {indentation : Text}

theorem Text.withoutFinalReturn_append_carriageReturn (line : Text) :
    (line ++ ['\r']).withoutFinalReturn = line := by
  simp [withoutFinalReturn]

theorem Line.terminator_ofTerminated_ne_absent (offset : Int) (raw : Text) :
    (ofTerminated offset raw).terminator ≠ .absent := by
  rw [terminator_ofTerminated]
  split <;> simp

/-- A written line gives the line back, its line end included. -/
theorem strip_ofTerminated_written
    (blank : ∀ char ∈ indentation, dialect.isWhitespace char = true)
    {raw line : Text}
    (shape : raw = indentation ++ line ∨ raw = line ∧ (line = [] ∨ line = ['\r']))
    (position : Int) (index : Nat) :
    ∃ text, (Line.ofTerminated position raw).strip indentation index = .ok text ∧
      text ++ (Line.ofTerminated position raw).terminator.characters = line ++ ['\n'] := by
  have whole := Line.characters_ofTerminated position raw
  have captured := Line.text_ofTerminated position raw
  rw [Line.characters, captured] at whole
  rcases shape with rfl | ⟨rfl, small⟩
  · rw [Text.withoutFinalReturn_append (carriageReturn_not_mem_of_blank blank)]
      at captured whole
    refine ⟨line.withoutFinalReturn, Line.strip_of_eq_append index captured, ?_⟩
    rw [List.append_assoc, List.append_assoc] at whole
    exact List.append_cancel_left whole
  · have empty : raw.withoutFinalReturn = [] := by
      rcases small with rfl | rfl <;> rfl
    rw [empty] at captured whole
    exact ⟨[], Line.strip_of_eq_nil index captured, whole⟩

/-- The last written line gives the last line back, and no line end. -/
theorem strip_ofTerminated_writtenLast {front line : Text}
    (shape : front = indentation ++ line ∨ front = line ∧ line = [])
    (position : Int) (index : Nat) :
    (Line.ofTerminated position (front ++ ['\r'])).strip indentation index = .ok line := by
  have captured := Line.text_ofTerminated position (front ++ ['\r'])
  rw [Text.withoutFinalReturn_append_carriageReturn] at captured
  rcases shape with rfl | ⟨rfl, rfl⟩
  · exact Line.strip_of_eq_append index captured
  · exact Line.strip_of_eq_nil index captured

/-- Stripping and joining undo the writing of lines. -/
theorem joinLines_stripLines_writtenLines
    (blank : ∀ char ∈ indentation, dialect.isWhitespace char = true)
    (bare : Nat → Bool) (index : Nat) {lines : List Text} (nonempty : lines ≠ [])
    (position : Int) (start : Nat) :
    ∃ texts,
      stripLines indentation start
        (Line.placed position (writtenLines indentation bare index lines)) = .ok texts ∧
      joinLines ((Line.placed position (writtenLines indentation bare index lines)).zip texts) =
        .ok (['\n'].intercalate lines) := by
  fun_induction writtenLines indentation bare index lines generalizing position start with
  | case1 => exact absurd rfl nonempty
  | case2 index last =>
      generalize written : (if bare index ∧ last = [] then last else indentation ++ last) = front
      have shape : front = indentation ++ last ∨ front = last ∧ last = [] := by
        split at written
        · next may => exact .inr ⟨written.symm, may.2⟩
        · exact .inl written.symm
      have stripped := strip_ofTerminated_writtenLast shape position start
      refine ⟨[last], ?_, ?_⟩
      · simp only [Line.placed, stripLines, stripped]
        rfl
      · simp [Line.placed, joinLines]
  | case3 index line later more induction =>
      generalize written : (if bare index ∧ (line = [] ∨ line = ['\r']) then line
        else indentation ++ line) = raw
      have shape : raw = indentation ++ line ∨ raw = line ∧ (line = [] ∨ line = ['\r']) := by
        split at written
        · next may => exact .inr ⟨written.symm, may.2⟩
        · exact .inl written.symm
      have laterNonempty : later ≠ [] := more
      obtain ⟨text, stripped, lineEnd⟩ :=
        strip_ofTerminated_written blank shape position start
      obtain ⟨texts, laterStripped, laterJoined⟩ :=
        induction laterNonempty (position + raw.length + 1) (start + 1)
      refine ⟨text :: texts, ?_, ?_⟩
      · simp only [Line.placed, stripLines, stripped, laterStripped]
        rfl
      · have zipped : (Line.placed (position + raw.length + 1)
            (writtenLines indentation bare (index + 1) later)).zip texts ≠ [] := by
          have widths := length_of_stripLines_eq_ok laterStripped
          rw [Line.length_placed, length_writtenLines] at widths
          rw [← List.length_pos_iff, List.length_zip, Line.length_placed,
            length_writtenLines, widths, Nat.min_self, List.length_pos_iff]
          exact laterNonempty
        rw [Line.placed, List.zip_cons_cons,
          joinLines_cons (Line.terminator_ofTerminated_ne_absent position raw) zipped,
          laterJoined, List.intercalate_cons_of_ne_nil laterNonempty, lineEnd]
        rfl

theorem Layout.value_ofValue
    {quote : Char} (isQuote : dialect.isQuote quote = true)
    (notBlank : dialect.isWhitespace quote = false)
    (notCarriageReturn : quote ≠ '\r') (notLineFeed : quote ≠ '\n')
    {value : Text} {length : Nat} (longEnough : minimumMarkerLength ≤ length)
    (admits : Admits dialect quote length value)
    (blank : ∀ char ∈ indentation, dialect.isWhitespace char = true)
    (bare : Nat → Bool) (start : Int) :
    ((Layout.ofValue quote isQuote notBlank notCarriageReturn notLineFeed value length
      longEnough admits indentation blank bare).block start).value = .ok value := by
  obtain ⟨texts, stripped, joined⟩ := joinLines_stripLines_writtenLines blank bare 0
    (List.splitOn_ne_nil '\n' value) (start + length + ([] : Text).length + 1) 0
  rw [List.intercalate_splitOn] at joined
  let layout := Layout.ofValue quote isQuote notBlank notCarriageReturn notLineFeed value
    length longEnough admits indentation blank bare
  have blockStripped : (layout.block start).strippedLines = .ok texts := stripped
  rw [Block.value_of_strippedLines_eq_ok blockStripped]
  exact joined

end Reading

/-- Every value can be written down and read back, with any indentation, with any
marker that the value admits, and before any text that does not begin with one
more quote. -/
theorem read_written (dialect : Dialect) (quote : Char) (value : Text)
    (isQuote : quote ∈ dialect.quotes) (notBlank : dialect.isWhitespace quote = false)
    (notCarriageReturn : quote ≠ '\r') (notLineFeed : quote ≠ '\n') :
    (∃ length, minimumMarkerLength ≤ length ∧ Admits dialect quote length value) ∧
    ∀ (length : Nat) (indentation : Text) (bare : Nat → Bool) (following : Text),
      minimumMarkerLength ≤ length →
      Admits dialect quote length value →
      (∀ char ∈ indentation, dialect.isWhitespace char = true) →
      following.head? ≠ some quote →
      ∃ block : Block,
        block.finish = (written quote length indentation bare value).length ∧
        block.indentation = indentation ∧
        block.markerLength = length ∧
        ∀ reader : Reader, reader.dialect = dialect →
          (reader.observe block).failure? = none →
          (reader.read (written quote length indentation bare value ++ following) 0).2 =
            .ok ⟨value, block⟩ := by
  refine ⟨⟨value.length + minimumMarkerLength, by omega, ?_⟩, ?_⟩
  · apply admits_of_length_lt
    simp only [minimumMarkerLength]
    omega
  · intro length indentation bare following longEnough admits blank boundary
    have asQuote : dialect.isQuote quote = true := by simpa [Dialect.isQuote] using isQuote
    let layout := Layout.ofValue quote asQuote notBlank notCarriageReturn notLineFeed value
      length longEnough admits indentation blank bare
    have characters : layout.characters = written quote length indentation bare value := by
      simp [layout, Layout.ofValue, Layout.characters, Layout.body, Layout.marker, written]
    have shape : (written quote length indentation bare value ++ following).drop 0 =
        layout.characters ++ following := by
      rw [characters, List.drop_zero]
    have scanned := layout.scan_eq_ok shape boundary
    have valued : (layout.block 0).value = .ok value :=
      Layout.value_ofValue asQuote notBlank notCarriageReturn notLineFeed longEnough admits
        blank bare 0
    refine ⟨layout.block 0, ?_, rfl, rfl, ?_⟩
    · rw [← characters]
      simp [Layout.block]
    · rintro reader rfl quiet
      exact Reader.read_eq_ok (readLiteral_eq_ok scanned valued) quiet

/-- A value with a marker of three, a lone carriage return, a backslash and a
carriage return at its end, written with the second line bare. -/
theorem read_written_marker_and_returns :
    let value := ['"', '"', '"', '\n', '\r', '\n', '\\', 'x', '\r']
    let text := ['"', '"', '"', '"', '\n', '\t', '"', '"', '"', '\n', '\r', '\n',
      '\t', '\\', 'x', '\r', '\r', '\n', '\t', '"', '"', '"', '"', 'h']
    '"' ∈ Dialect.standard.quotes ∧ Dialect.standard.isWhitespace '"' = false ∧
      Admits .standard '"' 4 value ∧
      ∃ block : Block, block.finish = 23 ∧ block.indentation = ['\t'] ∧
        block.markerLength = 4 ∧
        ∀ reader : Reader, reader.dialect = .standard →
          (reader.observe block).failure? = none →
          (reader.read text 0).2 = .ok ⟨value, block⟩ := by
  have admits : Admits .standard '"' 4
      ['"', '"', '"', '\n', '\r', '\n', '\\', 'x', '\r'] := by
    unfold Admits
    decide
  have blank : ∀ char ∈ ['\t'], Dialect.standard.isWhitespace char = true := by
    intro char member
    rw [List.mem_singleton.mp member]
    decide
  refine ⟨by decide, by decide, admits, ?_⟩
  exact (read_written .standard '"' ['"', '"', '"', '\n', '\r', '\n', '\\', 'x', '\r']
    (by decide) (by decide) (by decide) (by decide)).2 4 ['\t'] (fun _ => true) ['h']
    (by decide) admits blank (by decide)

end Verbatim
