import Verbatim.Proofs.Displacement

/-!
# Other marker lengths

The length of a marker does no more than tell the closing line from the content.
`scan_with_marker_length` puts markers of another length around what stands between the
markers of a block.  The same block is captured, moved by the difference of the two
lengths, and its value is the same.

The exception is a length that a content line imitates: the block ends at the first line
that has as many quotes behind its leading whitespace.
-/

namespace Verbatim

/-- How many copies of a quote character follow the leading whitespace of a line. -/
def Line.quoteRun (dialect : Dialect) (quote : Char) (line : Line) : Nat :=
  leadingRun quote (line.text.dropWhile dialect.isWhitespace)

section Lines

variable {dialect : Dialect} {quote : Char}

/-- A carriage return that ends a line has no part in its run, unless it is the quote. -/
theorem Line.quoteRun_ofTerminated (notCarriageReturn : quote ≠ '\r') (position : Int)
    (raw : Text) :
    (ofTerminated position raw).quoteRun dialect quote =
      leadingRun quote (raw.dropWhile dialect.isWhitespace) := by
  obtain ⟨ending, small, shape⟩ := raw.eq_withoutFinalReturn_append
  have solid : ∀ char ∈ ending.head?, dialect.isWhitespace char = false := by
    rcases small with rfl | rfl
    · simp
    · simpa using dialect.isWhitespace_carriageReturn
  have apart : ending.head? ≠ some quote := by
    rcases small with rfl | rfl
    · simp
    · simpa using Ne.symm notCarriageReturn
  have run : leadingRun quote
      (([] ++ raw.withoutFinalReturn ++ ending).dropWhile dialect.isWhitespace) =
        leadingRun quote (raw.withoutFinalReturn.dropWhile dialect.isWhitespace) :=
    leadingRun_dropWhile_append (List.forall_mem_nil _) solid apart
  rw [List.nil_append, ← shape] at run
  rw [quoteRun, text_ofTerminated, run]

theorem Line.takeWhile_text_ofTerminated (position : Int) (raw : Text) :
    (ofTerminated position raw).text.takeWhile dialect.isWhitespace =
      raw.takeWhile dialect.isWhitespace := by
  obtain ⟨ending, small, shape⟩ := raw.eq_withoutFinalReturn_append
  have none : ending.takeWhile dialect.isWhitespace = [] := by
    rcases small with rfl | rfl
    · rfl
    · simp [dialect.isWhitespace_carriageReturn]
  rw [text_ofTerminated]
  conv_rhs => rw [shape, List.takeWhile_append, none, List.append_nil]
  split
  · next whole => exact (List.takeWhile_prefix _).eq_of_length whole
  · rfl

/-- Lines without a run of some length do not close a marker of that length. -/
theorem Line.stays_of_quoteRun_ne {length : Nat} (notCarriageReturn : quote ≠ '\r')
    {position : Int} {content : List Text}
    (apart : ∀ line ∈ placed position content, line.quoteRun dialect quote ≠ length) :
    ∀ raw ∈ content, ¬ Closes dialect quote length raw := by
  induction content generalizing position with
  | nil => exact List.forall_mem_nil _
  | cons raw later induction =>
      obtain ⟨first, others⟩ := List.forall_mem_cons.mp apart
      refine List.forall_mem_cons.mpr ⟨?_, induction others⟩
      rwa [closes_iff_leadingRun_eq, ← quoteRun_ofTerminated notCarriageReturn position]

end Lines

namespace Layout

variable {dialect : Dialect} (layout : Layout dialect)

theorem block_withBody (start : Int) (length : Nat) (content : List Text) (indentation : Text)
    (longEnough : minimumMarkerLength ≤ length) (unbroken : ∀ line ∈ content, '\n' ∉ line)
    (stays : ∀ line ∈ content, ¬ Closes dialect layout.quote length line)
    (blank : ∀ char ∈ indentation, dialect.isWhitespace char = true) :
    (layout.withBody length content indentation longEnough unbroken stays blank).block start =
      { layout.block start with
        markerLength := length
        lines := Line.placed (start + length + layout.opening.length + 1) content
        indentation := indentation
        finish := start + length + layout.opening.length + 1 +
          (Text.terminated content).length + indentation.length + length } := by
  simp only [block, withBody, Block.mk.injEq, true_and, length_characters, length_body]
  omega

/-- Behind a marker of another length the lines stand elsewhere. -/
theorem placed_of_length (length : Nat) (front : List Text) :
    Line.placed ((0 : Nat) + length + layout.opening.length + 1) front =
      (Line.placed ((0 : Nat) + layout.length + layout.opening.length + 1) front).map
        (Line.move ((length : Int) - layout.length)) := by
  rw [← Line.placed_add]
  congr 1
  omega

theorem length_interior :
    layout.interior.length = layout.opening.length + 1 +
      (Text.terminated layout.content).length + layout.indentation.length := by
  simp [interior]
  omega

variable {length : Nat} {following : Text}

theorem scan_remarked (longEnough : minimumMarkerLength ≤ length)
    (boundary : following.head? ≠ some layout.quote)
    (stays : ∀ line ∈ layout.content, ¬ Closes dialect layout.quote length line) :
    scan dialect (List.replicate length layout.quote ++ layout.interior ++
        List.replicate length layout.quote ++ following) (0 : Nat) = .ok
      { layout.block (0 : Nat) with
        markerLength := length
        lines := (layout.block (0 : Nat)).lines.map (Line.move ((length : Int) - layout.length))
        finish := layout.interior.length + 2 * length } := by
  let remarked := layout.withBody length layout.content layout.indentation longEnough
    layout.contentUnbroken stays layout.indentationBlank
  have whole : (List.replicate length layout.quote ++ layout.interior ++
      List.replicate length layout.quote ++ following).drop 0 =
        remarked.characters ++ following := by
    rw [List.drop_zero, remarked.characters_eq]
    rfl
  refine (remarked.scan_eq_ok whole boundary).trans (congrArg Except.ok ?_)
  rw [block_withBody, placed_of_length, length_interior]
  simp only [block, Block.mk.injEq, true_and]
  omega

/-- The first line that has as many quotes as the markers closes the block. -/
theorem scan_remarked_of_closing (longEnough : minimumMarkerLength ≤ length)
    {front rest : List Text} {raw : Text} (content : layout.content = front ++ raw :: rest)
    (stays : ∀ line ∈ front, ¬ Closes dialect layout.quote length line)
    (run : leadingRun layout.quote (raw.dropWhile dialect.isWhitespace) = length)
    (following : Text) :
    scan dialect (List.replicate length layout.quote ++ layout.interior ++ following) (0 : Nat) =
      .ok
        { layout.block (0 : Nat) with
          markerLength := length
          lines := Line.placed ((0 : Nat) + length + layout.opening.length + 1) front
          indentation := raw.takeWhile dialect.isWhitespace
          finish := (0 : Nat) + length + layout.opening.length + 1 +
            (Text.terminated front).length + (raw.takeWhile dialect.isWhitespace).length +
              length } := by
  have closes := ClosesWith.of_leadingRun_eq run
  obtain ⟨onLine, shape, apart⟩ := closes.eq_append
  -- The rest of the line, the later lines and the old closing line are left behind the block.
  let early := layout.withBody length front (raw.takeWhile dialect.isWhitespace) longEnough
    (fun line member => layout.contentUnbroken line (by simp [content, member])) stays closes.blank
  have whole : (List.replicate length layout.quote ++ layout.interior ++ following).drop 0 =
      early.characters ++
        (onLine ++ '\n' :: (Text.terminated rest ++ layout.indentation ++ following)) := by
    rw [List.drop_zero, characters_withBody, interior, content, Text.terminated_append,
      Text.terminated_cons]
    conv_lhs => rw [shape]
    simp
  have boundary : (onLine ++ '\n' :: (Text.terminated rest ++ layout.indentation ++
      following)).head? ≠ some layout.quote := by
    cases onLine with
    | nil => simpa using Ne.symm layout.quoteNotLineFeed
    | cons char onLine => simpa using apart
  refine (early.scan_eq_ok whole boundary).trans (congrArg Except.ok ?_)
  rw [block_withBody]

end Layout

/-- A block moved by some distance has the same value. -/
theorem Block.valuedAlike_move {dialect : Dialect} {text : Text} {offset : Nat} {block : Block}
    (scanned : scan dialect text offset = .ok block) (distance : Int) :
    block.ValuedAlike (· + distance) (block.move distance) := by
  rcases value_of_scan_eq_ok scanned with ⟨value, valued⟩ | ⟨index, position, rejected⟩
  · left
    refine ⟨value, valued, ?_⟩
    rw [value_move, valued]
    rfl
  · right
    refine ⟨index, position, rejected, ?_⟩
    rw [value_move, rejected]
    rfl

/-- What stands between the markers of a block makes the same block with markers of any
other length, or, where a line has as many quotes behind its leading whitespace, a block
that ends at the first such line. -/
theorem scan_with_marker_length {dialect : Dialect} {text : Text} {block : Block}
    (scanned : scan dialect text 0 = .ok block) (notCarriageReturn : block.quote ≠ '\r') :
    ∃ interior, text.slice 0 block.finish = block.marker ++ interior ++ block.marker ∧
      ∀ (length : Nat) (following : Text), minimumMarkerLength ≤ length →
        following.head? ≠ some block.quote →
        let marker := List.replicate length block.quote
        let distance := (length : Int) - block.markerLength
        ((∀ line ∈ block.lines, line.quoteRun dialect block.quote ≠ length) →
          ∃ other, scan dialect (marker ++ interior ++ marker ++ following) 0 = .ok other ∧
            other =
              { block with
                markerLength := length
                lines := block.lines.map (Line.move distance)
                finish := interior.length + 2 * length } ∧
            block.ValuedAlike (· + distance) other) ∧
        ((∃ line ∈ block.lines, line.quoteRun dialect block.quote = length) →
          ∃ before line after, block.lines = before ++ line :: after ∧
            (∀ earlier ∈ before, earlier.quoteRun dialect block.quote ≠ length) ∧
            line.quoteRun dialect block.quote = length ∧
            scan dialect (marker ++ interior ++ marker ++ following) 0 = .ok
              { block with
                markerLength := length
                lines := before.map (Line.move distance)
                indentation := line.text.takeWhile dialect.isWhitespace
                finish := line.offset + distance +
                  (line.text.takeWhile dialect.isWhitespace).length + length }) := by
  have scannedAtStart : scan dialect text (0 : Nat) = .ok block := scanned
  obtain ⟨layout, rest, shape, _, rfl⟩ := scan_eq_ok_iff.mp scannedAtStart
  have notReturn : layout.quote ≠ '\r' := notCarriageReturn
  refine ⟨layout.interior, ?_, ?_⟩
  · have whole := layout.slice_characters shape
    rw [layout.marker_block, ← layout.characters_eq]
    exact whole
  · intro length following longEnough boundary marker distance
    refine ⟨?_, ?_⟩
    · intro apart
      have stays := Line.stays_of_quoteRun_ne notReturn apart
      exact ⟨_, layout.scan_remarked longEnough boundary stays, rfl,
        Block.valuedAlike_move scannedAtStart distance⟩
    · rintro ⟨imitation, among, run⟩
      rcases exists_first_or_forall_not
          (fun line : Line => line.quoteRun dialect layout.quote = length)
          (layout.block (0 : Nat)).lines with
        none | ⟨before, line, after, lines, earlier, same⟩
      · exact absurd run (none imitation among)
      · refine ⟨before, line, after, lines, earlier, same, ?_⟩
        obtain ⟨front, raw, later, content, rfl, rfl⟩ := Line.exists_of_placed_eq_append lines
        rw [Line.quoteRun_ofTerminated notReturn] at same
        have closed := layout.scan_remarked_of_closing longEnough content
          (Line.stays_of_quoteRun_ne notReturn earlier) same (marker ++ following)
        rw [← List.append_assoc] at closed
        refine closed.trans (congrArg Except.ok ?_)
        rw [Layout.placed_of_length, Line.takeWhile_text_ofTerminated, Line.offset_ofTerminated]
        simp only [Layout.block, Block.mk.injEq, true_and, distance]
        omega

/-- A run of two, one of four, and a misindented line.  With five quotes the block is the
same, moved, and with four it ends at the run of four. -/
theorem scan_with_marker_length_four_and_five :
    let text : Text := ['"', '"', '"', '\n', ' ', '"', '"', 'x', '\r', '\n', '"', '"', '"', '"',
      '\n', ' ', '"', '"', '"']
    let interior : Text := ['\n', ' ', '"', '"', 'x', '\r', '\n', '"', '"', '"', '"', '\n', ' ']
    let block : Block :=
      { markerLength := 3
        trailing := []
        lines := [⟨[' ', '"', '"', 'x'], .carriageReturnLineFeed, 4⟩,
          ⟨['"', '"', '"', '"'], .lineFeed, 10⟩]
        indentation := [' ']
        quote := '"'
        start := 0
        finish := 19 }
    let moved : Block :=
      { block with
        markerLength := 5
        lines := [⟨[' ', '"', '"', 'x'], .carriageReturnLineFeed, 6⟩,
          ⟨['"', '"', '"', '"'], .lineFeed, 12⟩]
        finish := 23 }
    let early : Block :=
      { block with
        markerLength := 4
        lines := [⟨[' ', '"', '"', 'x'], .carriageReturnLineFeed, 5⟩]
        indentation := []
        finish := 15 }
    scan .standard text 0 = .ok block ∧ block.quote ≠ '\r' ∧
      text.slice 0 block.finish = block.marker ++ interior ++ block.marker ∧
      scan .standard (List.replicate 5 '"' ++ interior ++ List.replicate 5 '"' ++ ['y']) 0 =
        .ok moved ∧
      block.ValuedAlike (· + 2) moved ∧
      block.value = .error (.malformed (.misindented 1 10)) ∧
      scan .standard (List.replicate 4 '"' ++ interior ++ List.replicate 4 '"' ++ []) 0 =
        .ok early := by
  intro text interior block moved early
  have scanned : scan .standard text 0 = .ok block := by decide +kernel
  have shape : text.slice 0 block.finish = block.marker ++ interior ++ block.marker := by
    decide +kernel
  obtain ⟨between, same, lengths⟩ := scan_with_marker_length scanned (by decide)
  obtain rfl : between = interior :=
    List.append_cancel_left (List.append_cancel_right (same.symm.trans shape))
  obtain ⟨_, rescanned, rfl, alike⟩ :=
    (lengths 5 ['y'] (by decide) (by decide)).1 (by decide +kernel)
  obtain ⟨before, line, after, lines, apart, run, closed⟩ :=
    (lengths 4 [] (by decide) (by decide)).2
      ⟨⟨['"', '"', '"', '"'], .lineFeed, 10⟩, by decide, by decide⟩
  refine ⟨scanned, by decide, shape, rescanned, alike, by decide +kernel, ?_⟩
  rcases before with _ | ⟨first, _ | ⟨second, others⟩⟩
  · obtain ⟨rfl, _⟩ := List.cons.inj lines
    exact absurd run (by decide)
  · obtain ⟨rfl, rest⟩ := List.cons.inj lines
    obtain ⟨rfl, _⟩ := List.cons.inj rest
    exact closed
  · have count := congrArg List.length lines
    simp [block] at count

end Verbatim
