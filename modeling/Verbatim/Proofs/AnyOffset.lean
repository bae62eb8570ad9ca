import Verbatim.Proofs.CaptureSteps
import Verbatim.Proofs.Displacement

/-!
# Scanning from any offset

An offset may be any integer.  A negative one counts back from the end of the text, and a
run of quotes that begins there is measured past that end, on into the beginning of the
text.

`scan_from_any_offset` says what a scan answers.  An offset in front of the text is out of
range.  From every other offset a scan judges the literal if a marker begins there, and
otherwise says that none does.

A block always has its closing marker where it says, because past the opening line every
position is counted from the start of the text.  The opening marker is where the block says
unless it reaches the end of the text from a negative offset: then the position behind it
is not negative any more, and the span between the two covers less than the marker.
-/

namespace Verbatim

namespace Text

theorem length_slice_le (text : Text) (start stop : Int) :
    (text.slice start stop).length ≤ text.index stop - text.index start := by
  unfold slice
  rw [List.length_drop, List.length_take]
  omega

/-- A stretch with a negative end is the same stretch counted from the start. -/
theorem slice_of_neg {text : Text} {start stop : Int} (inside : -(text.length : Int) ≤ start)
    (forward : start ≤ stop) (negative : stop < 0) :
    text.slice start stop = text.slice (text.length + start) (text.length + stop) := by
  have same : ∀ position : Int, -(text.length : Int) ≤ position → position < 0 →
      text.index position = text.index (text.length + position) := by
    intro position inside negative
    unfold index
    rw [if_pos negative, if_neg (by omega)]
    omega
  unfold slice
  rw [same start inside (by omega), same stop (by omega) negative]

/-- What is met from an offset on can be cut out of the text there, unless it reaches the
end of the text from a negative offset. -/
theorem slice_eq_iff_of_onward_eq_append {text piece rest : Text} {offset : Int}
    (inside : -(text.length : Int) ≤ offset) (met : text.onward offset = piece ++ rest) :
    text.slice offset (offset + piece.length) = piece ↔
      0 ≤ offset ∨ offset + piece.length < 0 := by
  constructor
  · intro cut
    by_contra reaches
    have width := text.length_slice_le offset (offset + piece.length)
    rw [cut] at width
    unfold index at width
    rw [if_neg (by omega), if_pos (by omega)] at width
    omega
  · rintro (nonneg | short)
    · obtain ⟨place, rfl⟩ := Int.eq_ofNat_of_zero_le nonneg
      rw [onward_of_nonneg nonneg, Int.toNat_natCast] at met
      exact slice_of_drop_eq_append met
    · obtain ⟨place, counted⟩ : ∃ place : Nat, (text.length : Int) + offset = place :=
        Int.eq_ofNat_of_zero_le (by omega)
      rw [onward_of_neg (by omega), counted, Int.toNat_natCast] at met
      -- The piece ends before the text does, so what follows the text has no say.
      have fits : piece.length ≤ (text.drop place).length := by
        rw [List.length_drop]
        omega
      have begins : piece <+: text.drop place :=
        List.prefix_of_prefix_length_le (met ▸ List.prefix_append piece rest)
          (List.prefix_append (text.drop place) text) fits
      obtain ⟨following, shape⟩ := begins
      rw [slice_of_neg inside (by omega) short, ← Int.add_assoc, counted]
      exact slice_of_drop_eq_append shape.symm

end Text

theorem Opening.find_eq_measure {dialect : Dialect} {text : Text} {offset : Int}
    (inside : -(text.length : Int) ≤ offset) :
    find dialect text offset = measure dialect offset (text.onward offset) :=
  if_neg (Int.not_lt.mpr inside)

/-- What is met from an offset on is measured as at the beginning of a text of its own. -/
theorem Opening.find_eq_error_of_onward {dialect : Dialect} {text : Text} {offset : Int}
    {failure : Failure} (inside : -(text.length : Int) ≤ offset)
    (missing : find dialect (text.onward offset) (0 : Nat) = .error failure) :
    find dialect text offset = .error (failure.move offset) := by
  rw [find_natCast, List.drop_zero] at missing
  have moved := measure_add missing offset
  rw [Int.natCast_zero, Int.zero_add] at moved
  rw [find_eq_measure inside, moved]

/-- A marker that is found is as long as the run of its quote from there to the end of the
text, which goes on at the beginning from a negative offset. -/
theorem Opening.runWithin_of_find_eq_ok {dialect : Dialect} {text : Text} {offset : Int}
    {opening : Opening} (found : find dialect text offset = .ok opening) :
    text.runWithin offset [opening.quote] text.length = .ok opening.length := by
  have inside : -(text.length : Int) ≤ offset := by
    by_contra before
    rw [find, if_pos (by omega)] at found
    cases found
  have whole := text.length_onward inside
  have seen : (text.onward offset).take ((text.length : Int) - offset).toNat =
      text.onward offset :=
    List.take_of_length_le (by omega)
  rw [find_eq_measure inside] at found
  rw [text.runWithin_eq_leadingRun opening.quote inside (Int.le_refl _), seen,
    length_eq_of_measure_eq_ok found]

/-- A capture that ends with a closing line ends with the marker. -/
theorem exists_marker_of_capture {dialect : Dialect} {quote : Char} {length : Nat}
    {position : Int} {text indentation : Text}
    (closed : (capture dialect quote length position text).indentation? = some indentation) :
    ∃ front following, text = front ++ List.replicate length quote ++ following ∧
      (capture dialect quote length position text).position =
        position + front.length + length := by
  fun_induction capture dialect quote length position text with
  | case1 position text indentation closes =>
      obtain ⟨following, line, _⟩ := (closingIndentation?_eq_some_iff.mp closes).eq_append
      refine ⟨indentation, following ++ text.dropWhile (· ≠ '\n'), ?_, rfl⟩
      rw [← List.append_assoc, ← line]
      exact text.firstLine_append_dropWhile.symm
  | case2 => cases closed
  | case3 position text content rest follows later induction =>
      obtain ⟨front, following, shape, reached⟩ := induction closed
      refine ⟨text.firstLine ++ '\n' :: front, following, ?_, ?_⟩
      · rw [List.append_assoc, List.append_assoc, List.cons_append, ← List.append_assoc front,
          ← shape]
        exact Text.eq_firstLine_append_of_afterFirstLine?_eq_some follows
      · rw [reached, List.length_append, List.length_cons]
        omega

/-- A block keeps the marker that its scan began with, and closes with a copy of it. -/
structure Block.ClosesMarker (block : Block) (text : Text) (opening : Opening) : Prop where
  quote_eq : block.quote = opening.quote
  length_eq : block.markerLength = opening.length
  start_eq : block.start = opening.start
  closingMarker :
    text.slice block.closingMarker.start block.closingMarker.stop = block.marker

namespace Scanner

theorem StandsAt.closesMarker_of_captureContent {scanner : Scanner} {place : Nat} {rest : Text}
    (stands : scanner.StandsAt place rest) {block : Block}
    (closed : scanner.captureContent.1 = .ok block) :
    block.ClosesMarker scanner.text scanner.opening := by
  rw [stands.captureContent_eq_of_capture rfl] at closed
  cases ending : (capture scanner.dialect scanner.opening.quote scanner.opening.length place
      rest).indentation? with
  | none =>
      rw [ending] at closed
      cases closed
  | some indentation =>
      rw [ending] at closed
      cases closed
      obtain ⟨front, following, shape, reached⟩ := exists_marker_of_capture ending
      have onward : scanner.text.drop (place + front.length) =
          List.replicate scanner.opening.length scanner.opening.quote ++ following := by
        rw [← List.drop_drop, stands.remaining, shape, List.append_assoc, List.drop_left]
      constructor
      case quote_eq => rfl
      case length_eq => rfl
      case start_eq => rfl
      case closingMarker =>
        have cut := Text.slice_of_drop_eq_append onward
        rw [List.length_replicate, Int.natCast_add] at cut
        simp only [Block.closingMarker, Block.marker, Scanner.block, reached,
          Int.add_sub_cancel, Int.toNat_natCast]
        exact cut

/-- Past the opening line, a scanner stands inside its text, wherever it began. -/
theorem exists_standsAt_of_readOpeningLine {scanner ready : Scanner} {phase : Phase}
    (awaited : scanner.readOpeningLine = (.ok phase, ready)) :
    ready.text = scanner.text ∧ ready.opening = scanner.opening ∧
      ∃ place rest, ready.StandsAt place rest := by
  unfold readOpeningLine at awaited
  split at awaited
  · cases awaited
  · cases awaited
  · next trailing rest complete =>
      cases awaited
      refine ⟨rfl, rfl, scanner.text.length - rest.length, rest, ?_⟩
      have behind := Text.isSuffix_of_afterFirstLine?_eq_some
        (OpeningLine.afterFirstLine?_of_read_eq_complete complete)
      have ending : rest <:+ scanner.text := behind.trans (List.drop_suffix _ _)
      have within := ending.length_le
      constructor
      case position => simp only [goTo]; omega
      case within => exact Nat.sub_le _ _
      case remaining => exact (List.suffix_iff_eq_drop.mp ending).symm

end Scanner

section Offsets

variable {dialect : Dialect} {text : Text} {offset : Int}

/-- A scan from a measured marker finds the literal malformed, or a block. -/
theorem scan_of_find_eq_ok {opening : Opening}
    (found : Opening.find dialect text offset = .ok opening) :
    (∃ malformation, scan dialect text offset = .error (.malformed malformation)) ∨
      ∃ block, scan dialect text offset = .ok block ∧ block.ClosesMarker text opening := by
  unfold scan Scanner.start
  rw [found]
  simp only [Except.map, bind, Except.bind, Scanner.run]
  split
  · next phase ready awaited =>
      obtain ⟨sameText, sameOpening, place, rest, stands⟩ :=
        Scanner.exists_standsAt_of_readOpeningLine awaited
      cases closed : ready.captureContent.1 with
      | error malformation => exact .inl ⟨malformation, rfl⟩
      | ok block =>
          have closes := stands.closesMarker_of_captureContent closed
          rw [sameText, sameOpening] at closes
          exact .inr ⟨block, rfl, closes⟩
  · next malformation _ _ => exact .inl ⟨malformation, rfl⟩

theorem scan_eq_outOfRange (before : offset < -(text.length : Int)) :
    scan dialect text offset = .error (.outOfRange offset) :=
  scan_eq_error_of_find_eq_error (if_pos before)

theorem scan_of_lacksMarker_onward (inside : -(text.length : Int) ≤ offset)
    (lacks : LacksMarker dialect (text.onward offset) 0) :
    scan dialect text offset = .error (.noMarker offset) ∨
      ∃ found, scan dialect text offset = .error (.shortMarker found offset) := by
  rcases find_of_lacksMarker lacks with missing | ⟨found, short⟩
  · have denied := scan_eq_error_of_find_eq_error
      (Opening.find_eq_error_of_onward inside missing)
    exact .inl (by simpa [Failure.move] using denied)
  · have denied := scan_eq_error_of_find_eq_error
      (Opening.find_eq_error_of_onward inside short)
    exact .inr ⟨found, by simpa [Failure.move] using denied⟩

/-- Where a marker begins, a scan finds the literal malformed or answers with a block, whose
markers stand where it says, up to the one exception for the opening marker. -/
theorem MarkerAt.scan_from_onward {quote : Char} {length : Nat} {rest : Text}
    (inside : -(text.length : Int) ≤ offset)
    (marker : MarkerAt dialect (text.onward offset) 0 quote length rest) :
    (∃ malformation, scan dialect text offset = .error (.malformed malformation)) ∨
      ∃ block, scan dialect text offset = .ok block ∧
        text.slice block.closingMarker.start block.closingMarker.stop = block.marker ∧
        (text.slice block.openingMarker.start block.openingMarker.stop = block.marker ↔
          0 ≤ offset ∨ block.openingMarker.stop < 0) := by
  have found : Opening.find dialect text offset = .ok ⟨quote, length, offset⟩ :=
    (Opening.find_eq_measure inside).trans (marker.measure_eq_ok offset)
  rcases scan_of_find_eq_ok found with malformed | ⟨block, scanned, closes⟩
  · exact .inl malformed
  · refine .inr ⟨block, scanned, closes.closingMarker, ?_⟩
    have cut := Text.slice_eq_iff_of_onward_eq_append inside marker.shape
    rw [List.length_replicate] at cut
    simpa only [Block.openingMarker, Block.marker, closes.quote_eq, closes.length_eq,
      closes.start_eq, Int.toNat_natCast] using cut

theorem scan_ne_outOfRange (inside : -(text.length : Int) ≤ offset) (position : Int) :
    scan dialect text offset ≠ .error (.outOfRange position) := by
  rcases lacksMarker_or_exists_markerAt dialect (text.onward offset) 0 with
    lacks | ⟨quote, length, rest, marker⟩
  · rcases scan_of_lacksMarker_onward inside lacks with denied | ⟨found, denied⟩
    · simp [denied]
    · simp [denied]
  · rcases marker.scan_from_onward inside with ⟨malformation, malformed⟩ | ⟨block, scanned, _⟩
    · simp [malformed]
    · simp [scanned]

/-- A block was scanned from a marker, at an offset that is not in front of the text. -/
theorem exists_markerAt_onward_of_scan_eq_ok {block : Block}
    (scanned : scan dialect text offset = .ok block) :
    -(text.length : Int) ≤ offset ∧
      ∃ quote length rest, MarkerAt dialect (text.onward offset) 0 quote length rest := by
  by_cases before : offset < -(text.length : Int)
  · rw [scan_eq_outOfRange before] at scanned
    cases scanned
  · have inside : -(text.length : Int) ≤ offset := Int.not_lt.mp before
    rcases lacksMarker_or_exists_markerAt dialect (text.onward offset) 0 with lacks | marker
    · rcases scan_of_lacksMarker_onward inside lacks with denied | ⟨found, denied⟩
      · simp [denied] at scanned
      · simp [denied] at scanned
    · exact ⟨inside, marker⟩

end Offsets

/-- A scan is out of range in front of the text and nowhere else.  From every other offset
it denies that a marker begins there if none does, and otherwise answers with a block or
finds the literal malformed.  The closing marker of a block stands where the block says, and
the opening one does unless it reaches the end of the text from a negative offset. -/
theorem scan_from_any_offset (dialect : Dialect) (text : Text) (offset : Int) :
    ((∃ position, scan dialect text offset = .error (.outOfRange position)) ↔
      offset < -(text.length : Int)) ∧
    (-(text.length : Int) ≤ offset →
      (LacksMarker dialect (text.onward offset) 0 →
        scan dialect text offset = .error (.noMarker offset) ∨
          ∃ found, scan dialect text offset = .error (.shortMarker found offset)) ∧
      (¬ LacksMarker dialect (text.onward offset) 0 →
        (∃ block, scan dialect text offset = .ok block) ∨
          ∃ malformation, scan dialect text offset = .error (.malformed malformation))) ∧
    ∀ block, scan dialect text offset = .ok block →
      text.slice block.closingMarker.start block.closingMarker.stop = block.marker ∧
      (text.slice block.openingMarker.start block.openingMarker.stop = block.marker ↔
        0 ≤ offset ∨ block.openingMarker.stop < 0) := by
  refine ⟨⟨?_, ?_⟩, ?_, ?_⟩
  · rintro ⟨position, astray⟩
    by_contra inside
    exact scan_ne_outOfRange (Int.not_lt.mp inside) position astray
  · intro before
    exact ⟨offset, scan_eq_outOfRange before⟩
  · intro inside
    refine ⟨scan_of_lacksMarker_onward inside, ?_⟩
    intro begins
    obtain ⟨quote, length, rest, marker⟩ :=
      (lacksMarker_or_exists_markerAt dialect (text.onward offset) 0).resolve_left begins
    rcases marker.scan_from_onward inside with malformed | ⟨block, scanned, _⟩
    · exact .inr malformed
    · exact .inl ⟨block, scanned⟩
  · intro block scanned
    obtain ⟨inside, quote, length, rest, marker⟩ :=
      exists_markerAt_onward_of_scan_eq_ok scanned
    rcases marker.scan_from_onward inside with ⟨_, malformed⟩ | ⟨other, found, spans⟩
    · rw [malformed] at scanned
      cases scanned
    · rw [scanned] at found
      cases found
      exact spans

/-- An offset counted from the end at which a literal is found, and one whose run of two
quotes ends with the text. -/
theorem scan_from_any_offset_counted_from_end :
    let text : Text :=
      ['a', '"', '"', '"', '\r', '\n', 'b', '\n', ' ', '"', '"', '"', '\n', '"', '"']
    let block : Block := ⟨3, [], [⟨['b'], .lineFeed, 6⟩], [' '], '"', -14, 12⟩
    scan .standard text (-14) = .ok block ∧ -(text.length : Int) ≤ -14 ∧
      ¬ LacksMarker .standard (text.onward (-14)) 0 ∧
      (∀ position, scan .standard text (-14) ≠ .error (.outOfRange position)) ∧
      text.slice 9 12 = block.marker ∧ text.slice (-14) (-11) = block.marker ∧
      LacksMarker .standard (text.onward (-2)) 0 ∧
      (scan .standard text (-2) = .error (.noMarker (-2)) ∨
        ∃ found, scan .standard text (-2) = .error (.shortMarker found (-2))) := by
  intro text block
  have scanned : scan .standard text (-14) = .ok block := by decide +kernel
  have inside : -(text.length : Int) ≤ -14 := by decide
  have lacks : LacksMarker .standard (text.onward (-2)) 0 :=
    .inr ⟨'"', rfl, .inr ⟨2, runAt_iff_leadingRun_eq.mpr (by decide), by decide⟩⟩
  obtain ⟨range, verdicts, spans⟩ := scan_from_any_offset .standard text (-14)
  obtain ⟨closing, opening⟩ := spans block scanned
  refine ⟨scanned, inside, ?_, ?_, closing, opening.mpr (.inr (by decide)), lacks,
    ((scan_from_any_offset .standard text (-2)).2.1 (by decide)).1 lacks⟩
  · intro missing
    rcases (verdicts inside).1 missing with denied | ⟨found, denied⟩
    · simp [denied] at scanned
    · simp [denied] at scanned
  · intro position astray
    exact absurd (range.mp ⟨position, astray⟩) (by decide)

/-- Two offsets that go astray: one in front of the text, and one at a marker that ends with
the text, where a literal is read on from the beginning and its opening marker is not where
the block says. -/
theorem scan_astray_from_negative_offsets :
    let text : Text := ['"', '"', '"', '\n', '"', '"', '"']
    let around : Text := [' ', '\n', '"', '"', '"', '\n', '"', '"', '"']
    let block : Block := ⟨3, [' '], [], [], '"', -3, 5⟩
    scan .standard text (-8) = .error (.outOfRange (-8)) ∧
      scan .standard around (-3) = .ok block ∧
      around.slice block.openingMarker.start block.openingMarker.stop = [] ∧
      block.marker = ['"', '"', '"'] := by
  intro text around block
  refine ⟨?_, ?_, ?_, ?_⟩ <;> decide +kernel

end Verbatim
