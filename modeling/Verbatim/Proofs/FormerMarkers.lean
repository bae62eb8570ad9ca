import Verbatim.FormerReading
import Verbatim.Proofs.MarkerLength
import Verbatim.Proofs.Pictures

/-!
# Warnings about former markers

A warning about a block is pictured by two excerpts from the source, one for each marker.
`Source.UnderlinesRun` says what an excerpt is: a row of the source with its number in the
margin, and below it as many carets as there are quotes, exactly below the quotes.

A marker stands on one row and is no line end, so it is shown as a whole, whatever stands
before it on its row.  Between the markers there is a line feed for the opening line and one
for each line of the content, and the rows differ by as many.
-/

namespace Verbatim

/-- An excerpt from a source in two lines.  The upper one is the row on which a run of a
character stands, with its number in the margin.  The lower one has carets below the run and
below nothing else. -/
def Source.UnderlinesRun (source : Source) (start : Nat) (char : Char) (length : Nat) (row : Int)
    (caption upper lower : Text) : Prop :=
  ∃ (column : Nat) (shown : Text),
    source.LiesAt start row column ∧ shown.Trims (source.line row) ∧
    RunAt shown column char length ∧
    upper = Numeral.inColumn 6 row ++ " :".toList ++ shown ∧
    lower.Underlines upper ((Numeral.inColumn 6 row ++ " :".toList).length + column) length
      caption

theorem Numeral.lineFeed_not_mem_inColumn (width : Nat) (number : Int) :
    '\n' ∉ inColumn width number := by
  unfold inColumn
  split <;> simp [List.leftpad, lineFeed_not_mem_decimal]

section Runs

variable {source : Source} {start length : Nat} {char : Char} {caption : Text}

theorem RunAt.start_lt_length {text : Text} (run : RunAt text start char length)
    (positive : 0 < length) : start < text.length :=
  (List.getElem?_eq_some_iff.mp (run.1 0 positive)).1

/-- A run of a character that is no line end is shown as a whole. -/
theorem RunAt.exists_shown (run : RunAt source.content start char length) (positive : 0 < length)
    (notReturn : char ≠ '\r') (notLineFeed : char ≠ '\n') :
    ∃ (row : Int) (front onward : Text),
      source.locate start = (row, (front.length : Int)) ∧
      source.LiesAt start row front.length ∧
      (source.line row).withoutLineEnd = front ++ (List.replicate length char ++ onward) ∧
      onward.head? ≠ some char := by
  obtain ⟨row, front, located, lies, shown⟩ :=
    Source.exists_shown (Nat.le_of_lt (run.start_lt_length positive))
      (.inr ⟨char, run.1 0 positive, notReturn, notLineFeed⟩)
  obtain ⟨rest, shape, boundary⟩ := runAt_iff_drop_eq.mp run
  have unbroken : '\n' ∉ List.replicate length char := fun member =>
    notLineFeed (List.eq_of_mem_replicate member).symm
  have stops : ∀ last ∈ (List.replicate length char).getLast?, Text.isLineEnd last = false := by
    intro last found
    rw [List.eq_of_mem_replicate (List.mem_of_getLast? found)]
    simp [Text.isLineEnd, notReturn, notLineFeed]
  rw [shape, Text.restOfLine_append unbroken, Text.withoutLineEnd_append stops] at shown
  refine ⟨row, front, _, located, lies, shown, ?_⟩
  intro first
  obtain ⟨ending, whole⟩ := Text.withoutLineEnd_isPrefix (Text.restOfLine rest)
  apply boundary
  rw [← Text.head?_restOfLine, ← whole, List.head?_append, first]
  rfl

/-- The picture of a run is an excerpt that underlines it. -/
theorem RunAt.exists_picture_eq (run : RunAt source.content start char length)
    (positive : 0 < length) (notReturn : char ≠ '\r') (notLineFeed : char ≠ '\n')
    (captionUnbroken : '\n' ∉ caption) :
    ∃ upper lower : Text,
      Issue.picture source ⟨⟨start, start + length⟩, caption⟩ = upper ++ '\n' :: lower ∧
      source.UnderlinesRun start char length (source.locate start).1 caption upper lower ∧
      '\n' ∉ upper ∧ '\n' ∉ lower := by
  obtain ⟨row, front, onward, located, lies, shown, boundary⟩ :=
    run.exists_shown positive notReturn notLineFeed
  obtain ⟨lower, drawn, underlines⟩ := exists_underlined_eq (source.line row)
    (Numeral.inColumn 6 row ++ " :".toList) caption front.length length
  have longEnough : front.length + length ≤ (source.line row).withoutLineEnd.length := by
    rw [shown, List.length_append, List.length_append, List.length_replicate]
    omega
  rw [Nat.min_eq_left (by omega), Nat.min_eq_left (by omega), Nat.max_eq_right positive]
    at underlines
  have shownUnbroken := Text.lineFeed_not_mem_withoutLineEnd lies.oneLine
  have shownRun : RunAt (source.line row).withoutLineEnd front.length char length := by
    apply runAt_iff_drop_eq.mpr
    exact ⟨onward, by rw [shown, List.drop_left], boundary⟩
  refine ⟨_, lower, ?_, ⟨front.length, _, ?_, Text.trims_withoutLineEnd _, ?_, rfl, ?_⟩, ?_,
    underlines.unbroken captionUnbroken⟩
  · rw [Issue.picture, located, Span.width_add]
    exact drawn
  · rw [located]
    exact lies
  · rw [located]
    exact shownRun
  · rw [located]
    exact underlines
  · rw [located]
    simp [Numeral.lineFeed_not_mem_inColumn, shownUnbroken]

end Runs

namespace Layout

variable {dialect : Dialect} (layout : Layout dialect) {text following : Text} {offset : Nat}

theorem closingMarker_eq (offset : Nat) :
    (layout.block offset).closingMarker =
      ⟨(offset + layout.length + layout.interior.length : Nat),
        (offset + layout.length + layout.interior.length : Nat) + layout.length⟩ := by
  simp only [Block.closingMarker, block, characters_eq, List.length_append, length_marker,
    Span.mk.injEq]
  omega

/-- Between the markers a line feed ends the opening line, and one ends each content line. -/
theorem count_lineFeed_interior : layout.interior.count '\n' = layout.content.length + 1 := by
  have opening := List.count_eq_zero.mpr layout.openingUnbroken
  have indentation := List.count_eq_zero.mpr (lineFeed_not_mem_of_blank layout.indentationBlank)
  rw [interior, List.count_append, List.count_append, List.count_cons_self, opening, indentation,
    Text.count_lineFeed_terminated layout.contentUnbroken]
  omega

/-- The closing marker is a run of quotes, too, and lies as many rows below the opening one
as there are line feeds between them. -/
theorem closing_run (shape : text.drop offset = layout.characters ++ following)
    (boundary : following.head? ≠ some layout.quote) :
    RunAt text (offset + layout.length + layout.interior.length) layout.quote layout.length ∧
      (text.take (offset + layout.length + layout.interior.length)).count '\n' =
        (text.take offset).count '\n' + layout.content.length + 1 := by
  obtain ⟨front, rfl, whole⟩ := layout.exists_front shape
  have before : (front ++ layout.marker ++ layout.interior).length =
      front.length + layout.length + layout.interior.length := by
    rw [List.length_append, List.length_append, layout.length_marker]
  have parts : text = front ++ layout.marker ++ layout.interior ++
      (layout.marker ++ following) := by
    rw [whole, layout.characters_eq]
    simp
  have noFeed : layout.marker.count '\n' = 0 := by
    apply List.count_eq_zero.mpr
    intro member
    exact layout.quoteNotLineFeed (List.eq_of_mem_replicate member).symm
  rw [← before, parts]
  constructor
  · apply runAt_iff_drop_eq.mpr
    exact ⟨following, List.drop_left, boundary⟩
  · rw [List.take_left, List.append_assoc, List.append_assoc, List.take_left, List.count_append,
      List.count_append, noFeed, layout.count_lineFeed_interior]
    omega

end Layout

/-- Both markers of a scanned block are pictured as they should be. -/
theorem exists_pictures_of_scan {dialect : Dialect} {source : Source} {offset : Nat}
    {block : Block} (noReturn : '\r' ∉ dialect.quotes)
    (scanned : scan dialect source.content offset = .ok block) :
    ∃ (length closing : Nat) (row : Int)
      (openingUpper openingLower closingUpper closingLower : Text),
      block.markerLength = length ∧
      block.openingMarker = ⟨offset, offset + length⟩ ∧
      Issue.picture source ⟨block.openingMarker, "opening marker".toList⟩ =
        openingUpper ++ '\n' :: openingLower ∧
      source.UnderlinesRun offset block.quote length row "opening marker".toList
        openingUpper openingLower ∧
      block.closingMarker = ⟨closing, closing + length⟩ ∧
      Issue.picture source ⟨block.closingMarker, "closing marker".toList⟩ =
        closingUpper ++ '\n' :: closingLower ∧
      source.UnderlinesRun closing block.quote length (row + block.lines.length + 1)
        "closing marker".toList closingUpper closingLower ∧
      ∀ line ∈ [openingUpper, openingLower, closingUpper, closingLower], '\n' ∉ line := by
  obtain ⟨layout, following, shape, boundary, rfl⟩ := scan_eq_ok_iff.mp scanned
  have notReturn := (layout.markerAt shape).quote_ne noReturn
  have openingRun : RunAt source.content offset layout.quote layout.length :=
    runAt_iff_drop_eq.mpr ⟨_, (layout.markerAt shape).shape, (layout.markerAt shape).boundary⟩
  obtain ⟨closingRun, rows⟩ := layout.closing_run shape boundary
  obtain ⟨openingUpper, openingLower, openingPicture, openingUnderlined, openingUnbroken⟩ :=
    @RunAt.exists_picture_eq _ _ _ _ "opening marker".toList openingRun layout.positive_length
      notReturn layout.quoteNotLineFeed (by decide)
  obtain ⟨closingUpper, closingLower, closingPicture, closingUnderlined, closingUnbroken⟩ :=
    @RunAt.exists_picture_eq _ _ _ _ "closing marker".toList closingRun layout.positive_length
      notReturn layout.quoteNotLineFeed (by decide)
  have closingRow : (source.locate (offset + layout.length + layout.interior.length : Nat)).1 =
      (source.locate offset).1 + (layout.block offset).lines.length + 1 := by
    have above := (Source.liesAt_locate
      (Nat.le_of_lt (openingRun.start_lt_length layout.positive_length))).rowsAbove
    have below := (Source.liesAt_locate
      (Nat.le_of_lt (closingRun.start_lt_length layout.positive_length))).rowsAbove
    have lines : (layout.block offset).lines.length = layout.content.length :=
      Line.length_placed _ _
    omega
  rw [closingRow] at closingUnderlined
  rw [← layout.closingMarker_eq] at closingPicture
  refine ⟨layout.length, _, _, openingUpper, openingLower, closingUpper, closingLower, rfl, rfl,
    openingPicture, openingUnderlined, layout.closingMarker_eq offset, closingPicture,
    closingUnderlined, ?_⟩
  simp [openingUnbroken, closingUnbroken]

/-- Pieces between line feeds are lines but for the last. -/
theorem Text.intercalate_concat (lines : List Text) (last : Text) :
    ['\n'].intercalate (lines ++ [last]) = terminated lines ++ last := by
  induction lines with
  | nil => simp [List.intercalate]
  | cons line later induction =>
      rw [List.cons_append, List.intercalate_cons_of_ne_nil (by simp), induction,
        terminated_cons]
      simp

/-- Pieces of two lines each stand between line feeds as their lines do. -/
theorem intercalate_pairs {front : List Text} (upper lower upper₂ lower₂ : Text) :
    ['\n'].intercalate (front ++ [upper ++ '\n' :: lower, upper₂ ++ '\n' :: lower₂]) =
      ['\n'].intercalate (front ++ [upper, lower, upper₂, lower₂]) := by
  have whole := Text.intercalate_concat (front ++ [upper ++ '\n' :: lower])
    (upper₂ ++ '\n' :: lower₂)
  have pieces := Text.intercalate_concat (front ++ [upper, lower, upper₂]) lower₂
  rw [List.append_assoc] at whole pieces
  refine whole.trans (Eq.trans ?_ pieces.symm)
  simp

/-- Without exhibits an excerpt is the name of the file, if that has one. -/
theorem Issue.excerpt_nil (source : Source) :
    (source.fileName?.getD [] = [] → excerpt source [] = []) ∧
      ∀ name, source.fileName? = some name → name ≠ [] →
        excerpt source [] = ["Excerpt from ".toList ++ name ++ " :".toList] := by
  constructor
  · intro unnamed
    unfold excerpt
    split
    · rfl
    · rfl
    · next name nonempty same =>
        rw [same] at unnamed
        exact absurd unnamed nonempty
  · intro name same nonempty
    unfold excerpt
    rw [same]
    cases name with
    | nil => exact absurd rfl nonempty
    | cons char rest => rfl

namespace FormerReading

/-- What the warning about a marker of some length says. -/
theorem description_warning {block : Block} {length : Nat} (counted : block.markerLength = length)
    (key : SourceKey) :
    (warning key block).description =
      "a ".toList ++ Numeral.decimal length ++ "-quote marker formerly read as ".toList ++
        Numeral.decimal (length / 2) ++ " adjacent empty strings".toList ++
        (if length % 2 = 1 then " followed by the start of an ordinary string".toList else []) ++
        "; it now begins a verbatim string".toList := by
  have pairs : (length : Int).fdiv 2 = (length / 2 : Nat) := by
    rw [Int.fdiv_eq_ediv_of_nonneg _ (by decide)]
    rfl
  have odd : (length : Int).fmod 2 = 0 ↔ ¬ length % 2 = 1 := by
    rw [Int.fmod_eq_emod_of_nonneg _ (by decide)]
    omega
  simp only [warning, counted, formerReading, pairs, Numeral.signed_natCast, odd]
  split
  · simp
  · next uneven => simp [not_not.mp uneven]

theorem unbroken_description_warning {block : Block} {length : Nat}
    (counted : block.markerLength = length) (key : SourceKey) :
    '\n' ∉ (warning key block).description := by
  have all := Numeral.lineFeed_not_mem_decimal length
  have pairs := Numeral.lineFeed_not_mem_decimal (length / 2)
  rw [description_warning counted]
  split <;> simp [all, pairs]

/-- A warning is pictured by its heading, the name of the file, and a picture of each marker. -/
theorem render_warning (key : SourceKey) (block : Block) (fetch : SourceKey → Source) :
    (warning key block).render (some fetch) =
      ['\n'].intercalate (("Warning while reading a verbatim string: ".toList ++
        (warning key block).description) :: Issue.excerpt (fetch key) [] ++
        [Issue.picture (fetch key) ⟨block.openingMarker, "opening marker".toList⟩,
          Issue.picture (fetch key) ⟨block.closingMarker, "closing marker".toList⟩]) := by
  have heading : Severity.warning.name ++ " while ".toList ++ phase ++ ": ".toList =
      "Warning while reading a verbatim string: ".toList := by
    decide +kernel
  rw [← heading]
  simp [Issue.render, warning, Issue.excerpt]

/-- A warning whose exhibits are pictured is these lines: the heading, the name of the file if
there is one, and the pictures. -/
theorem splitOn_render_warning {block : Block} {length : Nat} {key : SourceKey}
    {fetch : SourceKey → Source} {openingUpper openingLower closingUpper closingLower : Text}
    (counted : block.markerLength = length)
    (fileNameUnbroken : ∀ name, (fetch key).fileName? = some name → '\n' ∉ name)
    (opening : Issue.picture (fetch key) ⟨block.openingMarker, "opening marker".toList⟩ =
      openingUpper ++ '\n' :: openingLower)
    (closing : Issue.picture (fetch key) ⟨block.closingMarker, "closing marker".toList⟩ =
      closingUpper ++ '\n' :: closingLower)
    (unbroken : ∀ line ∈ [openingUpper, openingLower, closingUpper, closingLower], '\n' ∉ line) :
    ∃ named : List Text,
      ((warning key block).render (some fetch)).splitOn '\n' =
        ("Warning while reading a verbatim string: ".toList ++ (warning key block).description) ::
          (named ++ [openingUpper, openingLower, closingUpper, closingLower]) ∧
      ((fetch key).fileName?.getD [] = [] → named = []) ∧
      ∀ name, (fetch key).fileName? = some name → name ≠ [] →
        named = ["Excerpt from ".toList ++ name ++ " :".toList] := by
  obtain ⟨unnamed, file⟩ := Issue.excerpt_nil (fetch key)
  have named : ∀ line ∈ Issue.excerpt (fetch key) [], '\n' ∉ line := by
    unfold Issue.excerpt
    split
    · exact List.forall_mem_nil _
    · exact List.forall_mem_nil _
    · next name nonempty same =>
        have nameUnbroken := fileNameUnbroken name same
        simp [nameUnbroken]
  have first : '\n' ∉ "Warning while reading a verbatim string: ".toList ++
      (warning key block).description := by
    simp [unbroken_description_warning counted key]
  refine ⟨Issue.excerpt (fetch key) [], ?_, unnamed, file⟩
  · have details : (warning key block).render (some fetch) =
        ['\n'].intercalate (("Warning while reading a verbatim string: ".toList ++
          (warning key block).description) :: Issue.excerpt (fetch key) [] ++
          [openingUpper, openingLower, closingUpper, closingLower]) := by
      rw [render_warning, opening, closing, intercalate_pairs]
    rw [details]
    apply List.splitOn_intercalate
    · intro line member
      rcases List.mem_append.mp member with before | shown
      · rcases List.mem_cons.mp before with rfl | file
        · exact first
        · exact named line file
      · exact unbroken line shown
    · simp

end FormerReading

/-- An observer of former markers warns of a block if its markers are long enough, and then
once.  The warning names what the marker used to mean, and shows the opening and the closing
marker, each underlined as a whole and nothing else. -/
theorem former_markers_underlined {dialect : Dialect} {source : Source} {offset : Nat}
    {block : Block} {key : SourceKey} {fetch : SourceKey → Source} (threshold : Int)
    (noReturn : '\r' ∉ dialect.quotes)
    (fileNameUnbroken : ∀ name, source.fileName? = some name → '\n' ∉ name)
    (fetched : fetch key = source)
    (scanned : scan dialect source.content offset = .ok block) :
    (block.markerLength < threshold →
      (FormerReading.observer key threshold).observe block = ⟨[], none⟩) ∧
    (threshold ≤ block.markerLength →
      ∃ (issue : Issue) (length closing : Nat) (row : Int) (named : List Text)
        (openingUpper openingLower closingUpper closingLower : Text),
        (FormerReading.observer key threshold).observe block = ⟨[issue], none⟩ ∧
        block.markerLength = length ∧
        issue.description =
          "a ".toList ++ Numeral.decimal length ++ "-quote marker formerly read as ".toList ++
            Numeral.decimal (length / 2) ++ " adjacent empty strings".toList ++
            (if length % 2 = 1 then " followed by the start of an ordinary string".toList
              else []) ++
            "; it now begins a verbatim string".toList ∧
        (issue.render (some fetch)).splitOn '\n' =
          ("Warning while reading a verbatim string: ".toList ++ issue.description) ::
            (named ++ [openingUpper, openingLower, closingUpper, closingLower]) ∧
        (source.fileName?.getD [] = [] → named = []) ∧
        (∀ name, source.fileName? = some name → name ≠ [] →
          named = ["Excerpt from ".toList ++ name ++ " :".toList]) ∧
        block.openingMarker = ⟨offset, offset + length⟩ ∧
        source.UnderlinesRun offset block.quote length row "opening marker".toList
          openingUpper openingLower ∧
        block.closingMarker = ⟨closing, closing + length⟩ ∧
        source.UnderlinesRun closing block.quote length (row + block.lines.length + 1)
          "closing marker".toList closingUpper closingLower) := by
  refine ⟨fun short => ?_, fun longEnough => ?_⟩
  · simp [FormerReading.observer, Observer.reporting, short]
  · obtain ⟨length, closing, row, openingUpper, openingLower, closingUpper, closingLower, counted,
      begins, openingPicture, openingUnderlined, ends, closingPicture, closingUnderlined,
      unbroken⟩ := exists_pictures_of_scan noReturn scanned
    rw [← fetched] at fileNameUnbroken openingPicture closingPicture
    obtain ⟨named, rendered, unnamed, file⟩ := FormerReading.splitOn_render_warning counted
      fileNameUnbroken openingPicture closingPicture unbroken
    rw [fetched] at unnamed file
    refine ⟨FormerReading.warning key block, length, closing, row, named, openingUpper,
      openingLower, closingUpper, closingLower, ?_, counted,
      FormerReading.description_warning counted key, rendered, unnamed, file, begins,
      openingUnderlined, ends, closingUnderlined⟩
    simp [FormerReading.observer, Observer.reporting, Int.not_lt.mpr longEnough]

/-- Four quotes behind a tab and four behind a blank, with an empty line and one that ends in a
carriage return between them. -/
theorem former_markers_underlined_behind_tab_and_blank :
    let text : Text := ['x', '\t', '"', '"', '"', '"', '\r', '\n', ' ', 'a', '\r', '\n', '\n',
      ' ', '"', '"', '"', '"', ';', '\r', '\n']
    let source : Source := ⟨text, some "page".toList, 9⟩
    let block : Block := ⟨4, [], [⟨[' ', 'a'], .carriageReturnLineFeed, 8⟩, ⟨[], .lineFeed, 12⟩],
      [' '], '"', 2, 18⟩
    let warning := FormerReading.warning (.numbered 0) block
    scan .standard text 2 = .ok block ∧
      (FormerReading.observer (.numbered 0) 5).observe block = ⟨[], none⟩ ∧
      (warning.render (some fun _ => source)).splitOn '\n' =
        ["Warning while reading a verbatim string: a 4-quote marker formerly read as ".toList ++
          "2 adjacent empty strings; it now begins a verbatim string".toList,
        "Excerpt from page :".toList,
        "     9 :x\t\"\"\"\"".toList, "         \t^^^^ opening marker".toList,
        "    12 : \"\"\"\";".toList, "         ^^^^ closing marker".toList] ∧
      ∃ (issue : Issue) (row : Int) (openingUpper openingLower closingUpper closingLower : Text),
        (FormerReading.observer (.numbered 0) 4).observe block = ⟨[issue], none⟩ ∧
        source.UnderlinesRun 2 '"' 4 row "opening marker".toList openingUpper openingLower ∧
        source.UnderlinesRun 14 '"' 4 (row + 2 + 1) "closing marker".toList
          closingUpper closingLower := by
  intro text source block warning
  have noReturn : '\r' ∉ Dialect.standard.quotes := by decide
  have fileNameUnbroken : ∀ name, source.fileName? = some name → '\n' ∉ name := by
    rintro name ⟨⟩
    decide
  have scanned : scan .standard source.content (2 : Nat) = .ok block := by decide +kernel
  obtain ⟨quiet, _⟩ := @former_markers_underlined _ _ _ _ (.numbered 0) (fun _ => source) 5
    noReturn fileNameUnbroken rfl scanned
  obtain ⟨_, loud⟩ := @former_markers_underlined _ _ _ _ (.numbered 0) (fun _ => source) 4
    noReturn fileNameUnbroken rfl scanned
  obtain ⟨issue, length, closing, row, _, openingUpper, openingLower, closingUpper, closingLower,
    observed, counted, _, _, _, _, _, opening, begins, closed⟩ := loud (by decide)
  obtain rfl : length = 4 := Int.ofNat.inj counted.symm
  obtain rfl : closing = 14 := Int.ofNat.inj (congrArg Span.start begins).symm
  exact ⟨scanned, quiet (by decide), by decide +kernel, issue, row, openingUpper, openingLower,
    closingUpper, closingLower, observed, opening, closed⟩

end Verbatim
