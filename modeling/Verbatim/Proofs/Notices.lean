import Verbatim.Proofs.FormerMarkers

/-!
# What a notice says

The warning about a literal whose markers used to mean something else is spelled out by
`Source.WarnsOf`: a heading, the name of the file, and a picture of either marker.

This is for all dialects.  A carriage return that is a quote may be taken off the end of its
line, and then there is room for fewer carets than there are quotes.
-/

namespace Verbatim

namespace Source

/-- The text shows the row on which some characters of the source begin, with its number in
the margin, and below it as many carets as there is room for, and at least one. -/
def PicturesAt (source : Source) (start length : Nat) (caption text : Text) : Prop :=
  ∃ (column : Nat) (row : Int) (shown upper lower : Text),
    source.LiesAt start row column ∧ shown.Trims (source.line row) ∧
    upper = Numeral.inColumn 6 row ++ " :".toList ++ shown ∧
    text = upper ++ '\n' :: lower ∧
    lower.Underlines upper
      ((Numeral.inColumn 6 row ++ " :".toList).length + min column shown.length)
      (max 1 (min length (shown.length - column))) caption

/-- The text warns of the markers of a block that stands in the source. -/
def WarnsOf (source : Source) (block : Block) (text : Text) : Prop :=
  ∃ (opening closing length : Nat) (heading file openingPicture closingPicture : Text),
    block.start = opening ∧ block.finish = closing + length ∧ block.markerLength = length ∧
    RunAt source.content opening block.quote length ∧
    RunAt source.content closing block.quote length ∧
    heading =
      "Warning while reading a verbatim string: ".toList ++ "a ".toList ++
        Numeral.decimal length ++ "-quote marker formerly read as ".toList ++
        Numeral.decimal (length / 2) ++ " adjacent empty strings".toList ++
        (if length % 2 = 1 then " followed by the start of an ordinary string".toList else []) ++
        "; it now begins a verbatim string".toList ∧
    (source.fileName?.getD [] = [] → file = []) ∧
    (∀ name, source.fileName? = some name → name ≠ [] →
      file = "Excerpt from ".toList ++ name ++ " :".toList ++ ['\n']) ∧
    source.PicturesAt opening length "opening marker".toList openingPicture ∧
    source.PicturesAt closing length "closing marker".toList closingPicture ∧
    text = heading ++ '\n' :: (file ++ openingPicture ++ '\n' :: closingPicture)

variable {source : Source} {start : Nat}

theorem picturesAt_picture (inside : start ≤ source.content.length) (length : Nat)
    (caption : Text) :
    source.PicturesAt start length caption
      (Issue.picture source ⟨⟨start, start + length⟩, caption⟩) := by
  have lies := liesAt_locate inside
  obtain ⟨above, front, _, _, _, _, _, located⟩ := exists_above inside
  rw [located] at lies
  obtain ⟨lower, drawn, underlines⟩ :=
    exists_underlined_eq (source.line (source.firstRow + above.length))
      (Numeral.inColumn 6 (source.firstRow + above.length) ++ " :".toList) caption
      front.length length
  refine ⟨front.length, _, _, _, lower, lies, Text.trims_withoutLineEnd _, rfl, ?_, underlines⟩
  rw [Issue.picture, located, Span.width_add]
  exact drawn

end Source

/-- Whoever warns of a scanned block pictures its markers. -/
theorem FormerReading.warnsOf_render {dialect : Dialect} {source : Source} {offset : Nat}
    {block : Block} {key : SourceKey} {fetch : SourceKey → Source} (fetched : fetch key = source)
    (scanned : scan dialect source.content offset = .ok block) :
    source.WarnsOf block ((warning key block).render (some fetch)) := by
  obtain ⟨layout, following, shape, boundary, rfl⟩ := scan_eq_ok_iff.mp scanned
  have marker := layout.markerAt shape
  have openingRun : RunAt source.content offset layout.quote layout.length :=
    runAt_iff_drop_eq.mpr ⟨_, marker.shape, marker.boundary⟩
  obtain ⟨closingRun, _⟩ := layout.closing_run shape boundary
  have positive := layout.positive_length
  have finished : (layout.block offset).finish =
      (offset + layout.length + layout.interior.length : Nat) + layout.length :=
    congrArg Span.stop (layout.closingMarker_eq offset)
  obtain ⟨unnamed, named⟩ := Issue.excerpt_nil source
  refine ⟨offset, offset + layout.length + layout.interior.length, layout.length, _,
    Text.terminated (Issue.excerpt source []), _, _, rfl, finished, rfl, openingRun,
    closingRun, rfl, ?_, ?_,
    Source.picturesAt_picture (Nat.le_of_lt (openingRun.start_lt_length positive)) _ _,
    Source.picturesAt_picture (Nat.le_of_lt (closingRun.start_lt_length positive)) _ _, ?_⟩
  · intro noName
    rw [unnamed noName]
    rfl
  · intro name same nonempty
    rw [named name same nonempty]
    simp
  · have described := description_warning (show (layout.block offset).markerLength =
      (layout.length : Int) from rfl) key
    have opened : (layout.block offset).openingMarker = ⟨offset, offset + layout.length⟩ := rfl
    rw [render_warning, fetched, described, opened, layout.closingMarker_eq, List.cons_append,
      List.append_cons, ← List.cons_append, Text.intercalate_concat]
    simp only [Text.terminated_cons, Text.terminated_append, Text.terminated_nil,
      List.append_assoc, List.cons_append, List.nil_append]

end Verbatim
