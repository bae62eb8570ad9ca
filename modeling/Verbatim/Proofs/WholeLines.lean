import Mathlib.Data.List.Basic
import Verbatim.Proofs.Extension

/-!
# Texts of whole lines

A text that ends in a line feed cuts nothing in two.  No marker runs on behind it
unless line feeds are quotes, no block ends where it ends, and a closing line that
comes later lies behind it as a whole.  So a scan that begins in such a text either
has its final verdict or finds the block unclosed, and `scan_append_of_endsLine`
says what can still become of the latter.
-/

namespace Verbatim

def Text.EndsLine (text : Text) : Prop :=
  text.getLast? = some '\n'

instance (text : Text) : Decidable text.EndsLine :=
  inferInstanceAs (Decidable (text.getLast? = some '\n'))

/-- A text breaks off at the end of a line, if it has any. -/
def Text.WholeLines (text : Text) : Prop :=
  text = [] ∨ text.EndsLine

/-- Where the closing line of a block begins. -/
def Block.closingLine (block : Block) : Int :=
  block.closingMarker.start - block.indentation.length

namespace Text.EndsLine

variable {text : Text}

theorem ne_nil (ends : text.EndsLine) : text ≠ [] := by
  rintro rfl
  cases ends

theorem drop (ends : text.EndsLine) {offset : Nat} (inside : offset < text.length) :
    EndsLine (text.drop offset) := by
  unfold EndsLine
  rw [List.getLast?_drop, if_neg (Nat.not_le_of_lt inside)]
  exact ends

theorem of_append {front rest : Text} (ends : EndsLine (front ++ rest))
    (nonempty : rest ≠ []) : EndsLine rest := by
  unfold EndsLine at ends ⊢
  rwa [List.getLast?_append_of_ne_nil front nonempty] at ends

theorem append (ends : text.EndsLine) (front : Text) : EndsLine (front ++ text) := by
  unfold EndsLine
  rw [List.getLast?_append_of_ne_nil front ends.ne_nil]
  exact ends

theorem lineFeed_mem (ends : text.EndsLine) : '\n' ∈ text :=
  List.mem_of_getLast? ends

theorem flatten {chunks : List Text} (nonempty : chunks ≠ [])
    (ends : ∀ chunk ∈ chunks, EndsLine chunk) : EndsLine chunks.flatten := by
  rcases List.eq_nil_or_concat chunks with rfl | ⟨before, last, rfl⟩
  · exact absurd rfl nonempty
  · have lastEnds : EndsLine last := ends last (by simp)
    rw [List.concat_eq_append, List.flatten_append, List.flatten_singleton]
    exact lastEnds.append before.flatten

end Text.EndsLine

namespace Layout

variable {dialect : Dialect} (layout : Layout dialect) {text following : Text} {offset : Nat}

theorem closingLine_block (start : Int) :
    (layout.block start).closingLine =
      start + layout.length + layout.opening.length + 1 +
        (Text.terminated layout.content).length := by
  unfold Block.closingLine
  rw [closingMarker_block]
  simp only [block]
  omega

theorem finish_block (start : Int) :
    (layout.block start).finish =
      (layout.block start).closingLine + (layout.indentation ++ layout.marker).length := by
  rw [closingLine_block, List.length_append, length_marker]
  simp only [block, length_characters, length_body]
  omega

theorem drop_closingLine (shape : text.drop offset = layout.characters ++ following) :
    text.drop (offset + (layout.length + layout.opening.length + 1 +
        (Text.terminated layout.content).length)) =
      layout.indentation ++ layout.marker ++ following := by
  have parts : layout.characters =
      (layout.marker ++ layout.opening ++ '\n' :: Text.terminated layout.content) ++
        (layout.indentation ++ layout.marker) := by
    simp [characters, body]
  rw [← List.drop_drop, shape, parts, List.append_assoc]
  apply List.drop_left'
  simp [length_marker]
  omega

theorem closingLine_unbroken : '\n' ∉ layout.indentation ++ layout.marker := by
  intro member
  rcases List.mem_append.mp member with blank | quote
  · exact lineFeed_not_mem_of_blank layout.indentationBlank blank
  · exact layout.quoteNotLineFeed (List.eq_of_mem_replicate quote).symm

/-- Whole lines that end before a block does end before its closing line. -/
theorem length_le_closingLine {front more : Text} (ends : front.EndsLine)
    (shape : (front ++ more).drop offset = layout.characters ++ following)
    (beyond : (front.length : Int) < (layout.block offset).finish) :
    (front.length : Int) ≤ (layout.block offset).closingLine := by
  rw [finish_block, closingLine_block] at beyond
  rw [closingLine_block]
  by_contra inside
  -- Otherwise the line feed at the end of the front stands in the closing line.
  let place := front.length - 1 - (offset + (layout.length + layout.opening.length + 1 +
    (Text.terminated layout.content).length))
  have last : (front ++ more)[front.length - 1]? = some '\n' := by
    have positive : 0 < front.length := List.length_pos_iff.mpr ends.ne_nil
    rw [List.getElem?_append_left (by omega), ← List.getLast?_eq_getElem?]
    exact ends
  have within : place < (layout.indentation ++ layout.marker).length := by omega
  have index : front.length - 1 = offset + (layout.length + layout.opening.length + 1 +
      (Text.terminated layout.content).length) + place := by
    omega
  rw [index, ← List.getElem?_drop, layout.drop_closingLine shape,
    List.getElem?_append_left within] at last
  exact layout.closingLine_unbroken (List.mem_of_getElem? last)

end Layout

section Scanning

variable {dialect : Dialect} {text : Text} {offset : Nat}

theorem Opening.measure_append {onward more : Text} (ends : onward.EndsLine)
    (noLineFeed : '\n' ∉ dialect.quotes) (start : Int) :
    measure dialect start (onward ++ more) = measure dialect start onward := by
  cases onward with
  | nil => cases ends
  | cons quote rest =>
      by_cases isQuote : dialect.isQuote quote = true
      · have different : '\n' ≠ quote := by
          rintro rfl
          exact noLineFeed (by simpa [Dialect.isQuote] using isQuote)
        have counted := leadingRun_append_of_mem ends.lineFeed_mem different more
        rw [List.cons_append] at counted ⊢
        simp only [measure, counted]
      · simp [measure, isQuote]

theorem Opening.find_append (ends : text.EndsLine) (noLineFeed : '\n' ∉ dialect.quotes)
    (inside : offset < text.length) (more : Text) :
    find dialect (text ++ more) offset = find dialect text offset := by
  rw [find_natCast, find_natCast, List.drop_append_of_le_length (Nat.le_of_lt inside)]
  exact measure_append (ends.drop inside) noLineFeed offset

/-- No block ends where whole lines end. -/
theorem not_runsOn_of_endsLine {block : Block} (ends : text.EndsLine)
    (scanned : scan dialect text offset = .ok block) (more : Text) :
    ¬ block.RunsOn text more := by
  rintro ⟨finished, _⟩
  obtain ⟨layout, following, shape, _, rfl⟩ := scan_eq_ok_iff.mp scanned
  have inside := (layout.markerAt shape).offset_lt_length
  have lengths := congrArg List.length shape
  rw [List.length_drop, List.length_append] at lengths
  have nothing : following = [] := by
    apply List.eq_nil_of_length_eq_zero
    simp only [Layout.block] at finished
    omega
  have lineFeed := ends.drop inside
  obtain ⟨front, ending⟩ := layout.exists_eq_append_marker
  rw [shape, nothing, List.append_nil, ending] at lineFeed
  have positive := layout.positive_length
  have final := lineFeed.of_append (by simp [Layout.marker]; omega)
  exact layout.closingLine_unbroken (List.mem_append_right _ final.lineFeed_mem)

theorem MarkerAt.endsLine_rest {quote : Char} {length : Nat} {rest : Text}
    (marker : MarkerAt dialect text offset quote length rest) (ends : text.EndsLine)
    (noLineFeed : '\n' ∉ dialect.quotes) : rest.EndsLine := by
  have behind := ends.drop marker.offset_lt_length
  rw [marker.shape] at behind
  apply behind.of_append
  rintro rfl
  rw [List.append_nil] at behind
  have isQuote := marker.isQuote
  rw [← List.eq_of_mem_replicate behind.lineFeed_mem] at isQuote
  exact noLineFeed (by simpa [Dialect.isQuote] using isQuote)

theorem UnclosedAt.scan_append_cases (ends : text.EndsLine) (noLineFeed : '\n' ∉ dialect.quotes)
    (unclosed : UnclosedAt dialect text offset) (more : Text) :
    scan dialect (text ++ more) offset =
        .error (.malformed (.unterminated offset (text ++ more).length)) ∨
      ∃ block, scan dialect (text ++ more) offset = .ok block ∧
        text.length ≤ block.closingLine := by
  have scanned := scan_eq_unterminated_iff.mpr ⟨unclosed, rfl, rfl⟩
  obtain ⟨quote, length, rest, opening, later, marker, lines, blank, stays⟩ := unclosed
  have restEnds := marker.endsLine_rest ends noLineFeed
  have longer := marker.append more (fun empty => absurd empty restEnds.ne_nil)
  rcases rest.unbroken_or_exists_eq_append_lineFeed with whole | broken
  · exact absurd restEnds.lineFeed_mem whole
  · obtain ⟨first, body, unbroken, rfl⟩ := broken
    rw [List.splitOn_append_cons_self_of_not_mem unbroken] at lines
    obtain ⟨rfl, _⟩ := List.cons.inj lines
    have longerLines : (first ++ '\n' :: body ++ more).splitOn '\n' =
        first :: (body ++ more).splitOn '\n' := by
      rw [List.append_assoc, List.cons_append,
        List.splitOn_append_cons_self_of_not_mem unbroken]
    rcases exists_first_closing_or_stays dialect quote length ((body ++ more).splitOn '\n')
      with longerStays | found
    · exact .inl (longer.scan_of_stays longerLines blank longerStays)
    · obtain ⟨before, line, after, indentation, split, earlier, closes⟩ := found
      rw [split] at longerLines
      obtain ⟨layout, following, shape, boundary, _⟩ :=
        longer.exists_layout longerLines blank earlier closes
      have reached := layout.scan_eq_ok shape boundary
      refine .inr ⟨_, reached, layout.length_le_closingLine ends shape ?_⟩
      by_contra within
      have early := scan_eq_ok_of_append reached (by omega)
      rw [scanned] at early
      cases early

theorem LacksMarker.scan_append_eq (ends : text.EndsLine) (noLineFeed : '\n' ∉ dialect.quotes)
    (inside : offset < text.length) (lacks : LacksMarker dialect text offset) (more : Text) :
    scan dialect (text ++ more) offset = scan dialect text offset := by
  have same := Opening.find_append ends noLineFeed inside more
  rcases find_of_lacksMarker lacks with missing | ⟨found, missing⟩ <;>
    rw [scan_eq_error_of_find_eq_error missing,
      scan_eq_error_of_find_eq_error (same.trans missing)]

/-- Whole lines have their final verdict, unless they leave a block unclosed.  Then
it stays unclosed, or a closing line lies behind them. -/
theorem scan_append_of_endsLine (ends : text.EndsLine) (noLineFeed : '\n' ∉ dialect.quotes)
    (inside : offset < text.length) (more : Text) :
    scan dialect (text ++ more) offset = scan dialect text offset ∨
    scan dialect text offset = .error (.malformed (.unterminated offset text.length)) ∧
      (scan dialect (text ++ more) offset =
          .error (.malformed (.unterminated offset (text ++ more).length)) ∨
        ∃ block, scan dialect (text ++ more) offset = .ok block ∧
          text.length ≤ block.closingLine) := by
  rcases scan_verdicts dialect text offset with
    ⟨lacks, _⟩ | ⟨position, stray, scanned⟩ | ⟨unclosed, scanned⟩ | standing
  · left
    exact lacks.scan_append_eq ends noLineFeed inside more
  · left
    rw [scanned]
    exact scan_eq_stray_iff.mpr (stray.append more)
  · right
    exact ⟨scanned, unclosed.scan_append_cases ends noLineFeed more⟩
  · left
    obtain ⟨layout, following, _, _, scanned⟩ := standing
    rw [scanned]
    exact scan_append_eq_ok scanned (not_runsOn_of_endsLine ends scanned more)

theorem finish_le_length_of_scan_eq_ok {block : Block}
    (scanned : scan dialect text offset = .ok block) : block.finish ≤ text.length := by
  obtain ⟨layout, following, shape, _, rfl⟩ := scan_eq_ok_iff.mp scanned
  have inside := (layout.markerAt shape).offset_lt_length
  have lengths := congrArg List.length shape
  rw [List.length_drop, List.length_append] at lengths
  simp only [Layout.block]
  omega

/-- The closing line begins behind the marker and holds the end of the block. -/
theorem closingLine_of_scan_eq_ok {block : Block}
    (scanned : scan dialect text offset = .ok block) :
    offset < block.closingLine ∧ block.closingLine < block.finish := by
  obtain ⟨layout, following, _, _, rfl⟩ := scan_eq_ok_iff.mp scanned
  have positive := layout.positive_length
  rw [layout.finish_block, layout.closingLine_block, List.length_append, layout.length_marker]
  omega

/-- Whole lines hold a block and give it, or they end before its closing line and
leave it unclosed. -/
theorem scan_front_of_ok {block : Block} {more : Text} (ends : text.EndsLine)
    (noLineFeed : '\n' ∉ dialect.quotes) (inside : offset < text.length)
    (scanned : scan dialect (text ++ more) offset = .ok block) :
    (block.finish ≤ text.length ∧ scan dialect text offset = .ok block) ∨
      text.length ≤ block.closingLine ∧
        scan dialect text offset = .error (.malformed (.unterminated offset text.length)) := by
  rcases scan_append_of_endsLine ends noLineFeed inside more with same | ⟨early, later⟩
  · left
    rw [same] at scanned
    exact ⟨finish_le_length_of_scan_eq_ok scanned, scanned⟩
  · right
    rcases later with unterminated | ⟨other, found, behind⟩
    · rw [unterminated] at scanned
      cases scanned
    · rw [found] at scanned
      cases scanned
      exact ⟨behind, early⟩

theorem scan_front_of_unterminated {start finish : Int} {more : Text} (ends : text.EndsLine)
    (noLineFeed : '\n' ∉ dialect.quotes) (inside : offset < text.length)
    (scanned : scan dialect (text ++ more) offset =
      .error (.malformed (.unterminated start finish))) :
    ∃ stop, scan dialect text offset = .error (.malformed (.unterminated start stop)) := by
  obtain ⟨_, rfl, _⟩ := scan_eq_unterminated_iff.mp scanned
  rcases scan_append_of_endsLine ends noLineFeed inside more with same | ⟨early, _⟩
  · exact ⟨finish, same.symm.trans scanned⟩
  · exact ⟨text.length, early⟩

end Scanning

end Verbatim
