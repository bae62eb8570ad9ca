import Verbatim.Proofs.Partition
import Verbatim.Proofs.Skipping

/-!
# Texts behind other texts

A text that stands behind another one has all its positions moved by the length of
that other text.  Nothing else about it changes: a scan, a skip, the value of a block
and the partition of the text into regions are the same, moved.  What stands in front
has no say, as long as no marker begins in it, and whole lines see to that.
-/

namespace Verbatim

section Positions

def Line.move (distance : Int) (line : Line) : Line :=
  { line with offset := line.offset + distance }

def Block.move (distance : Int) (block : Block) : Block :=
  { block with
    lines := block.lines.map (Line.move distance)
    start := block.start + distance
    finish := block.finish + distance }

def Literal.move (distance : Int) (literal : Literal) : Literal :=
  { literal with block := literal.block.move distance }

def Malformation.move (distance : Int) : Malformation → Malformation
  | .strayText position => .strayText (position + distance)
  | .unterminated start finish => .unterminated (start + distance) (finish + distance)
  | .misindented line position => .misindented line (position + distance)

def Failure.move (distance : Int) : Failure → Failure
  | .malformed malformation => .malformed (malformation.move distance)
  | .noMarker offset => .noMarker (offset + distance)
  | .shortMarker found offset => .shortMarker found (offset + distance)
  | .outOfRange position => .outOfRange (position + distance)
  | .missingTerminator line => .missingTerminator (line.move distance)
  | .unimplementedObserver => .unimplementedObserver
  | .raisedWarning warning => .raisedWarning warning

def Span.move (distance : Int) (span : Span) : Span :=
  ⟨span.start + distance, span.stop + distance⟩

def Exhibit.move (distance : Int) (exhibit : Exhibit) : Exhibit :=
  { exhibit with span := exhibit.span.move distance }

/-- An issue with all its evidence moved. -/
def Issue.move (distance : Int) (issue : Issue) : Issue :=
  { issue with
    evidence := issue.evidence.map fun (key, exhibits) =>
      (key, exhibits.map (Exhibit.move distance)) }

def Event.move (distance : Int) : Event → Event
  | .literal found => .literal (found.move distance)
  | .misindented malformation block =>
      .misindented (malformation.move distance) (block.move distance)
  | .badOpening malformation => .badOpening (malformation.move distance)
  | .unterminated malformation => .unterminated (malformation.move distance)
  | .issue reported => .issue (reported.move distance)
  | .warning reported => .warning (reported.move distance)

def Region.move (distance : Nat) (region : Region) : Region where
  start := region.start + distance
  stop? := region.stop?.map (· + distance)
  event := region.event.move distance

end Positions

section Values

theorem Line.strip_move (indentation : Text) (index : Nat) (line : Line) (distance : Int) :
    (line.move distance).strip indentation index =
      (line.strip indentation index).mapError (Malformation.move distance) := by
  have place : line.offset + distance + agreement line.text indentation =
      line.offset + agreement line.text indentation + distance := by
    omega
  unfold strip
  simp only [move, place]
  by_cases empty : line.text = []
  · simp only [if_pos empty]
    rfl
  · by_cases indented : indentation <+: line.text
    · simp only [if_neg empty, if_pos indented]
      rfl
    · simp only [if_neg empty, if_neg indented]
      rfl

theorem stripLines_map_move (indentation : Text) (index : Nat) (lines : List Line)
    (distance : Int) :
    stripLines indentation index (lines.map (Line.move distance)) =
      (stripLines indentation index lines).mapError (Malformation.move distance) := by
  induction lines generalizing index with
  | nil => rfl
  | cons line later induction =>
      rw [List.map_cons, stripLines, stripLines, Line.strip_move, induction]
      cases line.strip indentation index with
      | error malformation => rfl
      | ok text => cases stripLines indentation (index + 1) later <;> rfl

theorem joinLines_map_move (pairs : List (Line × Text)) (distance : Int) :
    joinLines (pairs.map (Prod.map (Line.move distance) id)) =
      (joinLines pairs).mapError (Failure.move distance) := by
  induction pairs with
  | nil => rfl
  | cons pair later induction =>
      obtain ⟨line, text⟩ := pair
      cases later with
      | nil => rfl
      | cons next others =>
          by_cases cut : line.terminator = .absent
          · simp [joinLines, cut, Line.move, Except.mapError, Failure.move]
          · have moved : (line.move distance).terminator ≠ .absent := cut
            rw [joinLines_cons cut (List.cons_ne_nil next others), List.map_cons]
            rw [Prod.map_apply, joinLines_cons moved (by simp), induction]
            cases joinLines (next :: others) <;> rfl

/-- A block has the same value wherever it stands. -/
theorem Block.value_move (block : Block) (distance : Int) :
    (block.move distance).value = block.value.mapError (Failure.move distance) := by
  have stripped : (block.move distance).strippedLines =
      block.strippedLines.mapError (Malformation.move distance) :=
    stripLines_map_move block.indentation 0 block.lines distance
  unfold value
  rw [stripped]
  cases block.strippedLines with
  | error malformation => rfl
  | ok texts =>
      have pairs : (block.move distance).lines.zip texts =
          (block.lines.zip texts).map (Prod.map (Line.move distance) id) := by
        simp only [move, List.zip_map_left]
      simp only [Except.mapError, bind, Except.bind]
      rw [pairs, joinLines_map_move]
      rfl

end Values

section Blocks

theorem Line.ofTerminated_add (offset distance : Int) (line : Text) :
    ofTerminated (offset + distance) line = (ofTerminated offset line).move distance := by
  unfold ofTerminated
  split <;> rfl

theorem Line.placed_add (position distance : Int) (lines : List Text) :
    placed (position + distance) lines = (placed position lines).map (move distance) := by
  induction lines generalizing position with
  | nil => rfl
  | cons line later induction =>
      have next : position + distance + line.length + 1 =
          position + line.length + 1 + distance := by
        omega
      rw [placed, placed, List.map_cons, ofTerminated_add, next, induction]

theorem Layout.block_add {dialect : Dialect} (layout : Layout dialect)
    (start distance : Int) :
    layout.block (start + distance) = (layout.block start).move distance := by
  have first : start + distance + layout.length + layout.opening.length + 1 =
      start + layout.length + layout.opening.length + 1 + distance := by
    omega
  simp only [block, Block.move, Block.mk.injEq, true_and]
  refine ⟨?_, ?_⟩
  · rw [first, Line.placed_add]
  · omega

end Blocks

theorem Text.drop_prepend (front text : Text) (offset : Nat) :
    (front ++ text).drop (offset + front.length) = text.drop offset := by
  rw [Nat.add_comm, ← List.drop_drop, List.drop_left]

section Scanning

variable {dialect : Dialect} {text : Text} {offset : Nat}

theorem Opening.measure_add {start : Int} {onward : Text} {failure : Failure}
    (missing : measure dialect start onward = .error failure) (distance : Int) :
    measure dialect (start + distance) onward = .error (failure.move distance) := by
  unfold measure at missing ⊢
  split
  · cases missing
    rfl
  · split
    · next noQuote =>
        simp only [noQuote, if_true] at missing
        cases missing
        rfl
    · next isQuote =>
        simp only [isQuote] at missing
        split
        · next short =>
            rw [if_pos short] at missing
            cases missing
            rfl
        · next longEnough =>
            rw [if_neg longEnough] at missing
            cases missing

theorem Opening.find_prepend {failure : Failure} (front : Text)
    (missing : find dialect text offset = .error failure) :
    find dialect (front ++ text) (offset + front.length : Nat) =
      .error (failure.move front.length) := by
  rw [find_natCast] at missing ⊢
  rw [Text.drop_prepend, Int.natCast_add]
  exact measure_add missing front.length

theorem MarkerAt.prepend {quote : Char} {length : Nat} {rest : Text}
    (marker : MarkerAt dialect text offset quote length rest) (front : Text) :
    MarkerAt dialect (front ++ text) (offset + front.length) quote length rest where
  isQuote := marker.isQuote
  longEnough := marker.longEnough
  shape := (Text.drop_prepend front text offset).trans marker.shape
  boundary := marker.boundary

theorem StrayAt.prepend {position : Int} (stray : StrayAt dialect text offset position)
    (front : Text) :
    StrayAt dialect (front ++ text) (offset + front.length) (position + front.length) := by
  obtain ⟨quote, length, rest, index, marker, first, rfl⟩ := stray
  exact ⟨quote, length, rest, index, marker.prepend front, first, by omega⟩

theorem UnclosedAt.prepend (unclosed : UnclosedAt dialect text offset) (front : Text) :
    UnclosedAt dialect (front ++ text) (offset + front.length) := by
  obtain ⟨quote, length, rest, opening, later, marker, onward⟩ := unclosed
  exact ⟨quote, length, rest, opening, later, marker.prepend front, onward⟩

theorem ClosesAt.prepend {finish : Int} (closes : ClosesAt dialect text offset finish)
    (front : Text) :
    ClosesAt dialect (front ++ text) (offset + front.length) (finish + front.length) := by
  obtain ⟨quote, length, rest, opening, line, indentation, before, after, marker, lines,
    stays, closing, rfl⟩ := closes
  exact ⟨quote, length, rest, opening, line, indentation, before, after,
    marker.prepend front, lines, stays, closing, by omega⟩

theorem StaysOpenAt.prepend (stays : StaysOpenAt dialect text offset) (front : Text) :
    StaysOpenAt dialect (front ++ text) (offset + front.length) := by
  obtain ⟨quote, length, rest, opening, later, marker, onward⟩ := stays
  exact ⟨quote, length, rest, opening, later, marker.prepend front, onward⟩

/-- A scan behind another text answers the same, moved. -/
theorem scan_prepend (dialect : Dialect) (front text : Text) (offset : Nat) :
    scan dialect (front ++ text) (offset + front.length : Nat) =
      ((scan dialect text offset).map (Block.move front.length)).mapError
        (Failure.move front.length) := by
  rcases scan_verdicts dialect text offset with
    ⟨lacks, _⟩ | ⟨position, stray, scanned⟩ | ⟨unclosed, scanned⟩ | standing
  · obtain ⟨failure, missing⟩ : ∃ failure, Opening.find dialect text offset = .error failure := by
      rcases find_of_lacksMarker lacks with missing | ⟨found, short⟩
      · exact ⟨_, missing⟩
      · exact ⟨_, short⟩
    rw [scan_eq_error_of_find_eq_error missing,
      scan_eq_error_of_find_eq_error (Opening.find_prepend front missing)]
    rfl
  · rw [scanned, scan_eq_stray_iff.mpr (stray.prepend front)]
    rfl
  · have whole : (((front ++ text).length : Nat) : Int) = text.length + front.length := by
      rw [List.length_append, Nat.add_comm, Int.natCast_add]
    rw [scanned, scan_eq_unterminated_iff.mpr
      ⟨unclosed.prepend front, Int.natCast_add offset front.length, whole.symm⟩]
    rfl
  · obtain ⟨layout, following, shape, boundary, scanned⟩ := standing
    rw [scanned, layout.scan_eq_ok ((Text.drop_prepend front text offset).trans shape) boundary,
      Int.natCast_add, layout.block_add]
    rfl

/-- Skipping behind another text answers the same, moved. -/
theorem skip_prepend_of_ok {finish : Int} (skipped : skip dialect text offset = .ok finish)
    (front : Text) :
    skip dialect (front ++ text) (offset + front.length : Nat) =
      .ok (finish + front.length) :=
  ((skip_eq_ok_iff.mp skipped).prepend front).skip_eq_ok

theorem skip_prepend_of_unterminated
    (skipped : skip dialect text offset =
      .error (.malformed (.unterminated offset text.length)))
    (front : Text) :
    skip dialect (front ++ text) (offset + front.length : Nat) =
      .error (.malformed (.unterminated (offset + front.length : Nat)
        (front ++ text).length)) :=
  ((skip_eq_unterminated_iff.mp skipped).1.prepend front).skip_eq_unterminated

/-- A region of a text behind another one is the same, moved. -/
theorem Region.Explained.prepend {region : Region} (explained : region.Explained dialect text)
    (front : Text) : (region.move front.length).Explained dialect (front ++ text) := by
  have whole : (((front ++ text).length : Nat) : Int) = text.length + front.length := by
    rw [List.length_append, Nat.add_comm, Int.natCast_add]
  cases explained with
  | literal scanned valued finished =>
      simp only [move, Option.map_some, Event.move, Literal.move]
      apply Explained.literal
      · rw [scan_prepend, scanned]
        rfl
      · rw [Block.value_move, valued]
        rfl
      · simp only [Block.move, finished, Int.natCast_add]
  | misindented scanned rejected finished =>
      simp only [move, Option.map_some, Event.move, Malformation.move]
      apply Explained.misindented
      · rw [scan_prepend, scanned]
        rfl
      · rw [Block.value_move, rejected]
        rfl
      · simp only [Block.move, finished, Int.natCast_add]
  | badOpening scanned skipped =>
      simp only [move, Option.map_some, Event.move, Malformation.move]
      apply Explained.badOpening
      · rw [scan_prepend, scanned]
        rfl
      · exact skip_prepend_of_ok skipped front
  | badOpeningUnclosed scanned skipped =>
      simp only [move, Option.map_none, Event.move, Malformation.move]
      apply Explained.badOpeningUnclosed
      · rw [scan_prepend, scanned]
        rfl
      · exact skip_prepend_of_unterminated skipped front
  | unterminated scanned =>
      simp only [move, Option.map_none, Event.move, Malformation.move, ← whole,
        ← Int.natCast_add]
      apply Explained.unterminated
      rw [scan_prepend, scanned, whole, Int.natCast_add]
      rfl

end Scanning

section Markers

variable {quotes front text : Text}

theorem tripleAt_prepend_iff {position : Nat} :
    TripleAt quotes (front ++ text) (position + front.length) ↔ TripleAt quotes text position := by
  rw [Nat.add_comm, ← tripleAt_drop_iff, List.drop_left]

theorem FreeOfMarkers.prepend {start stop : Nat} (free : FreeOfMarkers quotes text start stop)
    (front : Text) :
    FreeOfMarkers quotes (front ++ text) (start + front.length) (stop + front.length) := by
  intro position behind before triple
  obtain ⟨index, rfl⟩ : ∃ index, position = index + front.length :=
    ⟨position - front.length, by omega⟩
  exact free index (by omega) (by omega) (tripleAt_prepend_iff.mp triple)

theorem RunAt.prepend {start length : Nat} {char : Char} (run : RunAt text start char length)
    (front : Text) : RunAt (front ++ text) (start + front.length) char length := by
  rw [runAt_iff_leadingRun_eq] at run ⊢
  rwa [Text.drop_prepend]

/-- No marker behind whole lines is the rest of a longer run. -/
theorem WholeMarkerAt.prepend {start : Nat} (marker : WholeMarkerAt quotes text start)
    (whole : front.WholeLines) (noLineFeed : '\n' ∉ quotes) :
    WholeMarkerAt quotes (front ++ text) (start + front.length) := by
  obtain ⟨quote, isQuote, length, longEnough, run, apart⟩ := marker
  refine ⟨quote, isQuote, length, longEnough, run.prepend front, ?_⟩
  intro before place
  cases start with
  | zero =>
      -- The character before the marker is the last one in front, a line feed.
      rcases whole with rfl | ends
      · simp at place
      · have last : (front ++ text)[before]? = some '\n' := by
          obtain rfl : before = front.length - 1 := by omega
          rw [List.getElem?_append_left (by omega), ← List.getLast?_eq_getElem?]
          exact ends
        rw [last]
        intro same
        cases same
        exact noLineFeed isQuote
  | succ start =>
      obtain rfl : before = start + front.length := by omega
      rw [List.getElem?_append_right (Nat.le_add_left _ _), Nat.add_sub_cancel]
      exact apart start rfl

end Markers

section Regions

variable {dialect : Dialect} {text : Text} {offset : Nat} {region : Region}

theorem Region.Explained.regionEnd {stop : Nat} (explained : region.Explained dialect text)
    (closed : region.stop? = some stop) : RegionEnd text region.start stop := by
  cases explained with
  | literal scanned _ finished =>
      cases closed
      obtain ⟨other, same, reached⟩ := exists_regionEnd_of_scan_eq_ok scanned
      obtain rfl : other = stop := by omega
      exact reached
  | misindented scanned _ finished =>
      cases closed
      obtain ⟨other, same, reached⟩ := exists_regionEnd_of_scan_eq_ok scanned
      obtain rfl : other = stop := by omega
      exact reached
  | badOpening scanned skipped =>
      cases closed
      obtain ⟨quote, length, rest, index, marker, _⟩ := scan_eq_stray_iff.mp scanned
      rcases marker.skip_cases with unclosed | ⟨other, same, reached⟩
      · rw [skipped] at unclosed
        cases unclosed
      · rw [skipped] at same
        have finish := Except.ok.inj same
        obtain rfl : other = stop := by omega
        exact reached
  | badOpeningUnclosed => cases closed
  | unterminated => cases closed

theorem Region.Next.prepend {front : Text} (next : region.Next dialect text offset)
    (whole : front.WholeLines) (noLineFeed : '\n' ∉ dialect.quotes) :
    (region.move front.length).Next dialect (front ++ text) (offset + front.length) where
  explained := next.explained.prepend front
  whole := next.whole.prepend whole noLineFeed
  ahead := Nat.add_le_add_right next.ahead front.length
  free := next.free.prepend front

namespace Partition

/-- A partition begins with the next region, and goes on behind it unless nothing
can follow. -/
theorem uncons {later : List Region}
    (partition : Partition dialect text offset (region :: later)) :
    region.Next dialect text offset ∧
      (region.stop? = none ∧ later = [] ∨
        ∃ stop, region.stop? = some stop ∧ Partition dialect text stop later) := by
  obtain ⟨ahead, free⟩ := partition.first region rfl
  refine ⟨⟨partition.explained region List.mem_cons_self,
    partition.whole region List.mem_cons_self, ahead, free⟩, ?_⟩
  cases closed : region.stop? with
  | some stop => exact .inr ⟨stop, rfl, partition.tail closed⟩
  | none =>
      cases later with
      | nil => exact .inl ⟨rfl, rfl⟩
      | cons next others =>
          obtain ⟨stop, some, _⟩ := partition.between 0 region next rfl rfl
          rw [closed] at some
          cases some

/-- The regions of a text behind whole lines are the same, moved. -/
theorem prepend {front : Text} {regions : List Region}
    (partition : Partition dialect text offset regions) (whole : front.WholeLines)
    (noLineFeed : '\n' ∉ dialect.quotes) :
    Partition dialect (front ++ text) (offset + front.length)
      (regions.map (Region.move front.length)) := by
  induction regions generalizing offset with
  | nil =>
      apply Partition.nil
      have free := (partition.empty rfl).prepend front
      rwa [Nat.add_comm text.length, ← List.length_append] at free
  | cons region later induction =>
      obtain ⟨next, endless | ⟨stop, closed, onward⟩⟩ := partition.uncons
      · obtain ⟨endless, rfl⟩ := endless
        apply Partition.unclosed (next.prepend whole noLineFeed)
        simp [Region.move, endless]
      · have moved := next.prepend whole noLineFeed
        have stops : (region.move front.length).stop? = some (stop + front.length) := by
          simp [Region.move, closed]
        exact Partition.cons moved stops (moved.explained.regionEnd stops) (induction onward)

end Partition

end Regions

end Verbatim
