import Verbatim.Proofs.Reading
import Verbatim.Proofs.Skipping
import Verbatim.Proofs.ValueOutcomes

/-!
# Where a malformation lies

Every malformation names a position, and the position lies in the region of the attempt
that came to it: behind the opening marker if a character is out of place, and at it if
nothing closes the literal.  Since regions come one after another, an extraction reports
malformations in the order of their positions.
-/

namespace Verbatim

/-- The malformation that an event reports. -/
def Event.malformation? : Event → Option Malformation
  | .misindented malformation _ | .badOpening malformation | .unterminated malformation =>
      some malformation
  | .literal _ | .issue _ | .warning _ => none

section Places

variable {dialect : Dialect} {text : Text} {start : Nat} {position : Int}

theorem FirstStray.lt_length {index : Nat} (first : FirstStray dialect text index) :
    index < text.length := by
  obtain ⟨⟨char, place, _⟩, _⟩ := first
  exact (List.getElem?_eq_some_iff.mp place).1

/-- Stray text begins behind the marker, and on its line. -/
theorem StrayAt.exists_place (stray : StrayAt dialect text start position) :
    ∃ place : Nat, position = place ∧ start < place ∧ place < text.length ∧
      ∀ stop : Nat, skip dialect text start = .ok stop → place < stop := by
  obtain ⟨quote, length, rest, index, marker, first, rfl⟩ := stray
  obtain ⟨opening, later, lines⟩ := Text.exists_splitOn_eq_cons rest
  rw [Text.firstLine_eq_of_splitOn_eq_cons lines] at first
  have inside := first.lt_length
  have shorter := opening.withoutFinalReturn_prefix.length_le
  have onLine : opening.length ≤ rest.length :=
    Text.length_le_of_mem_splitOn (lines ▸ List.mem_cons_self)
  have positive := marker.positive_length
  have whole := marker.length_eq
  refine ⟨start + length + index, by omega, by omega, by omega, ?_⟩
  intro stop skipped
  rcases exists_first_closing_or_stays dialect quote length later with stays | found
  · rw [marker.skip_of_stays lines stays] at skipped
    cases skipped
  · obtain ⟨before, line, after, indentation, rfl, stays, closes⟩ := found
    rw [marker.skip_of_closing lines stays closes] at skipped
    have finished := Except.ok.inj skipped
    omega

/-- A line ceases to agree with the indentation behind the opening line, and before its
own terminator ends. -/
theorem exists_place_of_misindented {block : Block} {index : Nat}
    (scanned : scan dialect text start = .ok block)
    (rejected : block.value = .error (.malformed (.misindented index position))) :
    ∃ place : Nat, position = place ∧ start < place ∧ (place : Int) < block.finish := by
  obtain ⟨layout, following, shape, boundary, rfl⟩ := scan_eq_ok_iff.mp scanned
  obtain ⟨before, line, after, common, lines, counted, _, _, longest, rfl⟩ :=
    Block.value_eq_misindented_iff.mp rejected
  have found : (layout.block start).lines[before.length]? = some line := by
    rw [lines, getElem?_length_append]
    rfl
  obtain ⟨earlier, raw, later, content, _, rfl⟩ := Line.exists_of_getElem?_placed found
  have agreed := longest.beginsLeft.length_le
  rw [Line.text_ofTerminated] at agreed
  have shorter := raw.withoutFinalReturn_prefix.length_le
  have positive := layout.positive_length
  have contentLength : (Text.terminated layout.content).length =
      (Text.terminated earlier).length + raw.length + 1 + (Text.terminated later).length := by
    rw [content]
    simp
    omega
  refine ⟨start + layout.length + layout.opening.length + 1 +
    (Text.terminated earlier).length + common.length, ?_, by omega, ?_⟩
  · rw [Line.offset_ofTerminated]
    omega
  · simp only [Layout.block, layout.length_characters, layout.length_body]
    omega

theorem UnclosedAt.offset_lt_length (unclosed : UnclosedAt dialect text start) :
    start < text.length := by
  obtain ⟨quote, length, rest, opening, later, marker, _⟩ := unclosed
  exact marker.offset_lt_length

/-- Reading comes to a literal, to a malformation inside the text, or to the lack of a
marker. -/
theorem readLiteral_verdicts (dialect : Dialect) (text : Text) (start : Nat) :
    (∃ literal, readLiteral dialect text start = .ok literal) ∨
      (∃ malformation, readLiteral dialect text start = .error (.malformed malformation) ∧
        0 ≤ malformation.position ∧ malformation.position < text.length) ∨
      readLiteral dialect text start = .error (.noMarker start) ∨
      ∃ found, readLiteral dialect text start = .error (.shortMarker found start) := by
  rcases scan_verdicts dialect text start with
    ⟨_, missing | ⟨found, short⟩⟩ | ⟨position, stray, scanned⟩ | ⟨unclosed, scanned⟩ |
      ⟨layout, following, _, _, scanned⟩
  · exact .inr (.inr (.inl (readLiteral_eq_error_of_scan missing)))
  · exact .inr (.inr (.inr ⟨found, readLiteral_eq_error_of_scan short⟩))
  · obtain ⟨place, rfl, _, inside, _⟩ := stray.exists_place
    refine .inr (.inl ⟨_, readLiteral_eq_error_of_scan scanned, ?_, ?_⟩)
    · exact Int.natCast_nonneg place
    · exact Int.ofNat_lt.mpr inside
  · have inside := unclosed.offset_lt_length
    refine .inr (.inl ⟨_, readLiteral_eq_error_of_scan scanned, ?_, ?_⟩)
    · exact Int.natCast_nonneg start
    · exact Int.ofNat_lt.mpr inside
  · rcases value_of_scan_eq_ok scanned with ⟨value, valued⟩ | ⟨index, position, rejected⟩
    · exact .inl ⟨_, readLiteral_eq_ok scanned valued⟩
    · obtain ⟨place, rfl, _, before⟩ := exists_place_of_misindented scanned rejected
      obtain ⟨stop, finished, reached⟩ := exists_regionEnd_of_scan_eq_ok scanned
      have within := reached.within
      refine .inr (.inl ⟨_, readLiteral_eq_error_of_value scanned rejected, ?_, ?_⟩)
      · exact Int.natCast_nonneg place
      · simp only [Malformation.position]
        omega

end Places

section Regions

variable {dialect : Dialect} {text : Text} {region : Region} {malformation : Malformation}

/-- A malformation lies in the region that it is reported of. -/
theorem Region.Explained.exists_place (explained : region.Explained dialect text)
    (reports : region.event.malformation? = some malformation) :
    ∃ place : Nat, malformation.position = place ∧ region.start ≤ place ∧
      place < text.length ∧ ∀ stop, region.stop? = some stop → place < stop := by
  cases explained with
  | literal scanned valued finished => cases reports
  | misindented scanned rejected finished =>
      cases reports
      obtain ⟨place, same, behind, before⟩ := exists_place_of_misindented scanned rejected
      obtain ⟨stop, ending, reached⟩ := exists_regionEnd_of_scan_eq_ok scanned
      have within := reached.within
      refine ⟨place, same, Nat.le_of_lt behind, by omega, ?_⟩
      intro other closed
      cases closed
      omega
  | badOpening scanned skipped =>
      cases reports
      obtain ⟨place, same, behind, inside, before⟩ :=
        (scan_eq_stray_iff.mp scanned).exists_place
      refine ⟨place, same, Nat.le_of_lt behind, inside, ?_⟩
      intro other closed
      cases closed
      exact before _ skipped
  | badOpeningUnclosed scanned skipped =>
      cases reports
      obtain ⟨place, same, behind, inside, _⟩ := (scan_eq_stray_iff.mp scanned).exists_place
      exact ⟨place, same, Nat.le_of_lt behind, inside, by simp⟩
  | @unterminated start scanned =>
      cases reports
      have inside := (scan_eq_unterminated_iff.mp scanned).1.offset_lt_length
      exact ⟨start, rfl, Nat.le_refl _, inside, by simp⟩

end Regions

namespace Partition

variable {dialect : Dialect} {text : Text} {offset : Nat} {regions : List Region}

/-- A region that others follow is closed. -/
theorem exists_stop_of_cons {region next : Region} {others : List Region}
    (partition : Partition dialect text offset (region :: next :: others)) :
    ∃ stop, region.stop? = some stop := by
  obtain ⟨stop, closed, _⟩ := partition.between 0 region next rfl rfl
  exact ⟨stop, closed⟩

theorem le_start (partition : Partition dialect text offset regions) :
    ∀ region ∈ regions, offset ≤ region.start := by
  induction regions generalizing offset with
  | nil => exact List.forall_mem_nil _
  | cons region later induction =>
      have ahead := (partition.first region rfl).1
      refine List.forall_mem_cons.mpr ⟨ahead, fun other member => ?_⟩
      obtain ⟨next, others, rfl⟩ := List.exists_cons_of_ne_nil (List.ne_nil_of_mem member)
      obtain ⟨stop, closed⟩ := partition.exists_stop_of_cons
      have forward := (partition.forward region List.mem_cons_self stop closed).1
      have behind := induction (partition.tail closed) other member
      omega

/-- Of two regions the first ends before the second begins. -/
theorem pairwise_apart (partition : Partition dialect text offset regions) :
    regions.Pairwise fun earlier later =>
      ∃ stop, earlier.stop? = some stop ∧ stop ≤ later.start := by
  induction regions generalizing offset with
  | nil => exact List.Pairwise.nil
  | cons region later induction =>
      cases later with
      | nil => exact List.pairwise_singleton _ _
      | cons next others =>
          obtain ⟨stop, closed⟩ := partition.exists_stop_of_cons
          have onward := partition.tail closed
          exact List.pairwise_cons.mpr
            ⟨fun other member => ⟨stop, closed, onward.le_start other member⟩, induction onward⟩

/-- Malformations are reported in the order of their positions. -/
theorem pairwise_positions (partition : Partition dialect text offset regions) :
    (((regions.map Region.event).filterMap Event.malformation?).map
      Malformation.position).Pairwise (· < ·) := by
  rw [List.pairwise_map, List.pairwise_filterMap, List.pairwise_map]
  refine List.Pairwise.imp_of_mem ?_ partition.pairwise_apart
  rintro earlier later among alsoAmong ⟨stop, closed, apart⟩ first firstReported second
    secondReported
  obtain ⟨place, same, _, _, before⟩ :=
    (partition.explained earlier among).exists_place firstReported
  obtain ⟨other, otherSame, behind, _⟩ :=
    (partition.explained later alsoAmong).exists_place secondReported
  have inside := before stop closed
  omega

end Partition

end Verbatim
