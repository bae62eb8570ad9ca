import Verbatim.FormerReading
import Verbatim.Proofs.Extraction

/-!
# Reading one literal and reading them all

Reading at an offset scans a block and finds its value.  The first half of this
module says what comes of it: the failure of the scan, the value, or a misindented
line, and with observers that do not fail a reader answers the same.

The second half compares this with an extraction.  `extract_agrees_with_read` says
that whatever an extraction reports is what reading answers at the marker that was
attempted, and that an extraction comes to its end on every text.
-/

namespace Verbatim

section Single

variable {dialect : Dialect} {text : Text}

theorem readLiteral_eq_ok {offset : Int} {block : Block} {value : Text}
    (scanned : scan dialect text offset = .ok block) (valued : block.value = .ok value) :
    readLiteral dialect text offset = .ok ⟨value, block⟩ := by
  unfold readLiteral
  rw [scanned]
  simp only [bind, Except.bind, valued]

theorem readLiteral_eq_error_of_value {offset : Int} {block : Block} {failure : Failure}
    (scanned : scan dialect text offset = .ok block) (rejected : block.value = .error failure) :
    readLiteral dialect text offset = .error failure := by
  unfold readLiteral
  rw [scanned]
  simp only [bind, Except.bind, rejected]

theorem readLiteral_eq_error_of_scan {offset : Int} {failure : Failure}
    (failed : scan dialect text offset = .error failure) :
    readLiteral dialect text offset = .error failure := by
  unfold readLiteral
  rw [failed]
  rfl

/-- Reading fails as the scan does, or it depends on the indentation alone. -/
theorem readLiteral_cases (dialect : Dialect) (text : Text) (offset : Nat) :
    (∃ failure, scan dialect text offset = .error failure ∧
      readLiteral dialect text offset = .error failure) ∨
    ∃ block, scan dialect text offset = .ok block ∧
      ((∃ value, block.value = .ok value ∧
          readLiteral dialect text offset = .ok ⟨value, block⟩) ∨
        ∃ line position, block.value = .error (.malformed (.misindented line position)) ∧
          readLiteral dialect text offset =
            .error (.malformed (.misindented line position))) := by
  cases scanned : scan dialect text offset with
  | error failure =>
      left
      exact ⟨failure, rfl, readLiteral_eq_error_of_scan scanned⟩
  | ok block =>
      right
      refine ⟨block, rfl, ?_⟩
      rcases value_of_scan_eq_ok scanned with ⟨value, valued⟩ | ⟨line, position, rejected⟩
      · left
        exact ⟨value, valued, readLiteral_eq_ok scanned valued⟩
      · right
        exact ⟨line, position, rejected, readLiteral_eq_error_of_value scanned rejected⟩

variable {offset : Nat}

theorem readLiteral_eq_ok_iff {literal : Literal} :
    readLiteral dialect text offset = .ok literal ↔
      scan dialect text offset = .ok literal.block ∧
        literal.block.value = .ok literal.value := by
  constructor
  · intro found
    rcases readLiteral_cases dialect text offset with
      ⟨failure, _, failed⟩ | ⟨block, scanned, ⟨value, valued, same⟩ | ⟨_, _, _, rejected⟩⟩
    · simp [failed] at found
    · rw [same] at found
      cases found
      exact ⟨scanned, valued⟩
    · simp [rejected] at found
  · rintro ⟨scanned, valued⟩
    exact readLiteral_eq_ok scanned valued

theorem readLiteral_eq_misindented_iff {line : Nat} {position : Int} :
    readLiteral dialect text offset = .error (.malformed (.misindented line position)) ↔
      ∃ block, scan dialect text offset = .ok block ∧
        block.value = .error (.malformed (.misindented line position)) := by
  constructor
  · intro rejected
    rcases readLiteral_cases dialect text offset with
      ⟨failure, failed, same⟩ | ⟨block, scanned, ⟨_, _, found⟩ | ⟨_, _, valued, same⟩⟩
    · rw [same] at rejected
      cases rejected
      exact absurd failed (scan_ne_misindented line position)
    · simp [found] at rejected
    · rw [same] at rejected
      cases rejected
      exact ⟨block, scanned, valued⟩
  · rintro ⟨block, scanned, valued⟩
    exact readLiteral_eq_error_of_value scanned valued

/-- Any other failure of reading is one of the scan. -/
theorem scan_eq_error_of_readLiteral {failure : Failure}
    (failed : readLiteral dialect text offset = .error failure)
    (aligned : ∀ line position, failure ≠ .malformed (.misindented line position)) :
    scan dialect text offset = .error failure := by
  rcases readLiteral_cases dialect text offset with
    ⟨other, scanned, same⟩ | ⟨_, _, ⟨_, _, found⟩ | ⟨line, position, _, rejected⟩⟩
  · rw [same] at failed
    cases failed
    exact scanned
  · simp [found] at failed
  · rw [rejected] at failed
    cases failed
    exact absurd rfl (aligned line position)

end Single

namespace Reader

variable {reader : Reader} {text : Text}

theorem read_eq_ok {offset : Int} {literal : Literal}
    (found : readLiteral reader.dialect text offset = .ok literal)
    (quiet : (reader.observe literal.block).failure? = none) :
    (reader.read text offset).2 = .ok literal := by
  unfold read
  rw [found]
  simp only [quiet]

theorem read_eq_error {offset : Int} {failure : Failure}
    (failed : readLiteral reader.dialect text offset = .error failure) :
    reader.read text offset = ([], .error failure) := by
  unfold read
  rw [failed]

/-- Observers that do not fail have no say in what is read. -/
theorem read_eq_readLiteral (accepts : reader.listener.AcceptsIssues)
    (quiet : ∀ observer ∈ reader.observers, observer.ReturnsNormally) (offset : Int) :
    (reader.read text offset).2 = readLiteral reader.dialect text offset := by
  cases found : readLiteral reader.dialect text offset with
  | error failure => rw [read_eq_error found]
  | ok literal =>
      apply read_eq_ok found
      exact congrArg Response.failure? (accepts.hearObservers_eq quiet literal.block)

/-- The observers look at a literal once it is read. -/
theorem events_read_eq_observe {offset : Int} {literal : Literal}
    (found : readLiteral reader.dialect text offset = .ok literal) :
    (reader.read text offset).1 = (reader.observe literal.block).events := by
  unfold read
  rw [found]
  simp only
  split <;> rfl

/-- What an extraction reports, it reports of a region of the text. -/
theorem exists_region_of_mem_events
    (calm : reader.listener.ReturnsNormally)
    (quiet : ∀ observer ∈ reader.observers, observer.ReturnsNormally)
    {event : Event} (member : event ∈ (reader.extract text none).events)
    (outcome : event.isOutcome = true) :
    ∃ region : Region, region.event = event ∧ region.Explained reader.dialect text ∧
      WholeMarkerAt reader.dialect.quotes text region.start := by
  obtain ⟨regions, partition, reported⟩ := exists_partition_attempts reader.dialect text
  have outcomes := (pursue_none_of_reports calm quiet reported).2
  have among : event ∈ (regions.map Region.event).filter reader.listener.enters := by
    rw [← outcomes]
    exact List.mem_filter.mpr ⟨member, outcome⟩
  obtain ⟨region, inside, same⟩ := List.mem_map.mp (List.mem_filter.mp among).1
  exact ⟨region, same, partition.explained region inside, partition.whole region inside⟩

theorem ending_extract
    (calm : reader.listener.ReturnsNormally)
    (quiet : ∀ observer ∈ reader.observers, observer.ReturnsNormally) :
    (reader.extract text none).ending = .exhausted := by
  obtain ⟨regions, _, reported⟩ := exists_partition_attempts reader.dialect text
  exact (pursue_none_of_reports calm quiet reported).1

end Reader

theorem start_of_scan_eq_ok {dialect : Dialect} {text : Text} {start : Nat} {block : Block}
    (scanned : scan dialect text start = .ok block) : block.start = start :=
  (scan_lossless scanned).start_eq

/-- Every event of an extraction is what reading answers at the marker it is about,
and nothing but the end of the text ends the extraction. -/
theorem extract_agrees_with_read {reader : Reader} (text : Text)
    (calm : reader.listener.ReturnsNormally)
    (quiet : ∀ observer ∈ reader.observers, observer.ReturnsNormally) :
    (∀ literal, .literal literal ∈ (reader.extract text none).events →
      (reader.read text literal.block.start).2 = .ok literal) ∧
    (∀ malformation block,
      .misindented malformation block ∈ (reader.extract text none).events →
      scan reader.dialect text block.start = .ok block ∧
        (reader.read text block.start).2 = .error (.malformed malformation)) ∧
    (∀ malformation, .badOpening malformation ∈ (reader.extract text none).events →
      ∃ start, WholeMarkerAt reader.dialect.quotes text start ∧
        StrayAt reader.dialect text start malformation.position ∧
        (reader.read text start).2 = .error (.malformed malformation)) ∧
    (∀ malformation, .unterminated malformation ∈ (reader.extract text none).events →
      (reader.read text malformation.position).2 = .error (.malformed malformation)) ∧
    (reader.extract text none).ending = .exhausted := by
  refine ⟨?_, ?_, ?_, ?_, Reader.ending_extract calm quiet⟩
  · intro literal member
    obtain ⟨region, same, explained, _⟩ :=
      Reader.exists_region_of_mem_events calm quiet member rfl
    cases explained with
    | literal scanned valued finished =>
        cases same
        rw [start_of_scan_eq_ok scanned, Reader.read_eq_readLiteral calm.issues quiet]
        exact readLiteral_eq_ok scanned valued
    | _ => cases same
  · intro malformation block member
    obtain ⟨region, same, explained, _⟩ :=
      Reader.exists_region_of_mem_events calm quiet member rfl
    cases explained with
    | misindented scanned rejected finished =>
        cases same
        rw [start_of_scan_eq_ok scanned, Reader.read_eq_readLiteral calm.issues quiet]
        exact ⟨scanned, readLiteral_eq_error_of_value scanned rejected⟩
    | _ => cases same
  · intro malformation member
    obtain ⟨region, same, explained, whole⟩ :=
      Reader.exists_region_of_mem_events calm quiet member rfl
    cases explained with
    | badOpening scanned _ =>
        cases same
        refine ⟨_, whole, scan_eq_stray_iff.mp scanned, ?_⟩
        rw [Reader.read_eq_readLiteral calm.issues quiet]
        exact readLiteral_eq_error_of_scan scanned
    | badOpeningUnclosed scanned _ =>
        cases same
        refine ⟨_, whole, scan_eq_stray_iff.mp scanned, ?_⟩
        rw [Reader.read_eq_readLiteral calm.issues quiet]
        exact readLiteral_eq_error_of_scan scanned
    | _ => cases same
  · intro malformation member
    obtain ⟨region, same, explained, _⟩ :=
      Reader.exists_region_of_mem_events calm quiet member rfl
    cases explained with
    | unterminated scanned =>
        cases same
        rw [Reader.read_eq_readLiteral calm.issues quiet]
        exact readLiteral_eq_error_of_scan scanned
    | _ => cases same

/-- A malformed opening line, a misindented literal, a good one and one without a
closing marker. -/
theorem extract_agrees_with_read_four_events :
    let text := ['"', '"', '"', 'x', '\n', '"', '"', '"', '\n', '"', '"', '"', '\n', 'a', '\n',
      ' ', '"', '"', '"', '\n', '"', '"', '"', '\n', 'b', '\n', '"', '"', '"', '\n',
      '"', '"', '"']
    let reader : Reader :=
      ⟨.standard, [FormerReading.observer .unnamed FormerReading.defaultThreshold], .tolerant⟩
    let rejected : Block := ⟨3, [], [⟨['a'], .lineFeed, 13⟩], [' '], '"', 9, 19⟩
    let found : Literal := ⟨['b'], ⟨3, [], [⟨['b'], .lineFeed, 24⟩], [], '"', 20, 29⟩⟩
    reader.listener.ReturnsNormally ∧
      (∀ observer ∈ reader.observers, observer.ReturnsNormally) ∧
      (reader.extract text none).events =
        [.badOpening (.strayText 3), .misindented (.misindented 0 13) rejected,
          .literal found, .unterminated (.unterminated 30 33)] ∧
      (∃ start, StrayAt .standard text start 3 ∧
        (reader.read text start).2 = .error (.malformed (.strayText 3))) ∧
      (reader.read text 9).2 = .error (.malformed (.misindented 0 13)) ∧
      (reader.read text 20).2 = .ok found ∧
      (reader.read text 30).2 = .error (.malformed (.unterminated 30 33)) := by
  intro text reader rejected found
  have calm : reader.listener.ReturnsNormally := Listener.returnsNormally_tolerant
  have quiet : ∀ observer ∈ reader.observers, observer.ReturnsNormally := by
    intro observer member
    rw [List.mem_singleton.mp member]
    exact Observer.returnsNormally_reporting _
  have events : (reader.extract text none).events =
      [.badOpening (.strayText 3), .misindented (.misindented 0 13) rejected,
        .literal found, .unterminated (.unterminated 30 33)] := by
    decide +kernel
  obtain ⟨literals, misindented, badOpenings, unterminated, _⟩ :=
    extract_agrees_with_read text calm quiet
  rw [events] at literals misindented badOpenings unterminated
  obtain ⟨start, _, stray, failed⟩ := badOpenings (.strayText 3) (by simp)
  exact ⟨calm, quiet, events, ⟨start, stray, failed⟩,
    (misindented (.misindented 0 13) rejected (by simp)).2, literals found (by simp),
    unterminated (.unterminated 30 33) (by simp)⟩

end Verbatim
