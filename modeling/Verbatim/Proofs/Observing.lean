import Verbatim.FormerReading
import Verbatim.Proofs.Extraction

/-!
# Observers only add issues

Observers that do not fail add the issues they find in a literal right before it, and
leave everything else as it is: the literals, the malformations, their order and the
end of the extraction.  This holds for every listener that accepts issues, even one that
raises malformations, and for an extraction that stops early, because it holds of every
single response.

`extract_announced` says so for the observers of former markers, each with a key and a
threshold of its own, and says the same of reading at an offset.
-/

namespace Verbatim

/-- An event, and before a literal what a listener hears of some issues in it. -/
def Listener.announce (listener : Listener) (issues : Block → List Issue) :
    Event → List Event
  | .literal found =>
      ((issues found.block).flatMap fun issue => (listener.hearIssue issue).events) ++
        [.literal found]
  | event => [event]

namespace Reader

variable {reader : Reader}

/-- The same reader, with nobody looking on. -/
def unobserved (reader : Reader) : Reader :=
  { reader with observers := [] }

/-- An event with the issues that the observers of a reader find. -/
def announce (reader : Reader) : Event → List Event :=
  reader.listener.announce (observedIssues reader.observers)

/-- What a listener does about a malformation has nothing to do with observers. -/
theorem respond_malformation {event : Event} (unannounced : reader.announce event = [event])
    (raises : Bool) (malformation : Malformation) :
    (⟨(reader.listener.hearMalformation event raises malformation).events.flatMap
        reader.announce,
      (reader.listener.hearMalformation event raises malformation).failure?⟩ : Response) =
      reader.listener.hearMalformation event raises malformation := by
  simp only [Listener.hearMalformation, Listener.record]
  split
  · simp [unannounced]
  · rfl

/-- One response with observers is the response without them, with the issues put
in. -/
theorem respond_eq_announced (accepts : reader.listener.AcceptsIssues)
    (quiet : ∀ observer ∈ reader.observers, observer.ReturnsNormally) (attempt : Attempt) :
    reader.respond attempt =
      ⟨(reader.unobserved.respond attempt).events.flatMap reader.announce,
        (reader.unobserved.respond attempt).failure?⟩ := by
  cases attempt with
  | literal found =>
      have observed : reader.observe found.block = _ :=
        accepts.hearObservers_eq quiet found.block
      have alone : reader.unobserved.respond (.literal found) = ⟨[.literal found], none⟩ := rfl
      rw [alone]
      simp [respond, observed, announce, Listener.announce]
  | misindented malformation block => exact (respond_malformation rfl _ _).symm
  | badOpening malformation => exact (respond_malformation rfl _ _).symm
  | unterminated malformation => exact (respond_malformation rfl _ _).symm
  | aborted failure => rfl

/-- A whole run with observers is the run without them, with the issues put in. -/
theorem pursue_eq_announced (accepts : reader.listener.AcceptsIssues)
    (quiet : ∀ observer ∈ reader.observers, observer.ReturnsNormally)
    (limit : Option Nat) (attempts : List Attempt) :
    reader.pursue limit attempts =
      ⟨(reader.unobserved.pursue limit attempts).events.flatMap reader.announce,
        (reader.unobserved.pursue limit attempts).ending⟩ := by
  induction attempts generalizing limit with
  | nil =>
      by_cases satisfied : limit = some 0
      · simp [pursue, satisfied]
      · simp [pursue, satisfied]
  | cons attempt later induction =>
      by_cases satisfied : limit = some 0
      · simp [pursue, satisfied]
      · have response := respond_eq_announced accepts quiet attempt
        have onward := induction (remaining limit attempt)
        simp only [pursue, if_neg satisfied, response]
        -- With and without observers the same failure is raised, or none is.
        cases (reader.unobserved.respond attempt).failure? with
        | some failure => rfl
        | none =>
            simp only [onward, Extraction.after, List.flatMap_append]

/-- Nobody looking on, every event reports what became of an attempt. -/
theorem isOutcome_of_mem_unobserved {limit : Option Nat} {attempts : List Attempt}
    {event : Event} (member : event ∈ (reader.unobserved.pursue limit attempts).events) :
    event.isOutcome = true := by
  induction attempts generalizing limit with
  | nil =>
      simp only [pursue] at member
      split at member <;> cases member
  | cons attempt later induction =>
      have responded : ∀ other ∈ (reader.unobserved.respond attempt).events,
          other.isOutcome = true := by
        intro other among
        cases attempt with
        | literal found =>
            have alone : reader.unobserved.respond (.literal found) =
                ⟨[.literal found], none⟩ := rfl
            rw [alone] at among
            rw [List.mem_singleton.mp among]
            rfl
        | aborted failure => cases among
        | _ =>
            simp only [respond, Listener.hearMalformation, Listener.record] at among
            split at among
            · rw [List.mem_singleton.mp among]
              rfl
            · cases among
      simp only [pursue] at member
      split at member
      · cases member
      · split at member
        · exact responded event member
        · rcases List.mem_append.mp member with now | onward
          · exact responded event now
          · exact induction onward

/-- What a listener hears of issues is no outcome, so the outcomes stay. -/
theorem filter_isOutcome_announce {event : Event} (outcome : event.isOutcome = true) :
    (reader.announce event).filter Event.isOutcome = [event] := by
  cases event with
  | literal found =>
      have issues : ∀ other ∈
          (observedIssues reader.observers found.block).flatMap
            (fun issue => (reader.listener.hearIssue issue).events),
          ¬ other.isOutcome = true := by
        intro other member
        obtain ⟨issue, _, heard⟩ := List.mem_flatMap.mp member
        simp [isOutcome_of_mem_hearIssue heard]
      simp only [announce, Listener.announce, List.filter_append,
        List.filter_eq_nil_iff.mpr issues]
      rfl
  | issue reported => cases outcome
  | warning reported => cases outcome
  | _ => rfl

theorem filter_isOutcome_flatMap_announce {events : List Event}
    (outcomes : ∀ event ∈ events, event.isOutcome = true) :
    (events.flatMap reader.announce).filter Event.isOutcome = events := by
  induction events with
  | nil => rfl
  | cons event later induction =>
      obtain ⟨outcome, others⟩ := List.forall_mem_cons.mp outcomes
      rw [List.flatMap_cons, List.filter_append, filter_isOutcome_announce outcome,
        induction others]
      rfl

/-- Reading with observers answers the same, and speaks of issues only when it
succeeds. -/
theorem read_eq_announced (accepts : reader.listener.AcceptsIssues)
    (quiet : ∀ observer ∈ reader.observers, observer.ReturnsNormally)
    (text : Text) (offset : Int) :
    (reader.read text offset).2 = (reader.unobserved.read text offset).2 ∧
      (reader.read text offset).1 =
        match (reader.unobserved.read text offset).2 with
        | .ok found =>
            (observedIssues reader.observers found.block).flatMap fun issue =>
              (reader.listener.hearIssue issue).events
        | .error _ => [] := by
  have sameDialect : reader.unobserved.dialect = reader.dialect := rfl
  have alone : ∀ block, reader.unobserved.observe block = ⟨[], none⟩ := fun _ => rfl
  cases read : readLiteral reader.dialect text offset with
  | error failure => simp [Reader.read, read, sameDialect]
  | ok found =>
      have observed : reader.observe found.block = _ :=
        accepts.hearObservers_eq quiet found.block
      simp [Reader.read, read, sameDialect, observed, alone]

end Reader

namespace FormerReading

/-- The observers of former markers, one for each key and threshold. -/
def observers (entries : List (SourceKey × Int)) : List Observer :=
  entries.map fun (key, threshold) => observer key threshold

/-- One warning about a block for each entry whose threshold its markers reach, in
the order of the entries. -/
def warnings (entries : List (SourceKey × Int)) (block : Block) : List Issue :=
  (entries.filter fun (_, threshold) => threshold ≤ block.markerLength).map
    fun (key, _) => warning key block

theorem returnsNormally_of_mem_observers (entries : List (SourceKey × Int)) :
    ∀ observer ∈ observers entries, observer.ReturnsNormally := by
  intro observer member
  obtain ⟨entry, _, rfl⟩ := List.mem_map.mp member
  exact Observer.returnsNormally_reporting _

theorem observedIssues_observers (entries : List (SourceKey × Int)) (block : Block) :
    observedIssues (observers entries) block = warnings entries block := by
  induction entries with
  | nil => rfl
  | cons entry later induction =>
      obtain ⟨key, threshold⟩ := entry
      have onward : observedIssues (observers ((key, threshold) :: later)) block =
          ((observer key threshold).observe block).issues ++ warnings later block := by
        rw [← induction]
        rfl
      rw [onward]
      by_cases reached : threshold ≤ block.markerLength
      · have long : ¬ block.markerLength < threshold := Int.not_lt.mpr reached
        simp [observer, Observer.reporting, warnings, reached, long]
      · have short : block.markerLength < threshold := Int.not_le.mp reached
        simp [observer, Observer.reporting, warnings, reached, short]

end FormerReading

/-- Observers of former markers add a warning right before each literal whose markers
reach their threshold, and change nothing else of an extraction or of a reading, as long
as the listener raises nothing at the warning.  A listener that only keeps a record hears
each warning once. -/
theorem extract_announced (dialect : Dialect) {listener : Listener}
    (accepts : listener.AcceptsIssues) (entries : List (SourceKey × Int)) (text : Text)
    (limit : Option Nat) :
    let observed : Reader := ⟨dialect, FormerReading.observers entries, listener⟩
    let plain : Reader := ⟨dialect, [], listener⟩
    let extraction := observed.extract text limit
    extraction.events =
        (plain.extract text limit).events.flatMap
          (listener.announce (FormerReading.warnings entries)) ∧
      extraction.events.filter Event.isOutcome = (plain.extract text limit).events ∧
      extraction.ending = (plain.extract text limit).ending ∧
      (∀ offset : Int,
        (observed.read text offset).2 = (plain.read text offset).2 ∧
          (observed.read text offset).1 =
            match (plain.read text offset).2 with
            | .ok found =>
                (FormerReading.warnings entries found.block).flatMap fun issue =>
                  (listener.hearIssue issue).events
            | .error _ => []) ∧
      (listener.records = true → listener.warns = false →
        ∀ issue, listener.hearIssue issue = ⟨[.issue issue], none⟩) := by
  intro observed plain extraction
  have quiet := FormerReading.returnsNormally_of_mem_observers entries
  have issues : observedIssues (FormerReading.observers entries) =
      FormerReading.warnings entries :=
    funext (FormerReading.observedIssues_observers entries)
  have run : extraction = ⟨(plain.extract text limit).events.flatMap observed.announce,
      (plain.extract text limit).ending⟩ :=
    Reader.pursue_eq_announced accepts quiet limit (attempts dialect text)
  have spoken : observed.announce = listener.announce (FormerReading.warnings entries) := by
    simp only [Reader.announce, observed, issues]
  refine ⟨?_, ?_, ?_, ?_, ?_⟩
  · rw [run, spoken]
  · rw [run]
    apply Reader.filter_isOutcome_flatMap_announce
    intro event member
    exact @Reader.isOutcome_of_mem_unobserved observed _ _ _ member
  · rw [run]
  · intro offset
    have reading := @Reader.read_eq_announced observed accepts quiet text offset
    simp only [observed, issues] at reading
    exact reading
  · intro records silent issue
    simp [Listener.hearIssue, accepts issue, Listener.record, records, silent]

/-- Two of three observers warn about a literal with markers of four, and none about a
misindented one with markers of five or about what is malformed behind it. -/
theorem extract_announced_two_of_three :
    let text := ['"', '"', '"', '"', '\n', 'a', '\n', '"', '"', '"', '"', '\n',
      '"', '"', '"', '"', '"', '\n', 'b', '\n', ' ', '"', '"', '"', '"', '"', '\n',
      '"', '"', '"', '"', 'x', '\n', '"', '"', '"', '"', '\n', '"', '"', '"', '"']
    let entries : List (SourceKey × Int) := [(.numbered 7, 3), (.unnamed, 5), (.unnamed, 4)]
    let observed : Reader := ⟨.standard, FormerReading.observers entries, .tolerant⟩
    let block : Block := ⟨4, [], [⟨['a'], .lineFeed, 5⟩], [], '"', 0, 11⟩
    let rejected : Block := ⟨5, [], [⟨['b'], .lineFeed, 18⟩], [' '], '"', 12, 26⟩
    observed.listener.AcceptsIssues ∧
      (observed.extract text none).events =
        [.issue (FormerReading.warning (.numbered 7) block),
          .issue (FormerReading.warning .unnamed block), .literal ⟨['a'], block⟩,
          .misindented (.misindented 0 18) rejected, .badOpening (.strayText 31),
          .unterminated (.unterminated 38 42)] ∧
      observed.read text 12 = ([], .error (.malformed (.misindented 0 18))) := by
  intro text entries observed block rejected
  have accepts : observed.listener.AcceptsIssues := Listener.acceptsIssues_tolerant
  obtain ⟨events, _, _, reading, _⟩ := extract_announced .standard accepts entries text none
  obtain ⟨answer, spoken⟩ := reading 12
  have plainEvents : ((⟨.standard, [], .tolerant⟩ : Reader).extract text none).events =
      [.literal ⟨['a'], block⟩, .misindented (.misindented 0 18) rejected,
        .badOpening (.strayText 31), .unterminated (.unterminated 38 42)] := by
    decide +kernel
  have plainAnswer : ((⟨.standard, [], .tolerant⟩ : Reader).read text 12).2 =
      .error (.malformed (.misindented 0 18)) := by
    decide +kernel
  rw [plainAnswer] at answer spoken
  refine ⟨accepts, ?_, Prod.ext spoken answer⟩
  rw [events, plainEvents]
  rfl

end Verbatim
