import Verbatim.Proofs.Partition
import Verbatim.Reader

/-!
# Extraction reports every region

When neither the listener nor any observer fails, an extraction makes every
attempt at a literal, and each attempt is reported by one event, between whatever
issues the observers find.  With `exists_partition`, the literals and malformations
of a text are reported region by region.

A listener that keeps no record leaves all events out but the literals.
-/

namespace Verbatim

/-- A listener that raises nothing at an issue. -/
def Listener.AcceptsIssues (listener : Listener) : Prop :=
  ∀ issue, listener.raisedAt? issue = none

structure Listener.ReturnsNormally (listener : Listener) : Prop where
  badOpening : listener.raisesBadOpening = false
  unterminated : listener.raisesUnterminated = false
  misindented : listener.raisesMisindented = false
  issues : listener.AcceptsIssues

def Observer.ReturnsNormally (observer : Observer) : Prop :=
  ∀ block, (observer.observe block).failure? = none

theorem Listener.acceptsIssues_tolerant : Listener.tolerant.AcceptsIssues :=
  fun _ => rfl

theorem Listener.acceptsIssues_strict : Listener.strict.AcceptsIssues :=
  fun _ => rfl

theorem Listener.returnsNormally_tolerant : Listener.tolerant.ReturnsNormally :=
  ⟨rfl, rfl, rfl, acceptsIssues_tolerant⟩

theorem Observer.returnsNormally_reporting (issues : Block → List Issue) :
    (Observer.reporting issues).ReturnsNormally :=
  fun _ => rfl

/-- The issues that observers find in a block, one observer after another. -/
def observedIssues (observers : List Observer) (block : Block) : List Issue :=
  observers.flatMap fun observer => (observer.observe block).issues

/-- Whether an event reports what became of an attempt. -/
def Event.isOutcome : Event → Bool
  | .issue _ | .warning _ => false
  | _ => true

/-- Whether an event that reports on an attempt comes up. -/
def Listener.enters (listener : Listener) : Event → Bool
  | .literal _ => true
  | _ => listener.records

/-- The failure that a listener raises when it hears of an event. -/
def Listener.raised? (listener : Listener) : Event → Option Failure
  | .misindented malformation _ =>
      if listener.raisesMisindented then some (.malformed malformation) else none
  | .badOpening malformation =>
      if listener.raisesBadOpening then some (.malformed malformation) else none
  | .unterminated malformation =>
      if listener.raisesUnterminated then some (.malformed malformation) else none
  | .issue issue => listener.raisedAt? issue
  | .literal _ | .warning _ => none

/-- What comes of a report on an attempt.  The issues that observers find in a literal
come before it. -/
def Reader.account (reader : Reader) : Event → List Event
  | .literal found => (reader.observe found.block).events ++ [.literal found]
  | event => reader.listener.record event

section Events

variable {listener : Listener}

theorem Response.mem_andThen {first second : Response} {event : Event}
    (member : event ∈ (first.andThen second).events) :
    event ∈ first.events ∨ event ∈ second.events := by
  obtain ⟨events, _ | failure⟩ := first
  · exact List.mem_append.mp member
  · exact .inl member

theorem Response.failure?_andThen {first second : Response} {failure : Failure}
    (failed : (first.andThen second).failure? = some failure) :
    first.failure? = some failure ∨ second.failure? = some failure := by
  obtain ⟨events, _ | other⟩ := first
  · exact .inr failed
  · exact .inl failed

theorem isOutcome_of_mem_hearIssue {issue : Issue} {event : Event}
    (member : event ∈ (listener.hearIssue issue).events) : event.isOutcome = false := by
  have recorded : ∀ other ∈ listener.record (.issue issue), other.isOutcome = false := by
    intro other among
    unfold Listener.record at among
    split at among
    · rw [List.mem_singleton.mp among]
      rfl
    · cases among
  unfold Listener.hearIssue at member
  split at member
  · exact recorded event member
  · rcases List.mem_append.mp member with first | warned
    · exact recorded event first
    · split at warned
      · rw [List.mem_singleton.mp warned]
        rfl
      · cases warned

/-- What is heard of issues tells of no attempt. -/
theorem isOutcome_of_mem_hearIssues {issues : List Issue} {event : Event}
    (member : event ∈ (listener.hearIssues issues).events) : event.isOutcome = false := by
  induction issues with
  | nil => cases member
  | cons issue later induction =>
      rcases Response.mem_andThen member with first | others
      · exact isOutcome_of_mem_hearIssue first
      · exact induction others

theorem isOutcome_of_mem_hearObservers {block : Block} {observers : List Observer}
    {event : Event} (member : event ∈ (listener.hearObservers block observers).events) :
    event.isOutcome = false := by
  induction observers with
  | nil => cases member
  | cons observer later induction =>
      rcases Response.mem_andThen member with first | others
      · rcases Response.mem_andThen first with reported | nothing
        · exact isOutcome_of_mem_hearIssues reported
        · cases nothing
      · exact induction others

theorem Listener.hearIssues_append (before later : List Issue) :
    listener.hearIssues (before ++ later) =
      (listener.hearIssues before).andThen (listener.hearIssues later) := by
  induction before with
  | nil => rfl
  | cons issue before induction =>
      rw [List.cons_append, hearIssues, induction, ← Response.andThen_assoc]
      rfl

/-- Of observers that do not fail a listener hears the issues that they find. -/
theorem Listener.hearObservers_eq_hearIssues {observers : List Observer}
    (quiet : ∀ observer ∈ observers, observer.ReturnsNormally) (block : Block) :
    listener.hearObservers block observers =
      listener.hearIssues (observedIssues observers block) := by
  induction observers with
  | nil => rfl
  | cons observer later induction =>
      obtain ⟨observerQuiet, laterQuiet⟩ := List.forall_mem_cons.mp quiet
      rw [hearObservers, hearObservation, observerQuiet block, Response.andThen_nothing,
        induction laterQuiet, ← hearIssues_append]
      rfl

namespace Listener.AcceptsIssues

/-- All issues are heard of, one after another. -/
theorem hearIssues_eq (accepts : listener.AcceptsIssues) (issues : List Issue) :
    listener.hearIssues issues =
      ⟨issues.flatMap fun issue => (listener.hearIssue issue).events, none⟩ := by
  induction issues with
  | nil => rfl
  | cons issue later induction =>
      have heard : listener.hearIssue issue = ⟨(listener.hearIssue issue).events, none⟩ := by
        simp [hearIssue, accepts issue]
      rw [hearIssues, induction, heard]
      rfl

/-- Observers that do not fail report issues, and nothing comes of them but what is
heard. -/
theorem hearObservers_eq (accepts : listener.AcceptsIssues) {observers : List Observer}
    (quiet : ∀ observer ∈ observers, observer.ReturnsNormally) (block : Block) :
    listener.hearObservers block observers =
      ⟨(observedIssues observers block).flatMap fun issue =>
        (listener.hearIssue issue).events, none⟩ := by
  rw [hearObservers_eq_hearIssues quiet, accepts.hearIssues_eq]

end Listener.AcceptsIssues

theorem Listener.record_eq_filter {event : Event}
    (recorded : listener.enters event = listener.records) :
    listener.record event = [event].filter listener.enters := by
  rw [Listener.record, List.filter_cons, recorded, List.filter_nil]

end Events

namespace Reader

variable {reader : Reader}

theorem isOutcome_of_event?_eq_some {attempt : Attempt} {event : Event}
    (reported : attempt.event? = some event) : event.isOutcome = true := by
  cases attempt <;> cases reported <;> rfl

/-- What a reader does about an attempt: the events its report comes to. -/
theorem respond_eq_account (calm : reader.listener.ReturnsNormally)
    (quiet : ∀ observer ∈ reader.observers, observer.ReturnsNormally)
    {attempt : Attempt} {event : Event} (reported : attempt.event? = some event) :
    reader.respond attempt = ⟨reader.account event, none⟩ := by
  cases attempt with
  | literal found =>
      cases reported
      have heard := calm.issues.hearObservers_eq quiet found.block
      simp only [respond, account, observe, heard]
  | misindented malformation block =>
      cases reported
      simp [respond, account, Listener.hearMalformation, calm.misindented]
  | badOpening malformation =>
      cases reported
      simp [respond, account, Listener.hearMalformation, calm.badOpening]
  | unterminated malformation =>
      cases reported
      simp [respond, account, Listener.hearMalformation, calm.unterminated]
  | aborted failure => cases reported

/-- The report on an attempt is the last of the events that it comes to, if it comes up at
all, and no other of them tells what became of the attempt. -/
theorem exists_account_eq (reader : Reader) {event : Event}
    (outcome : event.isOutcome = true) :
    ∃ issues, (∀ issue ∈ issues, Event.isOutcome issue = false) ∧
      reader.account event = issues ++ [event].filter reader.listener.enters := by
  cases event with
  | literal found =>
      exact ⟨_, fun _ => isOutcome_of_mem_hearObservers, rfl⟩
  | issue reported => cases outcome
  | warning reported => cases outcome
  | _ => exact ⟨[], List.forall_mem_nil _, Listener.record_eq_filter rfl⟩

/-- An attempt is reported by one event, after any issues. -/
theorem exists_respond_eq
    (calm : reader.listener.ReturnsNormally)
    (quiet : ∀ observer ∈ reader.observers, observer.ReturnsNormally)
    {attempt : Attempt} {event : Event} (reported : attempt.event? = some event) :
    ∃ issues, (∀ issue ∈ issues, Event.isOutcome issue = false) ∧
      reader.respond attempt =
        ⟨issues ++ [event].filter reader.listener.enters, none⟩ := by
  obtain ⟨issues, noOutcome, stretch⟩ :=
    exists_account_eq reader (isOutcome_of_event?_eq_some reported)
  refine ⟨issues, noOutcome, ?_⟩
  rw [respond_eq_account calm quiet reported, stretch]

theorem pursue_none_cons {attempt : Attempt} {later : List Attempt} {events : List Event}
    (response : reader.respond attempt = ⟨events, none⟩) :
    reader.pursue none (attempt :: later) = (reader.pursue none later).after events := by
  rw [pursue, response]
  cases attempt <;> rfl

theorem filter_isOutcome_append {issues : List Event} {event : Event}
    (noOutcome : ∀ issue ∈ issues, Event.isOutcome issue = false)
    (outcome : event.isOutcome = true) (enters : Event → Bool) :
    (issues ++ [event].filter enters).filter Event.isOutcome = [event].filter enters := by
  have without : issues.filter Event.isOutcome = [] := by
    apply List.filter_eq_nil_iff.mpr
    intro issue member
    simp [noOutcome issue member]
  have kept : ([event].filter enters).filter Event.isOutcome = [event].filter enters := by
    apply List.filter_eq_self.mpr
    intro other member
    rw [List.mem_singleton.mp (List.mem_filter.mp member).1]
    exact outcome
  rw [List.filter_append, without, kept, List.nil_append]

/-- All attempts are made, and the events that report on them come up one after
another. -/
theorem pursue_none_of_reports
    (calm : reader.listener.ReturnsNormally)
    (quiet : ∀ observer ∈ reader.observers, observer.ReturnsNormally)
    {attempts : List Attempt} {events : List Event}
    (reports : attempts.map Attempt.event? = events.map some) :
    (reader.pursue none attempts).ending = .exhausted ∧
      (reader.pursue none attempts).events.filter Event.isOutcome =
        events.filter reader.listener.enters := by
  induction attempts generalizing events with
  | nil =>
      have nothing : events = [] := by simpa using reports.symm
      subst nothing
      exact ⟨rfl, rfl⟩
  | cons attempt later induction =>
      cases events with
      | nil => simp at reports
      | cons event others =>
          obtain ⟨reported, laterReports⟩ := List.cons.inj reports
          obtain ⟨issues, noOutcome, response⟩ := exists_respond_eq calm quiet reported
          obtain ⟨ended, outcomes⟩ := induction laterReports
          rw [pursue_none_cons response]
          refine ⟨ended, ?_⟩
          have outcome := isOutcome_of_event?_eq_some reported
          calc (issues ++ [event].filter reader.listener.enters ++
                (reader.pursue none later).events).filter Event.isOutcome
              = [event].filter reader.listener.enters ++
                  others.filter reader.listener.enters := by
                rw [List.filter_append, filter_isOutcome_append noOutcome outcome, outcomes]
            _ = (event :: others).filter reader.listener.enters := by
                rw [← List.filter_append, List.singleton_append]

theorem not_mem_dropLast_append {event : Event} {before after : List Event}
    (absent : event ∉ before) (last : event ∉ after.dropLast) :
    event ∉ (before ++ after).dropLast := by
  cases after with
  | nil =>
      intro member
      rw [List.append_nil] at member
      exact absent (List.dropLast_subset before member)
  | cons first later =>
      rw [List.dropLast_append_of_ne_nil (List.cons_ne_nil first later)]
      intro member
      rcases List.mem_append.mp member with early | late
      · exact absent early
      · exact last late

/-- Where nothing but the last attempt is reported unterminated, nothing comes
after that report. -/
theorem unterminated_not_mem_dropLast_pursue
    (calm : reader.listener.ReturnsNormally)
    (quiet : ∀ observer ∈ reader.observers, observer.ReturnsNormally)
    {attempts : List Attempt} {events : List Event}
    (reports : attempts.map Attempt.event? = events.map some)
    {malformation : Malformation} (last : .unterminated malformation ∉ events.dropLast) :
    .unterminated malformation ∉ (reader.pursue none attempts).events.dropLast := by
  induction attempts generalizing events with
  | nil => exact List.not_mem_nil
  | cons attempt later induction =>
      cases events with
      | nil => simp at reports
      | cons event others =>
          obtain ⟨reported, laterReports⟩ := List.cons.inj reports
          obtain ⟨issues, noOutcome, response⟩ := exists_respond_eq calm quiet reported
          rw [pursue_none_cons response]
          have apart : .unterminated malformation ∉ issues := by
            intro member
            exact absurd (noOutcome _ member) (by simp [Event.isOutcome])
          simp only [Extraction.after, List.append_assoc]
          apply not_mem_dropLast_append apart
          cases others with
          | nil =>
              have done : later = [] := by simpa using laterReports
              subst done
              cases entered : reader.listener.enters event <;>
                simp [pursue, entered]
          | cons next others =>
              rw [List.dropLast_cons_cons, List.mem_cons, not_or] at last
              obtain ⟨different, absent⟩ := last
              apply not_mem_dropLast_append
              · intro member
                exact different (List.mem_singleton.mp (List.mem_filter.mp member).1)
              · exact induction laterReports absent

end Reader

theorem Partition.unterminated_not_mem_dropLast
    {dialect : Dialect} {text : Text} {offset : Nat} {regions : List Region}
    (partition : Partition dialect text offset regions) (malformation : Malformation) :
    .unterminated malformation ∉ (regions.map Region.event).dropLast := by
  induction regions generalizing offset with
  | nil => exact List.not_mem_nil
  | cons region later induction =>
      cases later with
      | nil => exact List.not_mem_nil
      | cons next others =>
          obtain ⟨stop, closed, _⟩ := partition.between 0 region next rfl rfl
          rw [List.map_cons, List.map_cons, List.dropLast_cons_cons, ← List.map_cons]
          apply List.not_mem_cons_of_ne_of_not_mem
          · intro same
            have explained := partition.explained region List.mem_cons_self
            obtain ⟨start, stop?, event⟩ := region
            cases closed
            cases same
            cases explained
          · exact induction (partition.tail closed)

/-- An extraction that is not interrupted reports on regions that partition the
text, one event for each of them, and reports an unterminated literal at its end
only. -/
theorem extract_partition {reader : Reader} (text : Text)
    (calm : reader.listener.ReturnsNormally)
    (quiet : ∀ observer ∈ reader.observers, observer.ReturnsNormally) :
    ∃ regions, Partition reader.dialect text 0 regions ∧
      (attempts reader.dialect text).map Attempt.event? =
        regions.map (fun region => some region.event) ∧
      (reader.extract text none).ending = .exhausted ∧
      (reader.extract text none).events.filter Event.isOutcome =
        (regions.map Region.event).filter reader.listener.enters ∧
      ∀ malformation,
        .unterminated malformation ∉ (reader.extract text none).events.dropLast := by
  obtain ⟨regions, partition, reports⟩ :=
    exists_partition reader.dialect (runBreak_zero text)
  have reported : (attempts reader.dialect text).map Attempt.event? =
      (regions.map Region.event).map some := by
    rw [List.map_map]
    exact reports
  obtain ⟨ended, outcomes⟩ := Reader.pursue_none_of_reports calm quiet reported
  refine ⟨regions, partition, reports, ended, outcomes, ?_⟩
  intro malformation
  exact Reader.unterminated_not_mem_dropLast_pursue calm quiet reported
    (partition.unterminated_not_mem_dropLast malformation)

/-- A malformed opening line, a literal, a misindented one and one without a
closing marker. -/
theorem extract_partition_four_regions :
    let text := ['"', '"', '"', 'x', '\n', '"', '"', '"', ' ', '"', '"', '"', '\n', 'a', '\n',
      '"', '"', '"', ' ', '"', '"', '"', '\n', 'b', '\n', ' ', '"', '"', '"', ' ', '"', '"', '"']
    let reader : Reader := ⟨.standard, [.reporting fun _ => []], .tolerant⟩
    reader.listener.ReturnsNormally ∧
      (∀ observer ∈ reader.observers, observer.ReturnsNormally) ∧
      ∃ regions, Partition .standard text 0 regions ∧ regions.length = 4 := by
  intro text reader
  have calm : reader.listener.ReturnsNormally := Listener.returnsNormally_tolerant
  have quiet : ∀ observer ∈ reader.observers, observer.ReturnsNormally := by
    intro observer member block
    rw [List.mem_singleton.mp member]
    rfl
  refine ⟨calm, quiet, ?_⟩
  obtain ⟨regions, partition, reports, _⟩ := extract_partition text calm quiet
  have count : (attempts .standard text).length = 4 := by decide +kernel
  have lengths := congrArg List.length reports
  rw [List.length_map, List.length_map] at lengths
  exact ⟨regions, partition, lengths.symm.trans count⟩

end Verbatim
