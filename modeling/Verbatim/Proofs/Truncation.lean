import Verbatim.Proofs.Composition
import Verbatim.Proofs.Observing

/-!
# Stopping early only truncates

A listener may raise some malformations, or a failure at some issues, and a caller may want
only some of the literals.  Either ends an extraction early, and `extract_truncated` says that
it does nothing else.  The events are those of the extraction that goes through to the end, up
to the first event at which the listener raises or the last literal that is wanted, whichever
comes first, and the failure is the one that is raised.

`Listener.cut` is what comes of events with a listener that raises at some of them.  It goes
through appending as responses do (`Listener.cut_append`), so an extraction is cut attempt by
attempt.
-/

namespace Verbatim

/-- The listener that hears the same and raises nothing. -/
def Listener.patient (listener : Listener) : Listener :=
  { listener with
    raisesBadOpening := false
    raisesUnterminated := false
    raisesMisindented := false
    raisedAt? := fun _ => none }

/-- The reader with a listener that raises nothing. -/
def Reader.patient (reader : Reader) : Reader :=
  { reader with listener := reader.listener.patient }

namespace Event

def isLiteral : Event → Bool
  | .literal _ => true
  | _ => false

/-- The events up to the first that ends the reading, which is the last of them. -/
def upToFirst (ends : Event → Bool) : List Event → List Event
  | [] => []
  | event :: later => if ends event then [event] else event :: upToFirst ends later

/-- How many more literals are wanted after an event. -/
def remaining (limit : Option Nat) (event : Event) : Option Nat :=
  if event.isLiteral then limit.map (· - 1) else limit

/-- The events up to the literal with which there are as many as are wanted.  No event
comes up when no literal is wanted. -/
def upToWanted (limit : Option Nat) : List Event → List Event
  | [] => []
  | event :: later =>
      if limit = some 0 then [] else event :: upToWanted (remaining limit event) later

section Cuts

variable {ends : Event → Bool} {before events : List Event}

theorem upToFirst_prefix (ends : Event → Bool) (events : List Event) :
    upToFirst ends events <+: events := by
  induction events with
  | nil => exact List.prefix_rfl
  | cons event later induction =>
      rw [upToFirst]
      split
      · exact List.prefix_append [event] later
      · exact List.cons_prefix_cons.mpr ⟨rfl, induction⟩

theorem upToWanted_zero (events : List Event) : upToWanted (some 0) events = [] := by
  cases events <;> simp [upToWanted]

/-- Events that are no literals are kept as long as any literal is wanted. -/
theorem upToWanted_append {limit : Option Nat} (wanting : limit ≠ some 0)
    (none : ∀ event ∈ before, event.isLiteral = false) (later : List Event) :
    upToWanted limit (before ++ later) = before ++ upToWanted limit later := by
  induction before with
  | nil => rfl
  | cons event before induction =>
      obtain ⟨noLiteral, noLiterals⟩ := List.forall_mem_cons.mp none
      simp [upToWanted, wanting, remaining, noLiteral, induction noLiterals]

theorem upToWanted_prefix (limit : Option Nat) (events : List Event) :
    upToWanted limit events <+: events := by
  induction events generalizing limit with
  | nil => exact List.prefix_rfl
  | cons event later induction =>
      rw [upToWanted]
      split
      · exact List.nil_prefix
      · exact List.cons_prefix_cons.mpr ⟨rfl, induction _⟩

/-- Of two cuts the first applies. -/
theorem upToFirst_upToWanted (ends : Event → Bool) (limit : Option Nat)
    (events : List Event) :
    upToFirst ends (upToWanted limit events) =
      if (upToFirst ends events).length ≤ (upToWanted limit events).length then
        upToFirst ends events
      else upToWanted limit events := by
  induction events generalizing limit with
  | nil => rfl
  | cons event later induction =>
      by_cases wanting : limit = some 0
      · simp [upToWanted, wanting, upToFirst]
      · by_cases last : ends event = true
        · simp [upToWanted, wanting, upToFirst, last]
        · simp only [upToWanted, if_neg wanting, upToFirst, if_neg last, induction,
            List.length_cons, Nat.add_le_add_iff_right]
          split <;> rfl

end Cuts

end Event

section Patience

/-- What comes of events with a listener that raises at some of them: they end with the first
of those. -/
def Listener.cut (listener : Listener) (events : List Event) : Response where
  events := Event.upToFirst (listener.raised? · |>.isSome) events
  failure? := events.findSome? listener.raised?

namespace Listener

variable {listener : Listener}

theorem cut_cons_of_none {event : Event} (unraised : listener.raised? event = none)
    (later : List Event) :
    listener.cut (event :: later) = Response.andThen ⟨[event], none⟩ (listener.cut later) := by
  simp [cut, Event.upToFirst, unraised]

theorem cut_append (listener : Listener) (before later : List Event) :
    listener.cut (before ++ later) = (listener.cut before).andThen (listener.cut later) := by
  induction before with
  | nil => rfl
  | cons event before induction =>
      cases raised : listener.raised? event with
      | none =>
          rw [List.cons_append, cut_cons_of_none raised, cut_cons_of_none raised, induction,
            Response.andThen_assoc]
      | some failure => simp [cut, Event.upToFirst, raised]

theorem returnsNormally_patient (listener : Listener) : listener.patient.ReturnsNormally :=
  ⟨rfl, rfl, rfl, fun _ => rfl⟩

theorem hearIssue_eq_cut (records : listener.records = true) (issue : Issue) :
    listener.hearIssue issue = listener.cut (listener.patient.hearIssue issue).events := by
  cases raised : listener.raisedAt? issue with
  | some failure =>
      simp [hearIssue, patient, record, records, cut, Event.upToFirst, raised?, raised]
  | none =>
      by_cases warns : listener.warns = true <;>
        simp [hearIssue, patient, record, records, cut, Event.upToFirst, raised?, raised, warns]

theorem hearIssues_eq_cut (records : listener.records = true) (issues : List Issue) :
    listener.hearIssues issues =
      listener.cut (issues.flatMap fun issue => (listener.patient.hearIssue issue).events) := by
  induction issues with
  | nil => rfl
  | cons issue later induction =>
      rw [hearIssues, List.flatMap_cons, cut_append, ← hearIssue_eq_cut records, induction]

theorem hearObservers_eq_cut (records : listener.records = true) {observers : List Observer}
    (quiet : ∀ observer ∈ observers, observer.ReturnsNormally) (block : Block) :
    listener.hearObservers block observers =
      listener.cut (listener.patient.hearObservers block observers).events := by
  rw [listener.returnsNormally_patient.issues.hearObservers_eq quiet block,
    ← hearIssues_eq_cut records, hearObservers_eq_hearIssues quiet]

theorem hearMalformation_eq_cut (records : listener.records = true) {event : Event}
    {raises : Bool} {malformation : Malformation}
    (raised : listener.raised? event = if raises then some (.malformed malformation) else none) :
    listener.hearMalformation event raises malformation =
      listener.cut (listener.patient.record event) := by
  cases raises <;>
    simp [hearMalformation, record, records, patient, cut, Event.upToFirst, raised]

end Listener

/-- What a reader does about an attempt is what its patient version does, cut. -/
theorem Reader.respond_eq_cut {reader : Reader} (records : reader.listener.records = true)
    (quiet : ∀ observer ∈ reader.observers, observer.ReturnsNormally)
    {attempt : Attempt} {event : Event} (reported : attempt.event? = some event) :
    reader.respond attempt = reader.listener.cut (reader.patient.account event) := by
  cases attempt with
  | literal found =>
      cases reported
      have heard : reader.observe found.block =
          reader.listener.cut (reader.patient.observe found.block).events :=
        Listener.hearObservers_eq_cut records quiet found.block
      have last : reader.listener.cut [.literal found] = ⟨[.literal found], none⟩ := rfl
      rw [account, Listener.cut_append, ← heard, last, respond]
      generalize reader.observe found.block = response
      obtain ⟨events, _ | failure⟩ := response <;> rfl
  | misindented malformation block | badOpening malformation | unterminated malformation =>
      cases reported
      exact Listener.hearMalformation_eq_cut records rfl
  | aborted failure => cases reported

end Patience

section Reports

variable {listener : Listener} {reader : Reader}

/-- The extraction that would have some events if it went through to its end. -/
def Listener.truncated (listener : Listener) (limit : Option Nat) (full : List Event) :
    Extraction where
  events := (listener.cut (Event.upToWanted limit full)).events
  ending :=
    match (listener.cut (Event.upToWanted limit full)).failure? with
    | some failure => .failed failure
    | none => if limit.any (· ≤ full.countP Event.isLiteral) then .satisfied else .exhausted

theorem isLiteral_of_not_isOutcome {event : Event} (noOutcome : event.isOutcome = false) :
    event.isLiteral = false := by
  cases event with
  | literal found => cases noOutcome
  | _ => rfl

theorem Listener.enters_of_records (records : listener.records = true) (event : Event) :
    listener.enters event = true := by
  cases event with
  | literal found => rfl
  | _ => exact records

theorem Reader.remaining_eq {attempt : Attempt} {event : Event}
    (reported : attempt.event? = some event) (limit : Option Nat) :
    Reader.remaining limit attempt = event.remaining limit := by
  cases attempt <;> cases reported <;> rfl

/-- The literals that are wanted after an event are found if all that were wanted are. -/
theorem Event.any_remaining {limit : Option Nat} (wanting : limit ≠ some 0) (event : Event)
    (later : List Event) :
    (event.remaining limit).any (· ≤ later.countP isLiteral) =
      limit.any (· ≤ (event :: later).countP isLiteral) := by
  cases literal : event.isLiteral with
  | false => simp [remaining, literal]
  | true =>
      cases limit with
      | none => simp [remaining]
      | some count =>
          obtain ⟨fewer, rfl⟩ := Nat.exists_eq_succ_of_ne_zero (n := count) (by simpa using wanting)
          simp [remaining, literal]

/-- An extraction is truncated by what comes of its first stretch, if that fails, or behind
it.  The report on an attempt is the last event of its stretch. -/
theorem Listener.truncated_stretch {limit : Option Nat} {issues : List Event}
    (wanting : limit ≠ some 0) (noOutcome : ∀ issue ∈ issues, Event.isOutcome issue = false)
    (event : Event) (later : List Event) :
    listener.truncated limit (issues ++ [event] ++ later) =
      match (listener.cut (issues ++ [event])).failure? with
      | some failure => ⟨(listener.cut (issues ++ [event])).events, .failed failure⟩
      | none => (listener.truncated (event.remaining limit) later).after
          (listener.cut (issues ++ [event])).events := by
  have noLiteral : ∀ issue ∈ issues, Event.isLiteral issue = false := fun issue member =>
    isLiteral_of_not_isOutcome (noOutcome issue member)
  have wanted : Event.upToWanted limit (issues ++ [event] ++ later) =
      issues ++ [event] ++ Event.upToWanted (event.remaining limit) later := by
    rw [List.append_assoc, Event.upToWanted_append wanting noLiteral]
    simp [Event.upToWanted, wanting]
  have counted : limit.any (· ≤ (issues ++ [event] ++ later).countP Event.isLiteral) =
      (event.remaining limit).any (· ≤ later.countP Event.isLiteral) := by
    have none : issues.countP Event.isLiteral = 0 :=
      List.countP_eq_zero.mpr fun issue member => by simp [noLiteral issue member]
    rw [Event.any_remaining wanting, List.append_assoc, List.countP_append, none, Nat.zero_add]
    rfl
  rw [truncated, truncated, wanted, counted, cut_append]
  obtain ⟨events, _ | failure⟩ := listener.cut (issues ++ [event])
  · rfl
  · rfl

/-- A run is truncated as the events of the run that goes through to its end say. -/
theorem Reader.pursue_eq_truncated (records : reader.listener.records = true)
    (quiet : ∀ observer ∈ reader.observers, observer.ReturnsNormally)
    (limit : Option Nat) {attempts : List Attempt} {events : List Event}
    (reports : attempts.map Attempt.event? = events.map some) :
    reader.pursue limit attempts =
      reader.listener.truncated limit (events.flatMap reader.patient.account) := by
  induction attempts generalizing limit events with
  | nil =>
      have nothing : events = [] := by simpa using reports.symm
      subst nothing
      rcases limit with _ | _ | count <;> rfl
  | cons attempt later induction =>
      cases events with
      | nil => simp at reports
      | cons event others =>
          obtain ⟨reported, laterReports⟩ := List.cons.inj reports
          by_cases wanting : limit = some 0
          · simp [pursue, wanting, Listener.truncated, Event.upToWanted_zero, Listener.cut,
              Event.upToFirst]
          · have response := respond_eq_cut records quiet reported
            have onward := induction (event.remaining limit) laterReports
            obtain ⟨issues, noOutcome, stretch⟩ :=
              exists_account_eq reader.patient (isOutcome_of_event?_eq_some reported)
            have entered : reader.patient.listener.enters event = true :=
              Listener.enters_of_records records event
            rw [List.filter_cons_of_pos entered, List.filter_nil] at stretch
            rw [stretch] at response
            simp only [pursue, if_neg wanting, response, remaining_eq reported, onward]
            rw [List.flatMap_cons, stretch]
            exact (Listener.truncated_stretch wanting noOutcome event _).symm

end Reports

/-- An extraction that a listener or a limit ends early begins like the one that goes
through to its end.  It stops behind the first event at which the listener raises, and ends
with that failure, or behind the last literal that is wanted, whichever comes first. -/
theorem extract_truncated (dialect : Dialect) (listener : Listener)
    (entries : List (SourceKey × Int)) (text : Text) (limit : Option Nat)
    (records : listener.records = true) :
    let reader : Reader := ⟨dialect, FormerReading.observers entries, listener⟩
    let extraction := reader.extract text limit
    let full := (reader.patient.extract text none).events
    let raised := Event.upToFirst (listener.raised? · |>.isSome) full
    let wanted := Event.upToWanted limit full
    (reader.patient.extract text none).ending = .exhausted ∧
      extraction.events <+: full ∧
      extraction.events =
        (if raised.length ≤ wanted.length then raised else wanted) ∧
      extraction.ending =
        match wanted.findSome? listener.raised? with
        | some failure => .failed failure
        | none =>
            if limit.any (· ≤ full.countP Event.isLiteral) then .satisfied else .exhausted := by
  intro reader extraction full raised wanted
  have calm : reader.patient.listener.ReturnsNormally := listener.returnsNormally_patient
  have quiet : ∀ observer ∈ reader.observers, observer.ReturnsNormally :=
    FormerReading.returnsNormally_of_mem_observers entries
  obtain ⟨regions, partition, reports⟩ := exists_partition_attempts dialect text
  have whole : full = (regions.map Region.event).flatMap reader.patient.account :=
    @Reader.events_extract reader.patient calm quiet text regions partition
  have truncated : extraction = listener.truncated limit full := by
    rw [whole]
    exact @Reader.pursue_eq_truncated reader records quiet limit _ _ reports
  have cut : extraction.events = Event.upToFirst (listener.raised? · |>.isSome) wanted :=
    congrArg Extraction.events truncated
  refine ⟨?_, ?_, ?_, congrArg Extraction.ending truncated⟩
  · exact (@Reader.pursue_none_of_reports reader.patient calm quiet _ _ reports).1
  · rw [cut]
    exact (Event.upToFirst_prefix _ _).trans (Event.upToWanted_prefix _ _)
  · rw [cut, Event.upToFirst_upToWanted]

/-- A malformed opening line, a literal with an issue, a misindented literal and one more.
With two literals wanted, the misindented one is raised before the second is found; with
one, the extraction stops in front of it. -/
theorem extract_truncated_by_failure_and_limit :
    let text := ['"', '"', '"', 'x', '\n', '"', '"', '"', '\n',
      '"', '"', '"', '"', '\n', 'a', '\n', '"', '"', '"', '"', '\n',
      '"', '"', '"', '\n', 'b', '\n', ' ', '"', '"', '"', '\n',
      '"', '"', '"', '\n', '"', '"', '"']
    let entries : List (SourceKey × Int) := [(.unnamed, 4)]
    let listener : Listener := { Listener.tolerant with raisesMisindented := true }
    let reader : Reader := ⟨.standard, FormerReading.observers entries, listener⟩
    let block : Block := ⟨4, [], [⟨['a'], .lineFeed, 14⟩], [], '"', 9, 20⟩
    let rejected : Block := ⟨3, [], [⟨['b'], .lineFeed, 25⟩], [' '], '"', 21, 31⟩
    let first : List Event := [.badOpening (.strayText 3),
      .issue (FormerReading.warning .unnamed block), .literal ⟨['a'], block⟩]
    listener.records = true ∧
      reader.extract text (some 2) =
        ⟨first ++ [.misindented (.misindented 0 25) rejected],
          .failed (.malformed (.misindented 0 25))⟩ ∧
      reader.extract text (some 1) = ⟨first, .satisfied⟩ := by
  intro text entries listener reader block rejected first
  have full : (reader.patient.extract text none).events =
      first ++ [.misindented (.misindented 0 25) rejected,
        .literal ⟨[], ⟨3, [], [], [], '"', 32, 39⟩⟩] := by
    decide +kernel
  have truncated := fun limit => extract_truncated .standard listener entries text limit rfl
  refine ⟨rfl, ?_, ?_⟩
  · obtain ⟨_, _, events, ending⟩ := truncated (some 2)
    rw [full] at events ending
    exact congrArg₂ Extraction.mk events ending
  · obtain ⟨_, _, events, ending⟩ := truncated (some 1)
    rw [full] at events ending
    exact congrArg₂ Extraction.mk events ending

end Verbatim
