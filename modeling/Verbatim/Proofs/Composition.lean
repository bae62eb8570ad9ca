import Verbatim.Proofs.Juxtaposition
import Verbatim.Proofs.Reading

/-!
# The events of one text after another

`extract_append` says that no literal has a say in what is found behind it.  The
events of a text that consists of two are those of the first and then those of the
second, moved.  The first has to be whole lines, with a closing line for every marker
that opens a literal.

The issues that come with a literal are up to the observers.  An observer may look at
positions, so the second text is observed as it stands behind the first.  Observers
that do not care where a block stands, like those of former markers, report the same issues,
moved.  Of others this is not true (`not_extract_append_of_place_observer`).
-/

namespace Verbatim

section Accounts

variable {reader : Reader}

theorem Reader.events_pursue_none (calm : reader.listener.ReturnsNormally)
    (quiet : ∀ observer ∈ reader.observers, observer.ReturnsNormally)
    {attempts : List Attempt} {events : List Event}
    (reports : attempts.map Attempt.event? = events.map some) :
    (reader.pursue none attempts).events = events.flatMap reader.account := by
  induction attempts generalizing events with
  | nil =>
      have nothing : events = [] := by simpa using reports.symm
      rw [nothing]
      rfl
  | cons attempt later induction =>
      cases events with
      | nil => simp at reports
      | cons event others =>
          obtain ⟨reported, laterReports⟩ := List.cons.inj reports
          rw [pursue_none_cons (respond_eq_account calm quiet reported), List.flatMap_cons,
            ← induction laterReports]
          rfl

/-- The events of an extraction, region by region. -/
theorem Reader.events_extract (calm : reader.listener.ReturnsNormally)
    (quiet : ∀ observer ∈ reader.observers, observer.ReturnsNormally)
    {text : Text} {regions : List Region} (partition : Partition reader.dialect text 0 regions) :
    (reader.extract text none).events = (regions.map Region.event).flatMap reader.account :=
  events_pursue_none calm quiet partition.event?_attemptsFrom

end Accounts

section Observing

def Observation.move (distance : Int) (observation : Observation) : Observation where
  issues := observation.issues.map (Issue.move distance)
  failure? := observation.failure?.map (Failure.move distance)

/-- An observer that does not care where a block stands. -/
def Observer.IsRelative (observer : Observer) : Prop :=
  ∀ block distance, observer.observe (block.move distance) =
    (observer.observe block).move distance

/-- A listener that does not care what place an issue is about. -/
def Listener.IsRelative (listener : Listener) : Prop :=
  ∀ issue distance, listener.raisedAt? (issue.move distance) =
    (listener.raisedAt? issue).map (Failure.move distance)

theorem Listener.AcceptsIssues.isRelative {listener : Listener}
    (accepts : listener.AcceptsIssues) : listener.IsRelative := by
  intro issue distance
  rw [accepts, accepts]
  rfl

def Response.move (distance : Int) (response : Response) : Response where
  events := response.events.map (Event.move distance)
  failure? := response.failure?.map (Failure.move distance)

theorem Response.move_andThen (first second : Response) (distance : Int) :
    (first.andThen second).move distance =
      (first.move distance).andThen (second.move distance) := by
  obtain ⟨events, _ | failure⟩ := first
  · simp [move]
  · simp [move]

/-- The observer that looks at blocks where they stand behind another text. -/
def Observer.displaced (distance : Int) (observer : Observer) : Observer where
  observe block := (observer.observe (block.move distance)).move (-distance)

def Reader.displaced (distance : Int) (reader : Reader) : Reader :=
  { reader with observers := reader.observers.map (Observer.displaced distance) }

theorem Exhibit.move_move_neg (exhibit : Exhibit) (distance : Int) :
    (exhibit.move distance).move (-distance) = exhibit := by
  obtain ⟨⟨start, stop⟩, caption⟩ := exhibit
  simp only [move, Span.move, Int.add_neg_cancel_right]

theorem Issue.move_move_neg (issue : Issue) (distance : Int) :
    (issue.move distance).move (-distance) = issue := by
  obtain ⟨phase, severity, description, evidence⟩ := issue
  simp [move, Function.comp_def, Exhibit.move_move_neg]

theorem Failure.move_move_neg (failure : Failure) (distance : Int) :
    (failure.move distance).move (-distance) = failure := by
  cases failure with
  | malformed malformation =>
      cases malformation <;> simp only [move, Malformation.move, Int.add_neg_cancel_right]
  | noMarker offset | shortMarker found offset | outOfRange position =>
      simp only [move, Int.add_neg_cancel_right]
  | missingTerminator line => simp only [move, Line.move, Int.add_neg_cancel_right]
  | unimplementedObserver | raisedWarning warning => rfl

theorem Observation.move_move_neg (observation : Observation) (distance : Int) :
    (observation.move distance).move (-distance) = observation := by
  simp [move, Function.comp_def, Issue.move_move_neg, Failure.move_move_neg]

theorem Observation.move_neg_move (observation : Observation) (distance : Int) :
    (observation.move (-distance)).move distance = observation := by
  have restored := observation.move_move_neg (-distance)
  rwa [Int.neg_neg] at restored

theorem Observer.IsRelative.displaced_eq {observer : Observer} (relative : observer.IsRelative)
    (distance : Int) : observer.displaced distance = observer := by
  have same : ∀ block, (observer.displaced distance).observe block = observer.observe block := by
    intro block
    simp [displaced, relative block distance, Observation.move_move_neg]
  obtain ⟨observe⟩ := observer
  exact congrArg Observer.mk (funext same)

/-- The observer of former markers speaks of the block's own markers only. -/
theorem FormerReading.isRelative_observer (key : SourceKey) (threshold : Int) :
    (FormerReading.observer key threshold).IsRelative := by
  intro block distance
  have closing : block.finish + distance - block.markerLength =
      block.finish - block.markerLength + distance := by
    omega
  have opening : block.start + distance + block.markerLength =
      block.start + block.markerLength + distance := by
    omega
  by_cases short : block.markerLength < threshold
  · simp [observer, Observer.reporting, Block.move, Observation.move, short]
  · simp [observer, Observer.reporting, Block.move, Observation.move, short, warning,
      Issue.move, Exhibit.move, Span.move, Block.openingMarker, Block.closingMarker, closing,
      opening]

theorem Listener.record_move (listener : Listener) (event : Event) (distance : Int) :
    listener.record (event.move distance) =
      (listener.record event).map (Event.move distance) := by
  unfold record
  split <;> rfl

namespace Listener.IsRelative

variable {listener : Listener}

theorem hearIssue_move (relative : listener.IsRelative) (issue : Issue) (distance : Int) :
    listener.hearIssue (issue.move distance) = (listener.hearIssue issue).move distance := by
  have recorded := listener.record_move (.issue issue) distance
  simp only [hearIssue, relative issue distance]
  cases listener.raisedAt? issue with
  | some failure => exact congrArg (Response.mk · (some (failure.move distance))) recorded
  | none =>
      have warned : (if listener.warns then [Event.warning (issue.move distance)] else []) =
          (if listener.warns then [Event.warning issue] else []).map (Event.move distance) := by
        split <;> rfl
      have recordedThere : listener.record (.issue (issue.move distance)) = _ := recorded
      simp [Response.move, recordedThere, warned]

theorem hearIssues_move (relative : listener.IsRelative) (issues : List Issue)
    (distance : Int) :
    listener.hearIssues (issues.map (Issue.move distance)) =
      (listener.hearIssues issues).move distance := by
  induction issues with
  | nil => rfl
  | cons issue later induction =>
      rw [List.map_cons, hearIssues, relative.hearIssue_move, induction, hearIssues,
        Response.move_andThen]

theorem hearObservation_move (relative : listener.IsRelative) (observation : Observation)
    (distance : Int) :
    listener.hearObservation (observation.move distance) =
      (listener.hearObservation observation).move distance := by
  rw [hearObservation, hearObservation, Response.move_andThen,
    ← relative.hearIssues_move]
  rfl

/-- What is heard of observers about a block that stands elsewhere. -/
theorem hearObservers_move (relative : listener.IsRelative) (block : Block) (distance : Int)
    (observers : List Observer) :
    listener.hearObservers (block.move distance) observers =
      (listener.hearObservers block (observers.map (Observer.displaced distance))).move
        distance := by
  induction observers with
  | nil => rfl
  | cons observer later induction =>
      -- What was moved back is moved there again, so the same is heard.
      have observed : ((observer.displaced distance).observe block).move distance =
          observer.observe (block.move distance) :=
        Observation.move_neg_move _ distance
      rw [List.map_cons, hearObservers, hearObservers, Response.move_andThen, ← induction,
        ← relative.hearObservation_move, observed]

end Listener.IsRelative

theorem Reader.account_move {reader : Reader} (relative : reader.listener.IsRelative)
    (event : Event) (distance : Int) :
    reader.account (event.move distance) =
      ((reader.displaced distance).account event).map (Event.move distance) := by
  cases event with
  | literal found =>
      have heard := congrArg Response.events
        (relative.hearObservers_move found.block distance reader.observers)
      simp only [Event.move, account, List.map_append]
      exact congrArg (· ++ [.literal (found.move distance)]) heard
  | _ => exact reader.listener.record_move _ distance

theorem Reader.quiet_displaced {reader : Reader}
    (quiet : ∀ observer ∈ reader.observers, observer.ReturnsNormally) (distance : Int) :
    ∀ observer ∈ (reader.displaced distance).observers, observer.ReturnsNormally := by
  intro observer member block
  obtain ⟨original, among, rfl⟩ := List.mem_map.mp member
  exact congrArg (Option.map (Failure.move (-distance)))
    (quiet original among (block.move distance))

theorem Reader.displaced_of_isRelative {reader : Reader}
    (relative : ∀ observer ∈ reader.observers, observer.IsRelative) (distance : Int) :
    reader.displaced distance = reader := by
  have observers : reader.observers.map (Observer.displaced distance) = reader.observers := by
    calc reader.observers.map (Observer.displaced distance)
        = reader.observers.map id :=
          List.map_congr_left fun observer member =>
            (relative observer member).displaced_eq distance
      _ = reader.observers := List.map_id _
  unfold displaced
  rw [observers]

theorem Reader.flatMap_account_map_move {reader : Reader}
    (relative : reader.listener.IsRelative) (events : List Event) (distance : Int) :
    (events.map (Event.move distance)).flatMap reader.account =
      (events.flatMap (reader.displaced distance).account).map (Event.move distance) := by
  rw [List.flatMap_map, List.map_flatMap]
  simp only [account_move relative]

end Observing

section Outcomes

theorem Event.isOutcome_move (distance : Int) (event : Event) :
    (event.move distance).isOutcome = event.isOutcome := by
  cases event <;> rfl

/-- Observers have no say in what becomes of the attempts. -/
theorem Reader.outcomes_displaced {reader : Reader}
    (calm : reader.listener.ReturnsNormally)
    (quiet : ∀ observer ∈ reader.observers, observer.ReturnsNormally)
    (text : Text) (distance : Int) :
    ((reader.displaced distance).extract text none).events.filter Event.isOutcome =
      (reader.extract text none).events.filter Event.isOutcome := by
  obtain ⟨regions, partition, _⟩ := exists_partition reader.dialect (runBreak_zero text)
  have reports := partition.event?_attemptsFrom
  have outcomes := (pursue_none_of_reports calm quiet reports).2
  have displacedOutcomes := (@pursue_none_of_reports (reader.displaced distance) calm
    (quiet_displaced quiet distance) _ _ reports).2
  exact displacedOutcomes.trans outcomes.symm

end Outcomes

/-- What is found in whole lines and in the text behind them is what is found in the
one and, moved, in the other, if every literal of the lines has a closing line. -/
theorem extract_append {reader : Reader} {front : Text} (rest : Text)
    (calm : reader.listener.ReturnsNormally)
    (quiet : ∀ observer ∈ reader.observers, observer.ReturnsNormally)
    (noLineFeed : '\n' ∉ reader.dialect.quotes) (whole : front.WholeLines)
    (runsOut : RunsOut reader.dialect front) :
    (reader.extract (front ++ rest) none).events =
        (reader.extract front none).events ++
          ((reader.displaced front.length).extract rest none).events.map
            (Event.move front.length) ∧
      (reader.extract (front ++ rest) none).events.filter Event.isOutcome =
        (reader.extract front none).events.filter Event.isOutcome ++
          ((reader.extract rest none).events.filter Event.isOutcome).map
            (Event.move front.length) ∧
      ((∀ observer ∈ reader.observers, observer.IsRelative) →
        (reader.extract (front ++ rest) none).events =
          (reader.extract front none).events ++
            (reader.extract rest none).events.map (Event.move front.length)) ∧
      ∀ key threshold, (FormerReading.observer key threshold).IsRelative := by
  obtain ⟨earlier, later, partition, onward, joined⟩ :=
    exists_partition_append rest whole noLineFeed runsOut
  have restEvents : ((reader.displaced front.length).extract rest none).events =
      (later.map Region.event).flatMap (reader.displaced front.length).account :=
    @Reader.events_extract (reader.displaced front.length) calm
      (Reader.quiet_displaced quiet front.length) rest later onward
  have moved : (later.map (Region.move front.length)).map Region.event =
      (later.map Region.event).map (Event.move front.length) := by
    rw [List.map_map, List.map_map]
    rfl
  have composed : (reader.extract (front ++ rest) none).events =
      (reader.extract front none).events ++
        ((reader.displaced front.length).extract rest none).events.map
          (Event.move front.length) := by
    rw [Reader.events_extract calm quiet joined, Reader.events_extract calm quiet partition,
      restEvents, List.map_append, List.flatMap_append, moved,
      Reader.flatMap_account_map_move calm.issues.isRelative]
  refine ⟨composed, ?_, ?_, FormerReading.isRelative_observer⟩
  · have apart : Event.isOutcome ∘ Event.move front.length = Event.isOutcome := by
      funext event
      exact Event.isOutcome_move front.length event
    rw [composed, List.filter_append, List.filter_map, apart,
      Reader.outcomes_displaced calm quiet rest front.length]
  · intro relative
    rw [composed, Reader.displaced_of_isRelative relative]

/-- A malformed opening line that is closed, and behind it a literal with an issue and
a marker without a closing line. -/
theorem extract_append_behind_bad_opening :
    let front := ['"', '"', '"', 'x', '\n', '"', '"', '"', '\n']
    let rest := ['"', '"', '"', '"', '\n', ' ', 'a', '\n', ' ', '"', '"', '"', '"', '\n',
      '"', '"', '"']
    let reader : Reader := ⟨.standard, [FormerReading.observer .unnamed 4], .tolerant⟩
    let block : Block := ⟨4, [], [⟨[' ', 'a'], .lineFeed, 14⟩], [' '], '"', 9, 22⟩
    reader.listener.ReturnsNormally ∧
      (∀ observer ∈ reader.observers, observer.ReturnsNormally ∧ observer.IsRelative) ∧
      '\n' ∉ reader.dialect.quotes ∧ Text.WholeLines front ∧ RunsOut reader.dialect front ∧
      (reader.extract (front ++ rest) none).events =
        [.badOpening (.strayText 3), .issue (FormerReading.warning .unnamed block),
          .literal ⟨['a'], block⟩, .unterminated (.unterminated 23 26)] := by
  intro front rest reader block
  have calm : reader.listener.ReturnsNormally := Listener.returnsNormally_tolerant
  have relative : ∀ observer ∈ reader.observers,
      observer.ReturnsNormally ∧ observer.IsRelative := by
    intro observer member
    rw [List.mem_singleton.mp member]
    exact ⟨Observer.returnsNormally_reporting _, FormerReading.isRelative_observer .unnamed 4⟩
  have noLineFeed : '\n' ∉ reader.dialect.quotes := by decide
  have whole : Text.WholeLines front := .inr rfl
  have next : Region.Next .standard front 0 ⟨0, some 8, .badOpening (.strayText 3)⟩ :=
    { explained := .badOpening (by decide +kernel) (by decide +kernel)
      whole := ⟨'"', by decide, 3, by decide, runAt_iff_leadingRun_eq.mpr (by decide),
        fun before first => absurd first (Nat.zero_ne_add_one before)⟩
      ahead := Nat.le_refl 0
      free := fun position _ before => absurd before (Nat.not_lt_zero position) }
  have runsOut : RunsOut reader.dialect front := by
    refine ⟨[⟨0, some 8, .badOpening (.strayText 3)⟩],
      Partition.cons next rfl (next.explained.regionEnd rfl) (Partition.nil ?_), by simp⟩
    intro position behind _
    exact not_tripleAt_of_nextOpening?_drop_eq_none (by decide) position behind
  have frontAttempts : attempts .standard front = [.badOpening (.strayText 3)] := by
    decide +kernel
  have restAttempts : attempts .standard rest =
      [.literal ⟨['a'], ⟨4, [], [⟨[' ', 'a'], .lineFeed, 5⟩], [' '], '"', 0, 13⟩⟩,
        .unterminated (.unterminated 14 17)] := by
    decide +kernel
  refine ⟨calm, relative, noLineFeed, whole, runsOut, ?_⟩
  have composed := (extract_append rest calm (fun observer member => (relative observer member).1)
    noLineFeed whole runsOut).2.2.1 (fun observer member => (relative observer member).2)
  rw [composed]
  unfold Reader.extract
  rw [frontAttempts, restAttempts]
  rfl

/-- An observer that reports a literal at the very beginning of a text and no other.  Behind a
line feed the same literal comes without its issue. -/
theorem not_extract_append_of_place_observer :
    let observer : Observer := .reporting fun block =>
      if block.start = 0 then [FormerReading.warning .unnamed block] else []
    let reader : Reader := ⟨.standard, [observer], .tolerant⟩
    let front : Text := ['\n']
    let rest := ['"', '"', '"', '"', '\n', '"', '"', '"', '"']
    let block : Block := ⟨4, [], [], [], '"', 1, 10⟩
    reader.listener.ReturnsNormally ∧
      (∀ observer ∈ reader.observers, observer.ReturnsNormally) ∧
      '\n' ∉ reader.dialect.quotes ∧ front.WholeLines ∧ RunsOut reader.dialect front ∧
      (reader.extract (front ++ rest) none).events = [.literal ⟨[], block⟩] ∧
      (reader.extract front none).events ++
          (reader.extract rest none).events.map (Event.move front.length) =
        [.issue (FormerReading.warning .unnamed block), .literal ⟨[], block⟩] ∧
      (reader.extract (front ++ rest) none).events ≠
        (reader.extract front none).events ++
          (reader.extract rest none).events.map (Event.move front.length) := by
  intro observer reader front rest block
  have quiet : ∀ observer ∈ reader.observers, observer.ReturnsNormally := by
    intro observer member
    rw [List.mem_singleton.mp member]
    exact Observer.returnsNormally_reporting _
  have runsOut : RunsOut reader.dialect front := by
    refine ⟨[], Partition.nil ?_, List.forall_mem_nil _⟩
    intro position behind _
    exact not_tripleAt_of_nextOpening?_drop_eq_none (by decide) position behind
  have joined : (reader.extract (front ++ rest) none).events = [.literal ⟨[], block⟩] := by
    decide +kernel
  have apart : (reader.extract front none).events ++
      (reader.extract rest none).events.map (Event.move front.length) =
        [.issue (FormerReading.warning .unnamed block), .literal ⟨[], block⟩] := by
    decide +kernel
  refine ⟨Listener.returnsNormally_tolerant, quiet, by decide, .inr rfl, runsOut, joined, apart,
    ?_⟩
  rw [joined, apart]
  simp

end Verbatim
