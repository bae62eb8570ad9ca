import Verbatim.Proofs.Composition
import Verbatim.Proofs.Feeding
import Verbatim.Proofs.StartingAfresh

/-!
# A session and its text

At a prompt a literal is looked for where a line begins, and the search begins anew once
one was found.  In a text it is looked for everywhere.  `session_agrees_with_extract` says
that the two find the same, as long as nothing but literals is typed: what a session finds,
moved to where it stands in all that was typed, is what an extraction of the whole finds.

The lines of a session that have had their answer are whole lines in front of those that
are pending.  So each answer is a region of the whole text, and the regions of a session
make a partition of it.
-/

namespace Verbatim

/-- What both a session and an extraction may find. -/
inductive Finding where
  | literal (literal : Literal)
  | misindented (malformation : Malformation)
  deriving DecidableEq, Repr

def Finding.move (distance : Int) : Finding → Finding
  | .literal found => .literal (found.move distance)
  | .misindented malformation => .misindented (malformation.move distance)

def Event.finding? : Event → Option Finding
  | .literal found => some (.literal found)
  | .misindented malformation _ => some (.misindented malformation)
  | _ => none

def Feeding.finding? (feeding : Feeding) : Option Finding :=
  match feeding.result with
  | .ok (some found) => some (.literal found)
  | .error (.malformed (.misindented line position)) =>
      some (.misindented (.misindented line position))
  | _ => none

theorem Event.finding?_move (distance : Int) (event : Event) :
    (event.move distance).finding? = event.finding?.map (Finding.move distance) := by
  cases event <;> rfl

namespace PendingInput

/-- One line of a session: how much was typed before the first of the lines that it is
read with, these lines, and what came of it. -/
structure Turn where
  origin : Nat
  gathered : PendingInput
  feeding : Feeding

/-- The lines are fed one after another, and each marker is looked for behind the
whitespace of its line. -/
def session (reader : Reader) (pending : PendingInput) (origin : Nat) : List Text → List Turn
  | [] => []
  | line :: later =>
      let gathered := pending.gather reader.dialect line none
      let feeding := pending.feed reader line none
      ⟨origin, gathered, feeding⟩ ::
        session reader feeding.next
          (if feeding.next.awaitsMore then origin else origin + gathered.text.length) later

/-- The calls that make up a session. -/
def typed (lines : List Text) : List Call :=
  lines.map fun line => .feed line none

/-- What a turn finds, where it stands in all that was typed. -/
def Turn.finding? (turn : Turn) : Option Finding :=
  turn.feeding.finding?.map (Finding.move turn.origin)

/-- A turn asks for more, or it comes to a literal, good or misindented, without the
beginning of another one behind its closing marker. -/
structure Turn.Orderly (dialect : Dialect) (turn : Turn) : Prop where
  answered : (∃ answer, turn.feeding.result = .ok answer) ∨
    ∃ line position, turn.feeding.result = .error (.malformed (.misindented line position))
  clear : ∀ block, scan dialect turn.gathered.text turn.gathered.offset = .ok block →
    FreeOfMarkers dialect.quotes turn.gathered.text block.finish.toNat turn.gathered.text.length

/-- What an extraction reports on the lines that are pending at the end of a text with so
many characters. -/
def unfinished (pending : PendingInput) (length : Nat) : List Event :=
  if pending.awaitsMore then
    [.unterminated (.unterminated (length - pending.text.length + pending.offset) length)]
  else []

/-- Whole lines with nothing but whitespace before the offset. -/
structure Indented (dialect : Dialect) (pending : PendingInput) (offset : Nat) : Prop where
  offset_eq : pending.offset = offset
  ends : pending.text.EndsLine
  within : offset ≤ pending.text.length
  blank : ∀ char ∈ pending.text.take offset, dialect.isWhitespace char = true

/-- Lines that leave a literal unclosed. -/
structure Waits (dialect : Dialect) (pending : PendingInput) (offset : Nat) : Prop where
  indented : pending.Indented dialect offset
  awaits : pending.awaitsMore = true
  unclosed : scan dialect pending.text offset =
    .error (.malformed (.unterminated offset pending.text.length))

section Gathering

variable {dialect : Dialect} {pending : PendingInput} {line : Text} {offset : Nat}

theorem text_gather (pending : PendingInput) (dialect : Dialect) (line : Text)
    (offset? : Option Int) :
    (pending.gather dialect line offset?).text = pending.text ++ line := by
  simp [text, gather]

theorem text_gather_fresh (dialect : Dialect) (line : Text) (offset? : Option Int) :
    (fresh.gather dialect line offset?).text = line :=
  (text_gather fresh dialect line offset?).trans (List.nil_append line)

theorem awaitsMore_fresh : fresh.awaitsMore = false :=
  rfl

/-- The whitespace that a first line begins with. -/
theorem indented_gather_fresh (ends : line.EndsLine) :
    (fresh.gather dialect line none).Indented dialect (indentationWidth dialect line) := by
  have blanks : line.takeWhile dialect.isWhitespace <+: line := List.takeWhile_prefix _
  constructor
  case offset_eq => rfl
  case ends =>
    rw [text_gather_fresh]
    exact ends
  case within =>
    rw [text_gather_fresh]
    exact blanks.length_le
  case blank =>
    rw [text_gather_fresh]
    intro char member
    unfold indentationWidth at member
    rw [← List.prefix_iff_eq_take.mp blanks] at member
    exact List.mem_takeWhile_imp member

/-- Further lines do not matter to what stands before the offset. -/
theorem Indented.gather (indented : pending.Indented dialect offset)
    (awaits : pending.awaitsMore = true) (ends : line.EndsLine) :
    (pending.gather dialect line none).Indented dialect offset where
  offset_eq := by
    have some_line : pending.lines ≠ [] := by simpa [awaitsMore] using awaits
    simpa [PendingInput.gather, some_line] using indented.offset_eq
  ends := by
    rw [text_gather]
    exact ends.append pending.text
  within := by
    rw [text_gather, List.length_append]
    exact Nat.le_add_right_of_le indented.within
  blank := by
    rw [text_gather, List.take_append_of_le_length indented.within]
    exact indented.blank

theorem Indented.freeOfMarkers (indented : pending.Indented dialect offset)
    (apart : ∀ quote ∈ dialect.quotes, dialect.isWhitespace quote = false) :
    FreeOfMarkers dialect.quotes pending.text 0 offset := by
  rintro position _ before ⟨quote, isQuote, found, _⟩
  have member : quote ∈ pending.text.take offset := by
    apply List.mem_of_getElem?
    rw [List.getElem?_take_of_lt before]
    exact found
  have blank := indented.blank quote member
  rw [apart quote isQuote] at blank
  cases blank

/-- The marker behind the whitespace is the first one. -/
theorem Indented.next (indented : pending.Indented dialect offset)
    (apart : ∀ quote ∈ dialect.quotes, dialect.isWhitespace quote = false)
    {quote : Char} {length : Nat} {rest : Text}
    (marker : MarkerAt dialect pending.text offset quote length rest)
    {stop? : Option Nat} {event : Event}
    (explained : Region.Explained dialect pending.text ⟨offset, stop?, event⟩) :
    Region.Next dialect pending.text 0 ⟨offset, stop?, event⟩ where
  explained := explained
  whole := by
    apply WholeMarkerAt.of_runBreak (runBreak_zero pending.text) (Nat.zero_le offset)
      (indented.freeOfMarkers apart)
    · simpa [Dialect.isQuote] using marker.isQuote
    · exact marker.longEnough
    · exact runAt_iff_drop_eq.mpr ⟨rest, marker.shape, marker.boundary⟩
  ahead := Nat.zero_le offset
  free := indented.freeOfMarkers apart

theorem Waits.next (waits : pending.Waits dialect offset)
    (apart : ∀ quote ∈ dialect.quotes, dialect.isWhitespace quote = false) :
    Region.Next dialect pending.text 0
      ⟨offset, none, .unterminated (.unterminated offset pending.text.length)⟩ := by
  obtain ⟨⟨quote, length, rest, opening, later, marker, _⟩, _⟩ :=
    scan_eq_unterminated_iff.mp waits.unclosed
  exact waits.indented.next apart marker (.unterminated waits.unclosed)

end Gathering

section Turns

variable {reader : Reader} {pending : PendingInput} {line : Text} {offset : Nat}

/-- What a line comes to that completes a block. -/
structure Completes (dialect : Dialect) (gathered : PendingInput) (feeding : Feeding)
    (offset stop : Nat) (event : Event) (finding : Finding) : Prop where
  scanned : ∃ block, scan dialect gathered.text offset = .ok block ∧ block.finish = stop
  explained : Region.Explained dialect gathered.text ⟨offset, some stop, event⟩
  reported : event.finding? = some finding
  found : feeding.finding? = some finding
  next : feeding.next = fresh

/-- A misindented literal leaves nothing pending. -/
theorem next_feed_of_misindented {offset? : Option Int} {number : Nat} {position : Int}
    (rejected : (pending.feed reader line offset?).result =
      .error (.malformed (.misindented number position))) :
    (pending.feed reader line offset?).next = fresh := by
  rcases feed_cases reader pending line offset? with
    ⟨literal, found, _⟩ | ⟨asks, _⟩ | ⟨failure, failed, next⟩
  · rw [rejected] at found
    cases found
  · rw [rejected] at asks
    cases asks
  · rw [rejected] at failed
    cases failed
    exact next

/-- An orderly line completes a block, or all that was gathered goes on waiting. -/
theorem completes_or_waits (accepts : reader.listener.AcceptsIssues)
    (quiet : ∀ observer ∈ reader.observers, observer.ReturnsNormally)
    (indented : (pending.gather reader.dialect line none).Indented reader.dialect offset)
    (answered : (∃ answer, (pending.feed reader line none).result = .ok answer) ∨
      ∃ number position, (pending.feed reader line none).result =
        .error (.malformed (.misindented number position))) :
    (∃ stop event finding, Completes reader.dialect (pending.gather reader.dialect line none)
        (pending.feed reader line none) offset stop event finding) ∨
      ((pending.gather reader.dialect line none).Waits reader.dialect offset ∧
        (pending.feed reader line none).finding? = none ∧
        (pending.feed reader line none).next = pending.gather reader.dialect line none) := by
  have attempted : attempt reader (pending.gather reader.dialect line none) =
      readLiteral reader.dialect (pending.gather reader.dialect line none).text offset := by
    unfold attempt
    rw [indented.offset_eq]
  rcases readLiteral_cases reader.dialect (pending.gather reader.dialect line none).text offset with
    ⟨failure, scanned, failed⟩ | ⟨block, scanned, ⟨value, valued, found⟩ | rejection⟩
  · rw [failed] at attempted
    by_cases asks : ∃ start finish, failure = .malformed (.unterminated start finish)
    · obtain ⟨start, finish, rfl⟩ := asks
      obtain ⟨_, rfl, rfl⟩ := scan_eq_unterminated_iff.mp scanned
      rw [feed_of_unterminated attempted]
      exact .inr ⟨⟨indented, awaitsMore_gather reader pending line none, scanned⟩, rfl, rfl⟩
    · have final : ∀ start finish, failure ≠ .malformed (.unterminated start finish) :=
        fun start finish same => asks ⟨start, finish, same⟩
      rw [(feed_of_error attempted final).2] at answered
      rcases answered with ⟨answer, none⟩ | ⟨number, position, same⟩
      · cases none
      · rw [Except.error.inj same] at scanned
        exact absurd scanned (scan_ne_misindented number position)
  · rw [found] at attempted
    obtain ⟨stop, finished, _⟩ := exists_regionEnd_of_scan_eq_ok scanned
    rw [feed_of_ok accepts quiet attempted]
    exact .inl ⟨stop, _, _, ⟨⟨block, scanned, finished⟩, .literal scanned valued finished,
      rfl, rfl, rfl⟩⟩
  · obtain ⟨number, position, valued, rejected⟩ := rejection
    rw [rejected] at attempted
    obtain ⟨stop, finished, _⟩ := exists_regionEnd_of_scan_eq_ok scanned
    have result := (feed_of_error attempted (by simp)).2
    refine .inl ⟨stop, _, .misindented (.misindented number position),
      ⟨⟨block, scanned, finished⟩, .misindented scanned valued finished, rfl, ?_, ?_⟩⟩
    · simp only [Feeding.finding?, result]
    · exact next_feed_of_misindented result

end Turns

section Regions

variable {dialect : Dialect} {front more : Text} {pending : PendingInput} {offset : Nat}

/-- A block that is complete is a region of all that was typed, and the regions of what
was typed behind it follow. -/
theorem Completes.partition_cons {feeding : Feeding} {stop : Nat} {event : Event}
    {finding : Finding} (completes : Completes dialect pending feeding offset stop event finding)
    (indented : pending.Indented dialect offset)
    (apart : ∀ quote ∈ dialect.quotes, dialect.isWhitespace quote = false)
    (noLineFeed : '\n' ∉ dialect.quotes) (whole : front.WholeLines)
    (clear : FreeOfMarkers dialect.quotes pending.text stop pending.text.length)
    {later : List Region}
    (onward : Partition dialect (front ++ pending.text ++ more) (front ++ pending.text).length
      later) :
    Partition dialect (front ++ pending.text ++ more) front.length
      (Region.move front.length ⟨offset, some stop, event⟩ :: later) := by
  obtain ⟨block, scanned, _⟩ := completes.scanned
  obtain ⟨layout, following, shape, _⟩ := scan_eq_ok_iff.mp scanned
  have next := indented.next apart (layout.markerAt shape) completes.explained
  have placed := (next.append rfl indented.ends noLineFeed more).prepend whole noLineFeed
  have free := (clear.append indented.ends (Nat.le_refl _) noLineFeed more).prepend front
  have within := (completes.explained.regionEnd rfl).within
  rw [Nat.zero_add, ← List.append_assoc] at placed
  rw [← List.append_assoc, Nat.add_comm pending.text.length, ← List.length_append] at free
  apply Partition.cons placed rfl (placed.explained.regionEnd rfl)
  apply onward.after_free _ free
  rw [List.length_append]
  omega

/-- Lines that wait to the end are the last region of all that was typed. -/
theorem Waits.partition (waits : pending.Waits dialect offset)
    (apart : ∀ quote ∈ dialect.quotes, dialect.isWhitespace quote = false)
    (noLineFeed : '\n' ∉ dialect.quotes) (whole : front.WholeLines) :
    ∃ regions, Partition dialect (front ++ pending.text) front.length regions ∧
      regions.map Region.event = pending.unfinished (front ++ pending.text).length := by
  have next := (waits.next apart).prepend whole noLineFeed
  rw [Nat.zero_add] at next
  refine ⟨_, Partition.unclosed next rfl, ?_⟩
  have start : (((front ++ pending.text).length : Nat) : Int) - pending.text.length +
      pending.offset = offset + front.length := by
    rw [waits.indented.offset_eq, List.length_append]
    omega
  have finish : (pending.text.length : Int) + front.length =
      ((front ++ pending.text).length : Nat) := by
    rw [List.length_append]
    omega
  unfold unfinished
  rw [if_pos waits.awaits, start, ← finish]
  rfl

end Regions

theorem session_cons (reader : Reader) (pending : PendingInput) (origin : Nat) (line : Text)
    (later : List Text) :
    pending.session reader origin (line :: later) =
      ⟨origin, pending.gather reader.dialect line none, pending.feed reader line none⟩ ::
        (pending.feed reader line none).next.session reader
          (if (pending.feed reader line none).next.awaitsMore then origin
            else origin + (pending.gather reader.dialect line none).text.length) later :=
  rfl

theorem after_typed_cons (reader : Reader) (pending : PendingInput) (line : Text)
    (later : List Text) :
    pending.after reader (typed (line :: later)) =
      (pending.feed reader line none).next.after reader (typed later) :=
  rfl

/-- Some turns find what a text holds from a place on, up to what is left pending. -/
def FindAll (dialect : Dialect) (text : Text) (start : Nat) (turns : List Turn)
    (left : PendingInput) : Prop :=
  ∃ regions reports, Partition dialect text start regions ∧
    regions.map Region.event = reports ++ left.unfinished text.length ∧
    reports.map Event.finding? = (turns.filterMap Turn.finding?).map some

section Steps

variable {dialect : Dialect} {front more : Text} {pending left : PendingInput}
variable {feeding : Feeding} {turns : List Turn}

theorem findAll_fresh (dialect : Dialect) (front : Text) :
    FindAll dialect front front.length [] fresh := by
  refine ⟨[], [], Partition.nil ?_, rfl, rfl⟩
  intro position behind before
  omega

/-- A turn that asks for more adds nothing. -/
theorem FindAll.cons_of_finding?_eq_none {text : Text} {start origin : Nat}
    (all : FindAll dialect text start turns left) (silent : feeding.finding? = none) :
    FindAll dialect text start (⟨origin, pending, feeding⟩ :: turns) left := by
  obtain ⟨regions, reports, partition, events, findings⟩ := all
  refine ⟨regions, reports, partition, events, ?_⟩
  have nothing : Turn.finding? ⟨origin, pending, feeding⟩ = none := by
    rw [Turn.finding?, silent]
    rfl
  rw [findings, List.filterMap_cons_none nothing]

/-- A turn that completes a block adds its region. -/
theorem FindAll.cons_of_completes {offset stop : Nat} {event : Event} {finding : Finding}
    (all : FindAll dialect (front ++ pending.text ++ more) (front ++ pending.text).length
      turns left)
    (completes : Completes dialect pending feeding offset stop event finding)
    (indented : pending.Indented dialect offset)
    (apart : ∀ quote ∈ dialect.quotes, dialect.isWhitespace quote = false)
    (noLineFeed : '\n' ∉ dialect.quotes) (whole : front.WholeLines)
    (clear : FreeOfMarkers dialect.quotes pending.text stop pending.text.length) :
    FindAll dialect (front ++ pending.text ++ more) front.length
      (⟨front.length, pending, feeding⟩ :: turns) left := by
  obtain ⟨regions, reports, partition, events, findings⟩ := all
  refine ⟨_, event.move front.length :: reports,
    completes.partition_cons indented apart noLineFeed whole clear partition, ?_, ?_⟩
  · rw [List.map_cons, events]
    rfl
  · have answer : Turn.finding? ⟨front.length, pending, feeding⟩ =
        some (finding.move front.length) := by
      rw [Turn.finding?, completes.found]
      rfl
    rw [List.map_cons, findings, List.filterMap_cons_some answer, Event.finding?_move,
      completes.reported]
    rfl

end Steps

/-- From a place behind whole lines on, where nothing is pending or what is pending
waits, a session finds all that was typed. -/
theorem findAll_session {reader : Reader}
    (apart : ∀ quote ∈ reader.dialect.quotes, reader.dialect.isWhitespace quote = false)
    (noLineFeed : '\n' ∉ reader.dialect.quotes) (accepts : reader.listener.AcceptsIssues)
    (quiet : ∀ observer ∈ reader.observers, observer.ReturnsNormally)
    {front : Text} (whole : front.WholeLines) {pending : PendingInput}
    (ready : pending = fresh ∨ ∃ offset, pending.Waits reader.dialect offset)
    {lines : List Text} (ends : ∀ line ∈ lines, Text.EndsLine line)
    (orderly : ∀ turn ∈ pending.session reader front.length lines, turn.Orderly reader.dialect) :
    FindAll reader.dialect (front ++ pending.text ++ lines.flatten) front.length
      (pending.session reader front.length lines) (pending.after reader (typed lines)) := by
  -- A line that asks for more is gathered, and a line that completes a block goes with
  -- the lines in front.
  induction lines generalizing front pending with
  | nil =>
      rw [List.flatten_nil, List.append_nil]
      rcases ready with rfl | ⟨offset, waits⟩
      · have nothing : front ++ fresh.text = front := List.append_nil front
        rw [nothing]
        exact findAll_fresh reader.dialect front
      · obtain ⟨regions, partition, events⟩ := waits.partition apart noLineFeed whole
        exact ⟨regions, [], partition, events, rfl⟩
  | cons line later induction =>
      obtain ⟨lineEnds, laterEnds⟩ := List.forall_mem_cons.mp ends
      obtain ⟨offset, indented⟩ : ∃ offset,
          (pending.gather reader.dialect line none).Indented reader.dialect offset := by
        rcases ready with rfl | ⟨offset, waits⟩
        · exact ⟨_, indented_gather_fresh lineEnds⟩
        · exact ⟨offset, waits.indented.gather waits.awaits lineEnds⟩
      have text : front ++ pending.text ++ (line :: later).flatten =
          front ++ (pending.gather reader.dialect line none).text ++ later.flatten := by
        rw [text_gather, List.flatten_cons]
        simp only [List.append_assoc]
      rw [session_cons] at orderly
      obtain ⟨turn, turns⟩ := List.forall_mem_cons.mp orderly
      rw [text, session_cons, after_typed_cons]
      rcases completes_or_waits accepts quiet indented turn.answered with
        ⟨stop, event, finding, completes⟩ | ⟨waits, silent, next⟩
      · rw [completes.next] at turns ⊢
        simp only [awaitsMore_fresh, Bool.false_eq_true, if_false, ← List.length_append] at turns ⊢
        obtain ⟨block, scanned, finished⟩ := completes.scanned
        have clear := turn.clear block (by rw [indented.offset_eq]; exact scanned)
        rw [finished, Int.toNat_natCast] at clear
        have all := induction (.inr (indented.ends.append front)) (.inl rfl) laterEnds turns
        have nothing : front ++ (pending.gather reader.dialect line none).text ++ fresh.text =
            front ++ (pending.gather reader.dialect line none).text :=
          List.append_nil _
        rw [nothing] at all
        exact all.cons_of_completes completes indented apart noLineFeed whole clear
      · rw [next] at turns ⊢
        simp only [waits.awaits, if_true] at turns ⊢
        exact (induction whole (.inr ⟨offset, waits⟩) laterEnds turns).cons_of_finding?_eq_none
          silent

section Extracting

variable {reader : Reader} {text : Text} {turns : List Turn} {left : PendingInput}

theorem finding?_eq_none_of_not_isOutcome {event : Event} (issue : event.isOutcome = false) :
    event.finding? = none := by
  cases event <;> first | rfl | cases issue

theorem filterMap_finding?_filter_isOutcome (events : List Event) :
    (events.filter Event.isOutcome).filterMap Event.finding? =
      events.filterMap Event.finding? := by
  rw [List.filterMap_filter]
  apply List.filterMap_congr
  intro event _
  cases outcome : event.isOutcome with
  | true => rfl
  | false => exact (finding?_eq_none_of_not_isOutcome outcome).symm

theorem finding?_of_mem_unfinished {length : Nat} {event : Event}
    (member : event ∈ left.unfinished length) : event.finding? = none := by
  unfold unfinished at member
  split at member
  · rw [List.mem_singleton.mp member]
    rfl
  · cases member

/-- Lines are left unfinished if they wait for more. -/
theorem exists_unterminated_mem_unfinished_iff (length : Nat) :
    (∃ malformation, .unterminated malformation ∈ left.unfinished length) ↔
      left.awaitsMore = true := by
  unfold unfinished
  split
  · next awaits => simp [awaits]
  · next nothing => simp [nothing]

/-- What an extraction that keeps a record has to report, when some turns find it all. -/
theorem FindAll.outcomes (all : FindAll reader.dialect text 0 turns left)
    (calm : reader.listener.ReturnsNormally) (records : reader.listener.records = true)
    (quiet : ∀ observer ∈ reader.observers, observer.ReturnsNormally) :
    (reader.extract text none).ending = .exhausted ∧
      ∃ reports, (reader.extract text none).events.filter Event.isOutcome =
          reports ++ left.unfinished text.length ∧
        reports.map Event.finding? = (turns.filterMap Turn.finding?).map some := by
  obtain ⟨regions, reports, partition, events, findings⟩ := all
  obtain ⟨ended, outcomes⟩ :=
    Reader.pursue_none_of_reports calm quiet partition.event?_attemptsFrom
  have entered : (regions.map Region.event).filter reader.listener.enters =
      regions.map Region.event := by
    apply List.filter_eq_self.mpr
    intro event _
    cases event <;> first | rfl | exact records
  rw [entered, events] at outcomes
  exact ⟨ended, reports, outcomes, findings⟩

end Extracting

/-- A session in which nothing but literals is typed finds what an extraction of all that
was typed finds: literals and misindented ones, in the same order and where they stand in
the whole.  The extraction has nothing else to report, but for a literal that is still
pending. -/
theorem session_agrees_with_extract {reader batch : Reader} {lines : List Text}
    (apart : ∀ quote ∈ reader.dialect.quotes, reader.dialect.isWhitespace quote = false)
    (noLineFeed : '\n' ∉ reader.dialect.quotes) (accepts : reader.listener.AcceptsIssues)
    (quiet : ∀ observer ∈ reader.observers, observer.ReturnsNormally)
    (ends : ∀ line ∈ lines, Text.EndsLine line)
    (orderly : ∀ turn ∈ fresh.session reader 0 lines, turn.Orderly reader.dialect)
    (sameDialect : batch.dialect = reader.dialect)
    (calm : batch.listener.ReturnsNormally) (records : batch.listener.records = true)
    (batchQuiet : ∀ observer ∈ batch.observers, observer.ReturnsNormally) :
    let turns := fresh.session reader 0 lines
    let left := fresh.after reader (typed lines)
    let extraction := batch.extract lines.flatten none
    extraction.ending = .exhausted ∧
      extraction.events.filterMap Event.finding? = turns.filterMap Turn.finding? ∧
      (∃ reports, extraction.events.filter Event.isOutcome =
          reports ++ left.unfinished lines.flatten.length ∧
        ∀ report ∈ reports, report.finding? ≠ none) ∧
      ((∃ malformation, .unterminated malformation ∈ extraction.events) ↔
        left.awaitsMore = true) := by
  intro turns left extraction
  have all : FindAll batch.dialect lines.flatten 0 turns left := by
    rw [sameDialect]
    have nothing : Text.WholeLines [] := .inl rfl
    exact findAll_session apart noLineFeed accepts quiet nothing (.inl rfl) ends orderly
  obtain ⟨ended, reports, outcomes, findings⟩ := all.outcomes calm records batchQuiet
  have reported : ∀ report ∈ reports, report.finding? ≠ none := by
    intro report member nothing
    have among : none ∈ (turns.filterMap Turn.finding?).map some := by
      rw [← findings, ← nothing]
      exact List.mem_map_of_mem member
    obtain ⟨_, _, impossible⟩ := List.mem_map.mp among
    cases impossible
  refine ⟨ended, ?_, ⟨reports, outcomes, reported⟩, ?_⟩
  · have unfinished : (left.unfinished lines.flatten.length).filterMap Event.finding? = [] :=
      List.filterMap_eq_nil_iff.mpr fun _ member => finding?_of_mem_unfinished member
    calc extraction.events.filterMap Event.finding?
        = (reports ++ left.unfinished lines.flatten.length).filterMap Event.finding? := by
          rw [← outcomes, filterMap_finding?_filter_isOutcome]
      _ = (reports.map Event.finding?).filterMap id := by
          rw [List.filterMap_append, unfinished, List.append_nil, List.filterMap_map]
          rfl
      _ = turns.filterMap Turn.finding? := by
          rw [findings, List.filterMap_map]
          exact List.filterMap_some
  · have same : ∀ malformation, .unterminated malformation ∈ extraction.events ↔
        .unterminated malformation ∈ left.unfinished lines.flatten.length := by
      intro malformation
      have noReport : .unterminated malformation ∉ reports :=
        fun member => reported _ member rfl
      have outcome : .unterminated malformation ∈ extraction.events ↔
          .unterminated malformation ∈ extraction.events.filter Event.isOutcome := by
        simp [Event.isOutcome]
      rw [outcome, outcomes]
      simp [noReport]
    rw [← exists_unterminated_mem_unfinished_iff lines.flatten.length]
    exact exists_congr same

/-- A check for orderly turns: no marker is found behind a block. -/
def Turn.isOrderly (dialect : Dialect) (turn : Turn) : Bool :=
  (match turn.feeding.result with
    | .ok _ | .error (.malformed (.misindented _ _)) => true
    | .error _ => false) &&
  match scan dialect turn.gathered.text turn.gathered.offset with
  | .ok block =>
      (nextOpening? dialect.quotes block.finish.toNat
        (turn.gathered.text.drop block.finish.toNat)).isNone
  | .error _ => true

theorem Turn.orderly_of_isOrderly {dialect : Dialect} {turn : Turn}
    (checked : turn.isOrderly dialect = true) : turn.Orderly dialect := by
  unfold isOrderly at checked
  obtain ⟨result, clear⟩ := Bool.and_eq_true_iff.mp checked
  constructor
  · split at result
    · next answer answered => exact .inl ⟨answer, answered⟩
    · next number position answered => exact .inr ⟨number, position, answered⟩
    · cases result
  · intro block scanned position behind _
    rw [scanned] at clear
    exact not_tripleAt_of_nextOpening?_drop_eq_none (Option.isNone_iff_eq_none.mp clear)
      position behind

/-- A literal with an issue and two quotes behind it, a misindented one, an empty one, and
one that is still pending. -/
theorem session_agrees_with_extract_until_pending :
    let lines := [[' ', ' ', '"', '"', '"', '"', '\n'], [' ', ' ', 'a', '\n'],
      [' ', '"', '"', '"', '"', ' ', '"', '"', '\n'],
      ['"', '"', '"', '\n'], ['b', '\n'], ['\t', '"', '"', '"', 'x', '\n'],
      ['"', '"', '"', '\n'], ['"', '"', '"', '\r', '\n'],
      [' ', '"', '"', '"', ' ', '\n'], ['c', '\n']]
    let observers := [FormerReading.observer .unnamed 4]
    let reader : Reader := ⟨.standard, observers, .strict⟩
    let batch : Reader := ⟨.standard, observers, .tolerant⟩
    let findings : List Finding :=
      [.literal ⟨[' ', 'a'], ⟨4, [], [⟨[' ', ' ', 'a'], .lineFeed, 7⟩], [' '], '"', 2, 16⟩⟩,
        .misindented (.misindented 0 24),
        .literal ⟨[], ⟨3, [], [], [], '"', 32, 39⟩⟩]
    reader.listener.AcceptsIssues ∧
      (∀ turn ∈ fresh.session reader 0 lines, turn.Orderly .standard) ∧
      (fresh.session reader 0 lines).filterMap Turn.finding? = findings ∧
      (batch.extract lines.flatten none).events.filterMap Event.finding? = findings ∧
      ∃ malformation, .unterminated malformation ∈ (batch.extract lines.flatten none).events := by
  intro lines observers reader batch findings
  have accepts : reader.listener.AcceptsIssues := Listener.acceptsIssues_strict
  have quiet : ∀ observer ∈ observers, observer.ReturnsNormally := by
    intro observer member
    rw [List.mem_singleton.mp member]
    exact Observer.returnsNormally_reporting _
  have orderly : ∀ turn ∈ fresh.session reader 0 lines, turn.Orderly .standard := by
    have checked : (fresh.session reader 0 lines).all (Turn.isOrderly .standard) = true := by
      decide +kernel
    intro turn member
    exact Turn.orderly_of_isOrderly (List.all_eq_true.mp checked turn member)
  have found : (fresh.session reader 0 lines).filterMap Turn.finding? = findings := by
    decide +kernel
  have apart : ∀ quote ∈ reader.dialect.quotes,
      reader.dialect.isWhitespace quote = false := by
    intro quote member
    rw [List.mem_singleton.mp member]
    rfl
  have ends : ∀ line ∈ lines, Text.EndsLine line := by decide +kernel
  obtain ⟨_, same, _, unterminated⟩ := @session_agrees_with_extract reader batch lines
    apart (by decide) accepts quiet ends orderly rfl Listener.returnsNormally_tolerant rfl quiet
  exact ⟨accepts, orderly, found, same.trans found, unterminated.mpr (by decide +kernel)⟩

end PendingInput

end Verbatim
