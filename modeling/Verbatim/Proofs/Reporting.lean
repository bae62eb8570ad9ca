import Mathlib.Data.List.Forall2
import Verbatim.Command.Extraction
import Verbatim.Proofs.Explanations
import Verbatim.Proofs.Extension
import Verbatim.Proofs.ListingReaders
import Verbatim.Proofs.Notices
import Verbatim.Proofs.Observing
import Verbatim.Proofs.Reading
import Verbatim.Proofs.Trouble

/-!
# Options about reporting do not change what is found

An extraction from a file comes down to the events of one run, in which nobody looks on
and nothing is raised.  `extraction_eq` gives the outcome in terms of these events, so it
can be read off which option has a say in which part of it: the listing in the output, the
warnings among the diagnostics, the malformations in the status.

What is printed is spelled out.  `Source.Complains` and `Source.Notices` say which text an
event deserves.  A plain listing is written down in full, and a JSON listing is what a reader
of JSON makes of it.  A listing points at the literals that were found: `Found.Pinpoints` says
so in terms of the lines that cutting the document at its line feeds gives.
-/

namespace Verbatim

theorem Text.head?_firstLine_ne {text : Text} {char : Char} (apart : text.head? ≠ some char) :
    text.firstLine.head? ≠ some char := by
  unfold firstLine
  rw [List.head?_takeWhile]
  intro first
  exact apart (Option.filter_eq_some_iff.mp first).1

/-- A marker is a run on its line, and no quote before it is on that line. -/
theorem MarkerAt.exists_line {dialect : Dialect} {document : Text} {start : Nat} {quote : Char}
    {length : Nat} {rest : Text} (marker : MarkerAt dialect document start quote length rest)
    (notLineFeed : quote ≠ '\n') (whole : WholeMarkerAt dialect.quotes document start)
    (fileName? : Option Text) :
    ∃ (row column : Nat) (physicalLine : Text),
      (⟨document, fileName?, 1⟩ : Source).locate start = (1 + (row : Int), (column : Int)) ∧
      (document.splitOn '\n')[row]? = some physicalLine ∧
      RunAt physicalLine column quote length ∧
      ∀ before, column = before + 1 → physicalLine[before]? ≠ some quote := by
  obtain ⟨row, front, located, ending, found⟩ :=
    @Source.exists_line_of_locate ⟨document, fileName?, 1⟩ start
      (Nat.le_of_lt marker.offset_lt_length)
  have unbroken : '\n' ∉ List.replicate length quote := by
    intro member
    exact notLineFeed (List.eq_of_mem_replicate member).symm
  rw [marker.shape, Text.firstLine_append unbroken] at found
  refine ⟨row, front.length, _, located, found, ?_, ?_⟩
  · refine runAt_iff_drop_eq.mpr ⟨rest.firstLine, List.drop_left, ?_⟩
    exact Text.head?_firstLine_ne marker.boundary
  · intro before width
    obtain ⟨other, _, more, long, run, apart⟩ := whole
    obtain ⟨above, shape⟩ := ending
    have same : other = quote := by
      have there := run.1 0 (positive_of_longEnough long)
      exact Option.some.inj (there.symm.trans marker.getElem?_offset)
    have position : start = above.length + before + 1 := by
      have lengths := congrArg List.length shape
      rw [List.length_append, List.length_take,
        Nat.min_eq_left (Nat.le_of_lt marker.offset_lt_length)] at lengths
      omega
    have previous : (document.take start)[above.length + before]? = front[before]? := by
      rw [← shape, List.getElem?_append_right (Nat.le_add_right _ _), Nat.add_sub_cancel_left]
    rw [List.getElem?_append_left (by omega), ← previous,
      List.getElem?_take_of_lt (by omega), ← same]
    exact apart _ position

/-- A malformation is worth a complaint in a line of its own, and nothing else is. -/
def Source.Complains (source : Source) (event : Event) (text : Text) : Prop :=
  match event.malformation? with
  | some malformation =>
      ∃ complaint, source.Describes malformation complaint ∧ text = complaint ++ ['\n']
  | none => text = []

/-- A literal with a marker of at least four quotes is worth a warning in a line of its own, and
nothing else is. -/
def Source.Notices (source : Source) (event : Event) (text : Text) : Prop :=
  match event with
  | .literal found =>
      (found.block.markerLength < 4 → text = []) ∧
        (4 ≤ found.block.markerLength →
          ∃ warning, source.WarnsOf found.block warning ∧ text = warning ++ ['\n'])
  | _ => text = []

namespace Command

/-- The events of the document on which nobody looks, and which nothing interrupts. -/
def plainEvents (dialect : Dialect) (document : Text) : List Event :=
  ((⟨dialect, [], .tolerant⟩ : Reader).extract document none).events

theorem isOutcome_of_mem_plainEvents (dialect : Dialect) (document : Text) :
    ∀ event ∈ plainEvents dialect document, event.isOutcome = true :=
  fun event member =>
    @Reader.isOutcome_of_mem_unobserved ⟨dialect, [], .tolerant⟩ none _ event member

/-- The plain events report on regions that partition the document. -/
theorem exists_partition_plainEvents (dialect : Dialect) (document : Text) :
    ∃ regions, Partition dialect document 0 regions ∧
      plainEvents dialect document = regions.map Region.event := by
  obtain ⟨regions, partition, reports⟩ := exists_partition_attempts dialect document
  have outcomes := (@Reader.pursue_none_of_reports ⟨dialect, [], .tolerant⟩
    Listener.returnsNormally_tolerant (List.forall_mem_nil _) _ _ reports).2
  have entered : ∀ event ∈ regions.map Region.event, Listener.tolerant.enters event = true := by
    intro event _
    cases event <;> rfl
  rw [List.filter_eq_self.mpr entered] at outcomes
  have all := isOutcome_of_mem_plainEvents dialect document
  exact ⟨regions, partition, (List.filter_eq_self.mpr all).symm.trans outcomes⟩

/-- What is written about a literal whose marker used to mean something else: a warning
with pictures. -/
def formerReadingNotice (path document : Text) : Event → Text
  | .literal found =>
      if FormerReading.defaultThreshold ≤ found.block.markerLength then
        (FormerReading.warning (.named path) found.block).render
          (some fun _ => ⟨document, some path, 1⟩) ++ ['\n']
      else []
  | _ => []

/-- What is written about an event: the notice if it is asked for, and the complaint if the
event reports a malformation. -/
def Options.remarks (options : Options) (path document : Text) (event : Event) : Text :=
  (if options.formerReadings then formerReadingNotice path document event else []) ++
    diagnostic ⟨document, some path, 1⟩ event

section Announcing

variable {options : Options} {path document : Text}

theorem observers_eq (options : Options) (key : SourceKey) :
    options.observers key = FormerReading.observers
      (if options.formerReadings then [(key, FormerReading.defaultThreshold)] else []) := by
  unfold Options.observers
  cases options.formerReadings <;> rfl

theorem issues_observers (options : Options) (key : SourceKey) (block : Block) :
    observedIssues (options.observers key) block =
      if options.formerReadings ∧ FormerReading.defaultThreshold ≤ block.markerLength then
        [FormerReading.warning key block]
      else [] := by
  rw [observers_eq, FormerReading.observedIssues_observers]
  cases asked : options.formerReadings with
  | false => rfl
  | true =>
      by_cases reached : FormerReading.defaultThreshold ≤ block.markerLength <;>
        simp [FormerReading.warnings, reached]

/-- An event with the issues that come before it: what is written about them, and what else
they tell. -/
theorem announced_event (options : Options) (path document : Text) (event : Event) :
    let announced := Listener.tolerant.announce
      (observedIssues (options.observers (.named path))) event
    announced.flatMap (diagnostic ⟨document, some path, 1⟩) =
        options.remarks path document event ∧
      announced.filterMap literal? = (literal? event).toList ∧
      announced.any tellsOfMalformation = tellsOfMalformation event := by
  cases event with
  | literal found =>
      simp only [Listener.announce, issues_observers]
      by_cases noticed : options.formerReadings = true ∧
          FormerReading.defaultThreshold ≤ found.block.markerLength
      · rw [if_pos noticed]
        refine ⟨?_, rfl, rfl⟩
        simp [Listener.hearIssue, Listener.record, Listener.tolerant, Options.remarks,
          formerReadingNotice, noticed.1, noticed.2, diagnostic]
      · rw [if_neg noticed]
        refine ⟨?_, rfl, rfl⟩
        have silent : (if options.formerReadings then
            formerReadingNotice path document (.literal found) else []) = [] := by
          by_cases asked : options.formerReadings = true
          · have short : ¬ FormerReading.defaultThreshold ≤ found.block.markerLength :=
              fun reached => noticed ⟨asked, reached⟩
            simp [formerReadingNotice, short]
          · simp [asked]
        simp [Options.remarks, silent]
  | _ =>
      simp [Listener.announce, Options.remarks, formerReadingNotice, literal?]

/-- The outcome of an extraction in terms of the plain events. -/
theorem extraction_eq {dialect : Dialect} (valid : options.dialect = .ok dialect)
    (path document : Text) :
    extraction options path document =
      { output := options.listing
          (((plainEvents dialect document).filterMap literal?).map
            (Found.ofLiteral ⟨document, some path, 1⟩))
        diagnostics := (plainEvents dialect document).flatMap (options.remarks path document)
        warnings := []
        completion := .finished
          (if options.strict ∧ (plainEvents dialect document).any tellsOfMalformation then 1
            else 0) } := by
  have quiet : ∀ observer ∈ options.observers (.named path), observer.ReturnsNormally := by
    rw [observers_eq]
    exact FormerReading.returnsNormally_of_mem_observers _
  have ended := @Reader.ending_extract ⟨dialect, options.observers (.named path), .tolerant⟩
    document Listener.returnsNormally_tolerant quiet
  have run : (Reader.extract ⟨dialect, options.observers (.named path), .tolerant⟩ document
      none).events = (plainEvents dialect document).flatMap
        (Listener.tolerant.announce (observedIssues (options.observers (.named path)))) :=
    congrArg Extraction.events (@Reader.pursue_eq_announced
      ⟨dialect, options.observers (.named path), .tolerant⟩ Listener.acceptsIssues_tolerant quiet
      none
      (attempts dialect document))
  have announced := announced_event options path document
  simp only at announced
  unfold extraction
  rw [valid]
  simp only [ended, run, List.filterMap_flatMap, List.flatMap_assoc, List.any_flatMap,
    announced]
  rw [List.filterMap_eq_flatMap_toList]

end Announcing

theorem any_tellsOfMalformation_iff (events : List Event) :
    events.any tellsOfMalformation = true ↔ events.filterMap Event.malformation? ≠ [] := by
  have tells : ∀ event, tellsOfMalformation event = event.malformation?.isSome := by
    intro event
    cases event <;> rfl
  rw [Ne, List.filterMap_eq_nil_iff, List.any_eq_true]
  simp only [tells, Option.isSome_iff_ne_none, not_forall, exists_prop]

/-- What is written about outcomes are the complaints about malformations. -/
theorem flatMap_diagnostic_of_outcomes (source : Source) {events : List Event}
    (outcomes : ∀ event ∈ events, event.isOutcome = true) :
    events.flatMap (diagnostic source) =
      (events.filterMap Event.malformation?).flatMap
        fun malformation => source.explain malformation ++ ['\n'] := by
  induction events with
  | nil => rfl
  | cons event later induction =>
      obtain ⟨outcome, others⟩ := List.forall_mem_cons.mp outcomes
      rw [List.flatMap_cons, induction others]
      cases event with
      | issue reported => cases outcome
      | warning reported => cases outcome
      | _ => rfl

section Telling

variable {dialect : Dialect} {path document : Text} {event : Event}

theorem exists_region_of_mem_plainEvents (member : event ∈ plainEvents dialect document) :
    ∃ region : Region, region.Explained dialect document ∧
      WholeMarkerAt dialect.quotes document region.start ∧ region.event = event := by
  obtain ⟨regions, partition, events⟩ := exists_partition_plainEvents dialect document
  rw [events] at member
  obtain ⟨region, among, reported⟩ := List.mem_map.mp member
  exact ⟨region, partition.explained region among, partition.whole region among, reported⟩

theorem scan_of_mem_plainEvents {literal : Literal}
    (member : .literal literal ∈ plainEvents dialect document) :
    ∃ start : Nat, WholeMarkerAt dialect.quotes document start ∧
      scan dialect document start = .ok literal.block := by
  obtain ⟨region, explained, whole, reported⟩ := exists_region_of_mem_plainEvents member
  cases explained with
  | literal scanned valued finished =>
      cases reported
      exact ⟨_, whole, scanned⟩
  | _ => cases reported

theorem complains_diagnostic (member : event ∈ plainEvents dialect document)
    (fileName? : Option Text) :
    Source.Complains ⟨document, fileName?, 1⟩ event (diagnostic ⟨document, fileName?, 1⟩ event) := by
  obtain ⟨region, explained, _, reported⟩ := exists_region_of_mem_plainEvents member
  have described : ∀ malformation, event.malformation? = some malformation →
      Source.Describes ⟨document, fileName?, 1⟩ malformation
        (Source.explain ⟨document, fileName?, 1⟩ malformation) := by
    intro malformation reports
    obtain ⟨place, position, _, inside, _⟩ := explained.exists_place (reported ▸ reports)
    exact Source.describes_explain position inside
  have outcome := isOutcome_of_mem_plainEvents dialect document event member
  cases event with
  | misindented malformation _ | badOpening malformation | unterminated malformation =>
      exact ⟨_, described malformation rfl, rfl⟩
  | literal found => rfl
  | issue reported | warning reported => cases outcome

theorem notices_formerReadingNotice (member : event ∈ plainEvents dialect document)
    (path : Text) :
    Source.Notices ⟨document, some path, 1⟩ event (formerReadingNotice path document event) := by
  cases event with
  | literal found =>
      obtain ⟨start, _, scanned⟩ := scan_of_mem_plainEvents member
      constructor
      · intro short
        exact if_neg (Int.not_le.mpr short)
      · intro reached
        exact ⟨_, FormerReading.warnsOf_render rfl scanned, if_pos reached⟩
  | _ => rfl

end Telling

section Pinpointing

/-- An entry of a listing shows a literal: its value, the length of its marker, and the line
and the column, counted from one, on which the literal starts.  That is where the whole run of
its opening marker begins. -/
structure Found.Pinpoints (document : Text) (found : Found) (literal : Literal) : Prop where
  value : found.value = literal.value
  marker : found.marker = literal.block.markerLength
  place : ∃ (start row column length : Nat) (physicalLine : Text),
    literal.block.start = start ∧
    (Source.ofText document).LiesAt start found.line column ∧
    found.line = row + 1 ∧ found.column = column + 1 ∧
    (document.splitOn '\n')[row]? = some physicalLine ∧
    literal.block.markerLength = length ∧
    RunAt physicalLine column literal.block.quote length ∧
    ∀ before, column = before + 1 → physicalLine[before]? ≠ some literal.block.quote

theorem Found.pinpoints_ofLiteral {dialect : Dialect} {document : Text} {literal : Literal}
    (member : .literal literal ∈ plainEvents dialect document) (fileName? : Option Text) :
    (Found.ofLiteral ⟨document, fileName?, 1⟩ literal).Pinpoints document literal := by
  obtain ⟨start, whole, scanned⟩ := scan_of_mem_plainEvents member
  obtain ⟨value, block⟩ := literal
  obtain ⟨layout, following, shape, _, rfl⟩ := scan_eq_ok_iff.mp scanned
  have marker := layout.markerAt shape
  obtain ⟨row, column, physicalLine, located, found, run, apart⟩ :=
    marker.exists_line layout.quoteNotLineFeed whole fileName?
  have rows := congrArg Prod.fst located
  have columns := congrArg Prod.snd located
  have lies := @Source.liesAt_locate (Source.ofText document) start
    (Nat.le_of_lt marker.offset_lt_length)
  refine ⟨rfl, rfl, start, row, column, layout.length, physicalLine, rfl, ?_, ?_, ?_, found, rfl,
    run, apart⟩
  · rw [← show ((Source.ofText document).locate start).2 = column from columns]
    exact lies
  · exact rows.trans (Int.add_comm 1 row)
  · exact congrArg (· + 1) columns

end Pinpointing

/-- Each of these options has a say in one thing only.

With the same dialect, asking for notices about former readings puts one before each
literal that has one, and changes neither the output nor the status.  The layout of the
listing and the strictness have no say in the diagnostics, and the strictness has none in
the output.  The status tells of malformations if it is asked to, there is one complaint for
each of them, in the order of their positions, and the listing points at the literals that
were found.

The notices and the complaints are the texts that the events deserve.  A plain listing has a
line for each literal, with the two numbers and the quoted value, from which they are read
back, and from a JSON listing all that is listed is read. -/
theorem extraction_options (options : Options) (path document : Text) (dialect : Dialect)
    (valid : options.dialect = .ok dialect) :
    let events := plainEvents dialect document
    let source : Source := ⟨document, some path, 1⟩
    let outcome := extraction options path document
    (∀ event ∈ events,
      source.Notices event (formerReadingNotice path document event) ∧
        source.Complains event (diagnostic source event)) ∧
      (∀ formerReadings,
        let other := extraction { options with formerReadings } path document
        other.output = outcome.output ∧ other.completion = outcome.completion ∧
          other.diagnostics = events.flatMap fun event =>
            (if formerReadings then formerReadingNotice path document event else []) ++
              diagnostic source event) ∧
      (∀ json indent strict,
        (extraction { options with json, indent, strict } path document).diagnostics =
          outcome.diagnostics) ∧
      (∀ strict, (extraction { options with strict } path document).output = outcome.output) ∧
      outcome.completion = .finished
        (if options.strict ∧ events.filterMap Event.malformation? ≠ [] then 1 else 0) ∧
      events.flatMap (diagnostic source) =
        (events.filterMap Event.malformation?).flatMap
          (fun malformation => source.explain malformation ++ ['\n']) ∧
      ((events.filterMap Event.malformation?).map Malformation.position).Pairwise (· < ·) ∧
      ∃ found, outcome.output = options.listing found ∧
        List.Forall₂ (Found.Pinpoints document) found (events.filterMap literal?) ∧
        (options.json = false →
          outcome.output = (found.flatMap fun item =>
            Numeral.signed item.line ++ ":".toList ++ Numeral.signed item.column ++
              ": ".toList ++ quoted item.value ++ ['\n']) ∧
          readPlain? outcome.output = some (found.map Found.plain)) ∧
        (options.json = true → readJson? outcome.output = some found) := by
  intro events source outcome
  have outcome_eq := extraction_eq valid path document
  obtain ⟨regions, partition, regionEvents⟩ := exists_partition_plainEvents dialect document
  refine ⟨?_, ?_, ?_, ?_, ?_, ?_, ?_, ?_⟩
  · exact fun event member =>
      ⟨notices_formerReadingNotice member path, complains_diagnostic member (some path)⟩
  · intro formerReadings
    have other_eq := @extraction_eq { options with formerReadings } dialect valid path document
    refine ⟨?_, ?_, congrArg Outcome.diagnostics other_eq⟩
    · exact (congrArg Outcome.output other_eq).trans (congrArg Outcome.output outcome_eq).symm
    · exact (congrArg Outcome.completion other_eq).trans
        (congrArg Outcome.completion outcome_eq).symm
  · intro json indent strict
    have other_eq :=
      @extraction_eq { options with json, indent, strict } dialect valid path document
    exact (congrArg Outcome.diagnostics other_eq).trans
      (congrArg Outcome.diagnostics outcome_eq).symm
  · intro strict
    have other_eq := @extraction_eq { options with strict } dialect valid path document
    exact (congrArg Outcome.output other_eq).trans (congrArg Outcome.output outcome_eq).symm
  · have completed := congrArg Outcome.completion outcome_eq
    simp only [any_tellsOfMalformation_iff] at completed
    exact completed
  · exact flatMap_diagnostic_of_outcomes source (isOutcome_of_mem_plainEvents dialect document)
  · rw [show events = regions.map Region.event from regionEvents]
    exact partition.pairwise_positions
  · have listed := congrArg Outcome.output outcome_eq
    refine ⟨_, listed, ?_, ?_, ?_⟩
    · rw [List.forall₂_map_left_iff, List.forall₂_same]
      intro literal member
      obtain ⟨event, among, found⟩ := List.mem_filterMap.mp member
      cases event with
      | literal other =>
          cases found
          exact Found.pinpoints_ofLiteral among (some path)
      | _ => cases found
    · intro plain
      rw [listed, Options.listing, if_neg (by simp [plain])]
      refine ⟨?_, readPlain?_plainListingWith _ _⟩
      rw [plainListing, plainListingWith]
      simp [Found.plainLine, quoted]
    · intro structured
      rw [listed, Options.listing, if_pos structured]
      exact readJson?_jsonListing _ _

/-- A malformed opening line, and a literal with a marker of four in the middle of a line:
one complaint, one notice, one entry, and a status that tells. -/
theorem extraction_options_strict :
    let document := ['"', '"', '"', 'x', '\n', '"', '"', '"', '\n',
      'y', ' ', '"', '"', '"', '"', '\n', 'a', '\n', '"', '"', '"', '"']
    let source : Source := ⟨document, some ['f'], 1⟩
    let options : Options := { Options.default with strict := true }
    let literal : Literal := ⟨['a'], ⟨4, [], [⟨['a'], .lineFeed, 16⟩], [], '"', 11, 22⟩⟩
    let outcome := extraction options ['f'] document
    let complaint := "f: line 1, column 4: only whitespace ".toList ++
      "may follow the opening marker on its line\n".toList ++
      " >>> \"\"\"x\n        ^ near here\n".toList
    let notice := "Warning while reading a verbatim string: ".toList ++
      "a 4-quote marker formerly read as ".toList ++ "2 adjacent empty strings; ".toList ++
      "it now begins a verbatim string\n".toList ++ "Excerpt from f :\n".toList ++
      "     3 :y \"\"\"\"\n          ^^^^ opening marker\n".toList ++
      "     5 :\"\"\"\"\n        ^^^^ closing marker\n".toList
    options.dialect = .ok .standard ∧
      outcome.completion = .finished 1 ∧
      outcome.output = "3:3: 'a'\n".toList ∧
      outcome.diagnostics = complaint ++ notice ∧
      (extraction { options with formerReadings := false } ['f'] document).diagnostics =
        complaint ∧
      source.Complains (.badOpening (.strayText 3)) complaint ∧
      source.Notices (.literal literal) notice ∧
      ∃ found, outcome.output = options.listing found ∧
        List.Forall₂ (Found.Pinpoints document) found [literal] := by
  intro document source options literal outcome complaint notice
  have valid : options.dialect = .ok .standard := by decide +kernel
  have events : plainEvents .standard document =
      [.badOpening (.strayText 3), .literal literal] := by
    decide +kernel
  have complained : diagnostic source (.badOpening (.strayText 3)) = complaint := by
    decide +kernel
  have noticed : formerReadingNotice ['f'] document (.literal literal) = notice := by
    decide +kernel
  obtain ⟨deserved, _, _, _, completion, _, _, found, listed, pinpoints, _⟩ :=
    extraction_options options ['f'] document .standard valid
  rw [events] at deserved completion pinpoints
  have first := (deserved _ List.mem_cons_self).2
  have second := (deserved (.literal literal) (by simp)).1
  rw [complained] at first
  rw [noticed] at second
  refine ⟨valid, completion, ?_, ?_, ?_, first, second, found, listed, pinpoints⟩
  · decide +kernel
  · decide +kernel
  · decide +kernel

end Command

end Verbatim
