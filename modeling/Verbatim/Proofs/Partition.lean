import Verbatim.Proofs.Regions

/-!
# Attempts partition a text

The attempts at the literals of a text take up regions that come one after
another.  `Partition` says what this means from an offset on: the first region
begins with the first marker there is, each further one with the first marker
behind the region before it, and no marker is left behind the last.  Only the
last region may lack a stop.

`attemptsFrom_cases` is one step of the search, and `exists_partition` the whole
run.  The invariant between steps is that the text breaks at the offset.
-/

namespace Verbatim

/-- No three equal quote characters begin in a stretch of a text. -/
def FreeOfMarkers (quotes text : Text) (start stop : Nat) : Prop :=
  ∀ position, start ≤ position → position < stop → ¬ TripleAt quotes text position

/-- A region begins with the first marker from an offset on. -/
structure Region.Next (dialect : Dialect) (text : Text) (offset : Nat) (region : Region) :
    Prop where
  explained : region.Explained dialect text
  whole : WholeMarkerAt dialect.quotes text region.start
  ahead : offset ≤ region.start
  free : FreeOfMarkers dialect.quotes text offset region.start

structure Partition (dialect : Dialect) (text : Text) (offset : Nat)
    (regions : List Region) : Prop where
  explained : ∀ region ∈ regions, region.Explained dialect text
  whole : ∀ region ∈ regions, WholeMarkerAt dialect.quotes text region.start
  forward : ∀ region ∈ regions, ∀ stop, region.stop? = some stop →
    region.start < stop ∧ stop ≤ text.length
  empty : regions = [] → FreeOfMarkers dialect.quotes text offset text.length
  first : ∀ region, regions.head? = some region →
    offset ≤ region.start ∧ FreeOfMarkers dialect.quotes text offset region.start
  between : ∀ index earlier later, regions[index]? = some earlier →
    regions[index + 1]? = some later →
    ∃ stop, earlier.stop? = some stop ∧ stop ≤ later.start ∧
      FreeOfMarkers dialect.quotes text stop later.start
  last : ∀ region stop, regions.getLast? = some region → region.stop? = some stop →
    FreeOfMarkers dialect.quotes text stop text.length

namespace Partition

variable {dialect : Dialect} {text : Text} {offset : Nat} {region : Region}

theorem nil (free : FreeOfMarkers dialect.quotes text offset text.length) :
    Partition dialect text offset [] where
  explained := by simp
  whole := by simp
  forward := by simp
  empty := fun _ => free
  first := by simp
  between := by simp
  last := by simp

theorem unclosed (next : region.Next dialect text offset) (endless : region.stop? = none) :
    Partition dialect text offset [region] where
  explained := by simpa using next.explained
  whole := by simpa using next.whole
  forward := by simp [endless]
  empty := by simp
  first := by simpa using ⟨next.ahead, next.free⟩
  between := by simp
  last := by
    intro final stop ending closed
    cases ending
    simp [endless] at closed

/-- A region goes before a partition of the text from its end on. -/
theorem cons {stop : Nat} {later : List Region}
    (next : region.Next dialect text offset) (closed : region.stop? = some stop)
    (reached : RegionEnd text region.start stop)
    (partition : Partition dialect text stop later) :
    Partition dialect text offset (region :: later) where
  explained := List.forall_mem_cons.mpr ⟨next.explained, partition.explained⟩
  whole := List.forall_mem_cons.mpr ⟨next.whole, partition.whole⟩
  forward := by
    refine List.forall_mem_cons.mpr ⟨?_, partition.forward⟩
    · intro other same
      rw [closed] at same
      cases same
      exact ⟨reached.forward, reached.within⟩
  empty := by simp
  first := by simpa using ⟨next.ahead, next.free⟩
  between := by
    intro index earlier following here there
    cases index with
    | zero =>
        cases here
        have head : later.head? = some following := by simpa [List.head?_eq_getElem?] using there
        exact ⟨stop, closed, partition.first following head⟩
    | succ index => exact partition.between index earlier following here there
  last := by
    intro final finalStop ending same
    cases later with
    | nil =>
        obtain rfl : region = final := by simpa using ending
        rw [closed] at same
        cases same
        exact partition.empty rfl
    | cons other others =>
        rw [List.getLast?_cons_cons] at ending
        exact partition.last final finalStop ending same

/-- Behind its first region, a partition goes on as one of the rest of the text. -/
theorem tail {stop : Nat} {later : List Region}
    (partition : Partition dialect text offset (region :: later))
    (closed : region.stop? = some stop) : Partition dialect text stop later where
  explained := (List.forall_mem_cons.mp partition.explained).2
  whole := (List.forall_mem_cons.mp partition.whole).2
  forward := fun other member => partition.forward other (List.mem_cons_of_mem region member)
  empty := by
    intro nothing
    apply partition.last region stop
    · simp [nothing]
    · exact closed
  first := by
    intro next head
    have there : (region :: later)[0 + 1]? = some next := by
      simpa [List.head?_eq_getElem?] using head
    obtain ⟨_, same, ahead, free⟩ := partition.between 0 region next rfl there
    rw [closed] at same
    cases same
    exact ⟨ahead, free⟩
  between := fun index earlier following here there =>
    partition.between (index + 1) earlier following here there
  last := by
    intro final finalStop ending same
    apply partition.last final finalStop
    · simp [List.getLast?_cons, ending]
    · exact same

end Partition

section Step

variable {dialect : Dialect} {text : Text} {offset : Nat}

theorem attemptsFrom_of_nextOpening?_eq_none
    (none : nextOpening? dialect.quotes offset (text.drop offset) = none) :
    attemptsFrom dialect text offset = [] := by
  rw [attemptsFrom]
  split
  · rfl
  · next found =>
      rw [none] at found
      cases found

/-- An attempt is made at the next marker, and the search goes on behind it unless
nothing can follow. -/
theorem attemptsFrom_of_nextOpening?_eq_some {opening : Opening}
    (found : nextOpening? dialect.quotes offset (text.drop offset) = some opening) :
    attemptsFrom dialect text offset =
      match scan dialect text opening.start with
      | .ok block =>
          if (Attempt.ofBlock block).isLast then [Attempt.ofBlock block]
          else Attempt.ofBlock block :: attemptsFrom dialect text block.finish.toNat
      | .error (.malformed (.strayText position)) =>
          .badOpening (.strayText position) ::
            match skip dialect text opening.start with
            | .ok finish => attemptsFrom dialect text finish.toNat
            | .error (.malformed (.unterminated _ _)) => []
            | .error failure => [.aborted failure]
      | .error (.malformed (.unterminated start finish)) =>
          [.unterminated (.unterminated start finish)]
      | .error failure => [.aborted failure] := by
  rw [attemptsFrom]
  split
  · next none =>
      rw [found] at none
      cases none
  · next other same =>
      obtain rfl : opening = other := by simpa [found] using same
      split
      · next block scanned => simp only [scanned]
      · next position scanned =>
          simp only [scanned]
          split
          · next finish skipped => simp only [skipped]
          · next start finish skipped => simp only [skipped]
          · next failure others skipped => simp only [skipped]
      · next start finish scanned => simp only [scanned]
      · next failure strays unclosed scanned => simp only [scanned]

/-- The attempt at a marker comes to an event, and unless it is the last one, the
search goes on at the end of its region. -/
theorem attemptsFrom_of_markerAt
    {opening : Opening} {start : Nat} {quote : Char} {length : Nat} {rest : Text}
    (found : nextOpening? dialect.quotes offset (text.drop offset) = some opening)
    (place : opening.start = start)
    (marker : MarkerAt dialect text start quote length rest) :
    ∃ (stop? : Option Nat) (event : Event) (attempt : Attempt),
      Region.Explained dialect text ⟨start, stop?, event⟩ ∧
      attempt.event? = some event ∧
      (stop? = none ∧ attemptsFrom dialect text offset = [attempt] ∨
        ∃ stop, stop? = some stop ∧ RegionEnd text start stop ∧
          attemptsFrom dialect text offset = attempt :: attemptsFrom dialect text stop) := by
  have step := attemptsFrom_of_nextOpening?_eq_some found
  rw [place] at step
  rcases marker.scan_cases with ⟨position, _, stray⟩ | ⟨_, unclosed⟩ | standing
  · rw [stray] at step
    rcases marker.skip_cases with unclosed | ⟨stop, skipped, reached⟩
    · rw [unclosed] at step
      exact ⟨none, _, .badOpening (.strayText position),
        .badOpeningUnclosed stray unclosed, rfl, .inl ⟨rfl, step⟩⟩
    · rw [skipped] at step
      exact ⟨some stop, _, .badOpening (.strayText position),
        .badOpening stray skipped, rfl, .inr ⟨stop, rfl, reached, step⟩⟩
  · rw [unclosed] at step
    exact ⟨none, _, .unterminated (.unterminated start text.length),
      .unterminated unclosed, rfl, .inl ⟨rfl, step⟩⟩
  · obtain ⟨layout, following, shape, boundary⟩ := standing
    have scanned := layout.scan_eq_ok shape boundary
    obtain ⟨stop, event, finished, reached, explained, reported, onward⟩ :=
      exists_event_of_scan_eq_ok scanned
    rw [scanned] at step
    simp only [onward, finished] at step
    exact ⟨some stop, event, Attempt.ofBlock (layout.block start), explained, reported,
      .inr ⟨stop, rfl, reached, step⟩⟩

/-- One step of the search, from an offset where the text breaks: no marker is
left, or the next one has a region, which is the last or ends where the text
breaks again. -/
theorem attemptsFrom_cases (dialect : Dialect) (broken : RunBreak text offset) :
    (FreeOfMarkers dialect.quotes text offset text.length ∧
        attemptsFrom dialect text offset = []) ∨
      ∃ (region : Region) (attempt : Attempt), region.Next dialect text offset ∧
        attempt.event? = some region.event ∧
        (region.stop? = none ∧ attemptsFrom dialect text offset = [attempt] ∨
          ∃ stop, region.stop? = some stop ∧ RegionEnd text region.start stop ∧
            attemptsFrom dialect text offset = attempt :: attemptsFrom dialect text stop) := by
  cases found : nextOpening? dialect.quotes offset (text.drop offset) with
  | none =>
      left
      constructor
      · intro position behind _
        exact not_tripleAt_of_nextOpening?_drop_eq_none found position behind
      · exact attemptsFrom_of_nextOpening?_eq_none found
  | some opening =>
      right
      obtain ⟨start, place, ahead, isQuote, longEnough, run, free⟩ :=
        exists_of_nextOpening?_drop_eq_some found
      have whole := WholeMarkerAt.of_runBreak broken ahead free isQuote longEnough run
      have marker := markerAt_of_runAt isQuote run longEnough
      obtain ⟨stop?, event, attempt, explained, reported, step⟩ :=
        attemptsFrom_of_markerAt found place marker
      exact ⟨⟨start, stop?, event⟩, attempt, ⟨explained, whole, ahead, free⟩, reported, step⟩

end Step

/-- From a break on, the attempts partition the text. -/
theorem exists_partition
    (dialect : Dialect) {text : Text} {offset : Nat} (broken : RunBreak text offset) :
    ∃ regions, Partition dialect text offset regions ∧
      (attemptsFrom dialect text offset).map Attempt.event? =
        regions.map fun region => some region.event := by
  induction remaining : text.length - offset using Nat.strong_induction_on
    generalizing offset with
  | h left induction =>
      rcases attemptsFrom_cases dialect broken with
        ⟨free, step⟩ | ⟨region, attempt, next, reported, step⟩
      · refine ⟨[], Partition.nil free, ?_⟩
        rw [step]
        rfl
      · rcases step with ⟨endless, step⟩ | ⟨stop, closed, reached, step⟩
        · refine ⟨[region], Partition.unclosed next endless, ?_⟩
          rw [step]
          simp [reported]
        · have shorter : text.length - stop < left := by
            have ahead := next.ahead
            have forward := reached.forward
            have within := reached.within
            omega
          obtain ⟨later, partition, reports⟩ :=
            induction (text.length - stop) shorter reached.broken rfl
          refine ⟨region :: later, partition.cons next closed reached, ?_⟩
          rw [step, List.map_cons, List.map_cons, reported, reports]

/-- The attempts at the literals of a text report on regions that partition it. -/
theorem exists_partition_attempts (dialect : Dialect) (text : Text) :
    ∃ regions, Partition dialect text 0 regions ∧
      (attempts dialect text).map Attempt.event? = (regions.map Region.event).map some := by
  obtain ⟨regions, partition, reports⟩ := exists_partition dialect (runBreak_zero text)
  refine ⟨regions, partition, ?_⟩
  rw [List.map_map]
  exact reports

end Verbatim
