import Verbatim.Proofs.Displacement

/-!
# One text after another

Where all regions of whole lines are closed, nothing of them reaches into the text
that follows.  Each region stays what it is when the text goes on, and so the regions
of both texts, one after another, make a partition of the whole.

`Partition.event?_attemptsFrom` is what makes this worth knowing: a partition settles
which attempts are made, and what they come to.
-/

namespace Verbatim

section Appending

variable {quotes text : Text} {offset : Nat}

theorem Text.EndsLine.lineFeed_mem_drop (ends : text.EndsLine) (inside : offset < text.length) :
    '\n' ∈ text.drop offset :=
  (ends.drop inside).lineFeed_mem

theorem RunAt.append {char : Char} {length : Nat} (run : RunAt text offset char length)
    (ends : text.EndsLine) (inside : offset < text.length) (different : '\n' ≠ char)
    (more : Text) : RunAt (text ++ more) offset char length := by
  rw [runAt_iff_leadingRun_eq] at run ⊢
  rwa [List.drop_append_of_le_length (Nat.le_of_lt inside),
    leadingRun_append_of_mem (ends.lineFeed_mem_drop inside) different]

theorem RunAt.tripleAt {char : Char} {length : Nat} (run : RunAt text offset char length)
    (isQuote : char ∈ quotes) (longEnough : minimumMarkerLength ≤ length) :
    TripleAt quotes text offset := by
  simp only [minimumMarkerLength] at longEnough
  exact ⟨char, isQuote, run.1 0 (by omega), run.1 1 (by omega), run.1 2 (by omega)⟩

theorem WholeMarkerAt.tripleAt (marker : WholeMarkerAt quotes text offset) :
    TripleAt quotes text offset := by
  obtain ⟨quote, isQuote, length, longEnough, run, _⟩ := marker
  exact run.tripleAt isQuote longEnough

/-- No three quotes lie across the end of whole lines. -/
theorem TripleAt.of_append {more : Text} (triple : TripleAt quotes (text ++ more) offset)
    (ends : text.EndsLine) (inside : offset < text.length) (noLineFeed : '\n' ∉ quotes) :
    TripleAt quotes text offset := by
  obtain ⟨char, rest, shape⟩ : ∃ char rest, text.drop offset = char :: rest :=
    ⟨_, _, List.drop_eq_getElem_cons inside⟩
  rw [← Nat.add_zero offset, ← tripleAt_drop_iff] at triple ⊢
  rw [List.drop_append_of_le_length (Nat.le_of_lt inside), shape, List.cons_append,
    tripleAt_zero_iff] at triple
  obtain ⟨isQuote, longEnough⟩ := triple
  have different : '\n' ≠ char := by
    rintro rfl
    exact noLineFeed (by simpa using isQuote)
  have member : '\n' ∈ char :: rest := shape ▸ ends.lineFeed_mem_drop inside
  rw [← List.cons_append, leadingRun_append_of_mem member different] at longEnough
  rw [shape, tripleAt_zero_iff]
  exact ⟨isQuote, longEnough⟩

theorem FreeOfMarkers.append {start stop : Nat} (free : FreeOfMarkers quotes text start stop)
    (ends : text.EndsLine) (within : stop ≤ text.length) (noLineFeed : '\n' ∉ quotes)
    (more : Text) : FreeOfMarkers quotes (text ++ more) start stop := by
  intro position behind before triple
  exact free position behind before
    (triple.of_append ends (Nat.lt_of_lt_of_le before within) noLineFeed)

theorem WholeMarkerAt.append (marker : WholeMarkerAt quotes text offset)
    (ends : text.EndsLine) (noLineFeed : '\n' ∉ quotes) (more : Text) :
    WholeMarkerAt quotes (text ++ more) offset := by
  have inside := marker.tripleAt.lt_length
  obtain ⟨quote, isQuote, length, longEnough, run, apart⟩ := marker
  have different : '\n' ≠ quote := by
    rintro rfl
    exact noLineFeed isQuote
  refine ⟨quote, isQuote, length, longEnough, run.append ends inside different more, ?_⟩
  rintro before rfl
  rw [List.getElem?_append_left (by omega)]
  exact apart before rfl

end Appending

section Regions

variable {dialect : Dialect} {text : Text} {offset : Nat} {region : Region}

/-- A region that is closed stays what it is when the text goes on. -/
theorem Region.Explained.append {stop : Nat} (explained : region.Explained dialect text)
    (closed : region.stop? = some stop) (ends : text.EndsLine)
    (noLineFeed : '\n' ∉ dialect.quotes) (more : Text) :
    region.Explained dialect (text ++ more) := by
  cases explained with
  | literal scanned valued finished =>
      exact .literal (scan_append_eq_ok scanned (not_runsOn_of_endsLine ends scanned more))
        valued finished
  | misindented scanned rejected finished =>
      exact .misindented (scan_append_eq_ok scanned (not_runsOn_of_endsLine ends scanned more))
        rejected finished
  | badOpening scanned skipped =>
      apply Explained.badOpening
      · exact scan_eq_stray_iff.mpr ((scan_eq_stray_iff.mp scanned).append more)
      · exact ((skip_eq_ok_iff.mp skipped).append ends noLineFeed more).skip_eq_ok
  | badOpeningUnclosed => cases closed
  | unterminated => cases closed

theorem Region.Next.append {stop : Nat} (next : region.Next dialect text offset)
    (closed : region.stop? = some stop) (ends : text.EndsLine)
    (noLineFeed : '\n' ∉ dialect.quotes) (more : Text) :
    region.Next dialect (text ++ more) offset where
  explained := next.explained.append closed ends noLineFeed more
  whole := next.whole.append ends noLineFeed more
  ahead := next.ahead
  free := next.free.append ends (Nat.le_of_lt next.whole.tripleAt.lt_length) noLineFeed more

namespace Partition

/-- A stretch without markers may go before a partition. -/
theorem after_free {start : Nat} {regions : List Region}
    (partition : Partition dialect text offset regions) (ahead : start ≤ offset)
    (free : FreeOfMarkers dialect.quotes text start offset) :
    Partition dialect text start regions := by
  have joined : ∀ stop, FreeOfMarkers dialect.quotes text offset stop →
      FreeOfMarkers dialect.quotes text start stop := by
    intro stop later position behind before
    by_cases early : position < offset
    · exact free position behind early
    · exact later position (Nat.le_of_not_lt early) before
  exact
    { partition with
      empty := fun nothing => joined _ (partition.empty nothing)
      first := by
        intro region head
        obtain ⟨onward, later⟩ := partition.first region head
        exact ⟨Nat.le_trans ahead onward, joined _ later⟩ }

/-- The regions of whole lines, all of them closed, and those of the text behind. -/
theorem append {more : Text} {regions later : List Region}
    (partition : Partition dialect text offset regions)
    (closed : ∀ region ∈ regions, region.stop? ≠ none) (inside : offset ≤ text.length)
    (whole : text.WholeLines) (noLineFeed : '\n' ∉ dialect.quotes)
    (onward : Partition dialect (text ++ more) text.length later) :
    Partition dialect (text ++ more) offset (regions ++ later) := by
  -- Each region is the next one of the whole text as it is of the front.  Behind the
  -- last, no marker begins before the front ends.
  induction regions generalizing offset with
  | nil =>
      apply onward.after_free inside
      rcases whole with rfl | ends
      · intro position _ before
        exact absurd before (Nat.not_lt_zero position)
      · exact (partition.empty rfl).append ends (Nat.le_refl _) noLineFeed more
  | cons region others induction =>
      obtain ⟨regionClosed, othersClosed⟩ := List.forall_mem_cons.mp closed
      obtain ⟨next, ⟨endless, _⟩ | ⟨stop, stops, tail⟩⟩ := partition.uncons
      · exact absurd endless regionClosed
      · have ends : text.EndsLine := by
          rcases whole with rfl | ends
          · exact absurd next.whole.tripleAt.lt_length (Nat.not_lt_zero _)
          · exact ends
        have longer := next.append stops ends noLineFeed more
        exact cons longer stops (longer.explained.regionEnd stops)
          (induction tail othersClosed (next.explained.regionEnd stops).within)

end Partition

/-- The search finds the first marker there is. -/
theorem exists_nextOpening?_eq_some {quotes : Text} {start : Nat}
    (triple : TripleAt quotes text start) (ahead : offset ≤ start)
    (free : FreeOfMarkers quotes text offset start) :
    ∃ opening, nextOpening? quotes offset (text.drop offset) = some opening ∧
      opening.start = start := by
  cases found : nextOpening? quotes offset (text.drop offset) with
  | none => exact absurd triple (not_tripleAt_of_nextOpening?_drop_eq_none found start ahead)
  | some opening =>
      obtain ⟨place, same, behind, isQuote, longEnough, run, first⟩ :=
        exists_of_nextOpening?_drop_eq_some found
      refine ⟨opening, rfl, ?_⟩
      rcases Nat.lt_trichotomy place start with early | rfl | late
      · exact absurd (run.tripleAt isQuote longEnough) (free place behind early)
      · exact same
      · exact absurd triple (first start ahead late)

/-- An attempt is made at the next region, and the search goes on at its end. -/
theorem Region.Next.exists_attemptsFrom_eq (next : region.Next dialect text offset) :
    ∃ attempt : Attempt, attempt.event? = some region.event ∧
      (region.stop? = none ∧ attemptsFrom dialect text offset = [attempt] ∨
        ∃ stop, region.stop? = some stop ∧
          attemptsFrom dialect text offset = attempt :: attemptsFrom dialect text stop) := by
  obtain ⟨opening, found, place⟩ :=
    exists_nextOpening?_eq_some next.whole.tripleAt next.ahead next.free
  have step := attemptsFrom_of_nextOpening?_eq_some found
  rw [place] at step
  obtain ⟨explained, _, _, _⟩ := next
  cases explained with
  | @literal start stop block value scanned valued finished =>
      refine ⟨.literal ⟨value, block⟩, rfl, .inr ⟨stop, rfl, ?_⟩⟩
      have attempted : Attempt.ofBlock block = .literal ⟨value, block⟩ := by
        simp only [Attempt.ofBlock, valued]
      rw [step, scanned]
      simp [attempted, Attempt.isLast, finished]
  | @misindented start stop line block position scanned rejected finished =>
      refine ⟨.misindented (.misindented line position) block, rfl, .inr ⟨stop, rfl, ?_⟩⟩
      have attempted : Attempt.ofBlock block =
          .misindented (.misindented line position) block := by
        simp only [Attempt.ofBlock, rejected]
      rw [step, scanned]
      simp [attempted, Attempt.isLast, finished]
  | @badOpening start stop position scanned skipped =>
      refine ⟨.badOpening (.strayText position), rfl, .inr ⟨stop, rfl, ?_⟩⟩
      rw [step, scanned]
      simp only [skipped, Int.toNat_natCast]
  | @badOpeningUnclosed start position scanned skipped =>
      refine ⟨.badOpening (.strayText position), rfl, .inl ⟨rfl, ?_⟩⟩
      rw [step, scanned]
      simp only [skipped]
  | @unterminated start scanned =>
      refine ⟨.unterminated (.unterminated start text.length), rfl, .inl ⟨rfl, ?_⟩⟩
      rw [step, scanned]

/-- A partition settles which attempts are made, and what they come to. -/
theorem Partition.event?_attemptsFrom {regions : List Region}
    (partition : Partition dialect text offset regions) :
    (attemptsFrom dialect text offset).map Attempt.event? =
      (regions.map Region.event).map some := by
  induction regions generalizing offset with
  | nil =>
      cases found : nextOpening? dialect.quotes offset (text.drop offset) with
      | none => rw [attemptsFrom_of_nextOpening?_eq_none found]; rfl
      | some opening =>
          obtain ⟨start, _, ahead, isQuote, longEnough, run, _⟩ :=
            exists_of_nextOpening?_drop_eq_some found
          have triple := run.tripleAt isQuote longEnough
          exact absurd triple (partition.empty rfl start ahead triple.lt_length)
  | cons region later induction =>
      obtain ⟨next, rest⟩ := partition.uncons
      obtain ⟨attempt, reported, step⟩ := next.exists_attemptsFrom_eq
      -- The region and the attempt at it agree on whether anything can follow.
      rcases rest with ⟨endless, rfl⟩ | ⟨stop, closed, tail⟩
      · rcases step with ⟨_, only⟩ | ⟨stop, closed, _⟩
        · rw [only]
          simp [reported]
        · rw [endless] at closed
          cases closed
      · rcases step with ⟨endless, _⟩ | ⟨other, same, onward⟩
        · rw [closed] at endless
          cases endless
        · rw [closed] at same
          cases same
          rw [onward, List.map_cons, reported, induction tail]
          rfl

end Regions

/-- No literal of a text is left without a closing line, so that a search for literals
ends because no further marker is found. -/
def RunsOut (dialect : Dialect) (text : Text) : Prop :=
  ∃ regions, Partition dialect text 0 regions ∧ ∀ region ∈ regions, region.stop? ≠ none

theorem exists_partition_append {dialect : Dialect} {front : Text} (rest : Text)
    (whole : front.WholeLines) (noLineFeed : '\n' ∉ dialect.quotes)
    (runsOut : RunsOut dialect front) :
    ∃ earlier later, Partition dialect front 0 earlier ∧ Partition dialect rest 0 later ∧
      Partition dialect (front ++ rest) 0
        (earlier ++ later.map (Region.move front.length)) := by
  obtain ⟨earlier, partition, closed⟩ := runsOut
  obtain ⟨later, onward, _⟩ := exists_partition dialect (runBreak_zero rest)
  have moved := onward.prepend whole noLineFeed
  rw [Nat.zero_add] at moved
  exact ⟨earlier, later, partition, onward,
    partition.append closed (Nat.zero_le _) whole noLineFeed moved⟩

end Verbatim
