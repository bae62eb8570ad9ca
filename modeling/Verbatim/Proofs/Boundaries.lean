import Verbatim.Proofs.Rows

/-!
# Finding rows by a table

The boundaries of a text are the places where its lines begin, and then its length, which is
one of those places again when the text ends with a line feed.  The row of a position is
found by bisecting this table without its last entry, and a row is cut out of the text
between two entries that follow one another.

A bisection asks for nothing but a count: the entries up to it are not beyond the bound, and
the others are.  For a position the count is one more than the number of line feeds before
it, since every line but the first begins behind a line feed.
-/

namespace Verbatim

/-- Bisect the entries from `low` on and before `high` of an ascending list for the place
behind all those that do not exceed the bound. -/
def bisect (entries : List Nat) (bound low high : Nat) : Nat :=
  if low < high then
    let middle := (low + high) / 2
    if bound < entries[middle]?.getD 0 then bisect entries bound low middle
    else bisect entries bound (middle + 1) high
  else low
termination_by high - low

/-- A bisection ends where the entries begin to exceed the bound. -/
theorem bisect_eq {entries : List Nat} {bound count low high : Nat}
    (exceeds : ∀ place, low ≤ place → place < high →
      (bound < entries[place]?.getD 0 ↔ count ≤ place))
    (above : low ≤ count) (below : count ≤ high) :
    bisect entries bound low high = count := by
  fun_induction bisect entries bound low high with
  | case1 low high open_ middle beyond induction =>
      have reached : count ≤ middle := (exceeds middle (by omega) (by omega)).mp beyond
      exact induction (fun place from_ before => exceeds place from_ (by omega)) above reached
  | case2 low high open_ middle within induction =>
      have behind : middle < count := by
        by_contra reached
        exact within ((exceeds middle (by omega) (by omega)).mpr (by omega))
      exact induction (fun place from_ before => exceeds place (by omega) before) behind below
  | case3 low high closed => omega

namespace Text

/-- Where the lines begin that follow the first line of a text which begins at `position`. -/
def laterStarts (position : Nat) : Text → List Nat
  | [] => []
  | char :: rest =>
      if char = '\n' then (position + 1) :: laterStarts (position + 1) rest
      else laterStarts (position + 1) rest

/-- Where the lines of a text begin, and then where the text ends. -/
def boundaries (text : Text) : List Nat :=
  0 :: text.laterStarts 0 ++ [text.length]

theorem length_laterStarts (text : Text) (position : Nat) :
    (text.laterStarts position).length = text.count '\n' := by
  induction text generalizing position with
  | nil => rfl
  | cons char rest induction =>
      rw [laterStarts]
      split
      · next feed => rw [List.length_cons, induction, feed, List.count_cons_self]
      · next other => rw [induction, List.count_cons_of_ne other]

theorem length_boundaries (text : Text) : text.boundaries.length = text.count '\n' + 2 := by
  simp [boundaries, length_laterStarts]

/-- A line has begun at an index when there are as many line feeds before the index. -/
theorem laterStarts_le_iff {text : Text} {position row start : Nat}
    (found : (text.laterStarts position)[row]? = some start) (index : Nat) :
    start ≤ position + index ↔ row < (text.take index).count '\n' := by
  induction text generalizing position row index with
  | nil => simp [laterStarts] at found
  | cons char rest induction =>
      by_cases feed : char = '\n'
      · rw [laterStarts, if_pos feed] at found
        cases row with
        | zero =>
            obtain rfl : position + 1 = start := by simpa using found
            cases index <;> simp [feed]
        | succ row =>
            have later : (laterStarts (position + 1) rest)[row]? = some start := by
              simpa using found
            cases index with
            | zero =>
                have behind := induction later 0
                simp at behind ⊢
                omega
            | succ index =>
                have behind := induction later index
                rw [List.take_succ_cons, feed, List.count_cons_self]
                omega
      · rw [laterStarts, if_neg feed] at found
        cases index with
        | zero =>
            have behind := induction found 0
            simp at behind ⊢
            omega
        | succ index =>
            have behind := induction found index
            rw [List.take_succ_cons, List.count_cons_of_ne feed]
            omega

theorem laterStarts_terminated_cons {line : Text} (unbroken : '\n' ∉ line) (position : Nat)
    (rest : Text) :
    laterStarts position (line ++ '\n' :: rest) =
      (position + line.length + 1) :: laterStarts (position + line.length + 1) rest := by
  induction line generalizing position with
  | nil => simp [laterStarts]
  | cons char line induction =>
      have different : char ≠ '\n' := Ne.symm (List.ne_of_not_mem_cons unbroken)
      rw [List.cons_append, laterStarts, if_neg different,
        induction (List.not_mem_of_not_mem_cons unbroken), List.length_cons]
      have same : position + 1 + line.length + 1 = position + (line.length + 1) + 1 := by omega
      rw [same]

/-- A line begins behind the lines above it. -/
theorem getElem?_starts {above : List Text} (unbroken : ∀ line ∈ above, '\n' ∉ line)
    (position : Nat) (rest : Text) :
    (position :: laterStarts position (terminated above ++ rest))[above.length]? =
      some (position + (terminated above).length) := by
  induction above generalizing position with
  | nil => rfl
  | cons line above induction =>
      obtain ⟨lineUnbroken, aboveUnbroken⟩ := List.forall_mem_cons.mp unbroken
      rw [terminated_cons, List.append_assoc, List.cons_append,
        laterStarts_terminated_cons lineUnbroken, List.length_cons, List.getElem?_cons_succ,
        induction aboveUnbroken]
      simp
      omega

/-- The boundaries list where each line begins. -/
theorem getElem?_boundaries {above : List Text} (unbroken : ∀ line ∈ above, '\n' ∉ line)
    (rest : Text) :
    (boundaries (terminated above ++ rest))[above.length]? =
      some (terminated above).length := by
  have starts := getElem?_starts unbroken 0 rest
  rw [Nat.zero_add] at starts
  obtain ⟨inside, _⟩ := List.getElem?_eq_some_iff.mp starts
  rw [boundaries, List.getElem?_append_left inside, starts]

/-- Behind the place where a line begins, the boundaries list where it ends. -/
theorem getElem?_boundaries_succ {above : List Text} (unbroken : ∀ line ∈ above, '\n' ∉ line)
    (rest : Text) :
    (boundaries (terminated above ++ rest))[above.length + 1]? =
      some (terminated above ++ rest.restOfLine).length := by
  rcases rest.unbroken_or_exists_eq_append_lineFeed with whole | ⟨line, later, whole, rfl⟩
  · have last : (boundaries (terminated above ++ rest)).length = above.length + 2 := by
      rw [length_boundaries, List.count_append, count_lineFeed_terminated unbroken,
        List.count_eq_zero.mpr whole]
    have final : (boundaries (terminated above ++ rest)).getLast? =
        some (terminated above ++ rest).length := List.getLast?_concat
    rw [List.getLast?_eq_getElem?, last] at final
    rw [restOfLine_of_unbroken whole]
    exact final
  · have allUnbroken : ∀ other ∈ above ++ [line], '\n' ∉ other := by
      simpa [or_imp, forall_and] using ⟨unbroken, whole⟩
    have longer := getElem?_boundaries allUnbroken later
    rw [restOfLine_append_lineFeed whole]
    simpa using longer

end Text

namespace Source

/-- The row and the column of a position, by the boundaries. -/
def locateByBoundaries (source : Source) (index : Nat) : Int × Int :=
  let boundaries := source.content.boundaries
  let row := bisect boundaries index 0 (boundaries.length - 1) - 1
  (row + source.firstRow, index - boundaries[row]?.getD 0)

/-- The line of a row, by the boundaries. -/
def lineByBoundaries (source : Source) (row : Int) : Text :=
  let boundaries := source.content.boundaries
  let place := (min (max 0 (row - source.firstRow)) (boundaries.length - 2)).toNat
  (source.content.take (boundaries[place + 1]?.getD 0)).drop (boundaries[place]?.getD 0)

variable {source : Source} {index : Nat}

/-- Bisecting the boundaries counts the line feeds before a position. -/
theorem bisect_boundaries (text : Text) (index : Nat) :
    bisect text.boundaries index 0 (text.boundaries.length - 1) =
      (text.take index).count '\n' + 1 := by
  have within : (text.take index).count '\n' ≤ text.count '\n' :=
    (List.take_sublist index text).count_le '\n'
  rw [Text.length_boundaries]
  apply bisect_eq
  · intro place _ before
    cases place with
    | zero => simp [Text.boundaries]
    | succ row =>
        have inside : row < (text.laterStarts 0).length := by
          rw [Text.length_laterStarts]
          omega
        have found := List.getElem?_eq_getElem inside
        have entry : text.boundaries[row + 1]? = some (text.laterStarts 0)[row] := by
          rw [Text.boundaries, List.cons_append, List.getElem?_cons_succ,
            List.getElem?_append_left inside, found]
        have begun := Text.laterStarts_le_iff found index
        rw [entry, Option.getD_some]
        omega
  · omega
  · omega

theorem locateByBoundaries_eq (inside : index ≤ source.content.length) :
    source.locateByBoundaries index = source.locate index := by
  obtain ⟨above, front, before, content, aboveUnbroken, frontUnbroken, reached, located⟩ :=
    exists_above inside
  have row : (source.content.take index).count '\n' = above.length := by
    rw [before, List.count_append, Text.count_lineFeed_terminated aboveUnbroken,
      List.count_eq_zero.mpr frontUnbroken, Nat.add_zero]
  have start : source.content.boundaries[above.length]? =
      some (Text.terminated above).length := by
    rw [content, List.append_assoc]
    exact Text.getElem?_boundaries aboveUnbroken _
  rw [List.length_append] at reached
  rw [locateByBoundaries, bisect_boundaries, row, located, Nat.add_sub_cancel, start]
  simp only [Option.getD_some, Prod.mk.injEq]
  omega

theorem lineByBoundaries_eq (source : Source) (row : Int) :
    source.lineByBoundaries row = source.line row := by
  obtain ⟨above, rest, content, aboveUnbroken, count⟩ :=
    Text.exists_eq_terminated_append_of_le_count
      (Nat.min_le_right (row - source.firstRow).toNat (source.content.count '\n'))
  have clipped : (min (max 0 (row - source.firstRow))
      ((source.content.boundaries.length : Int) - 2)).toNat = above.length := by
    rw [Text.length_boundaries]
    omega
  have other : min (source.firstRow + above.length - source.firstRow).toNat
      (source.content.count '\n') = above.length := by
    omega
  have same : source.line row = source.line (source.firstRow + above.length) := by
    simp only [line, Text.length_lines, Nat.add_sub_cancel, ← count, other]
  have shape : source.content = Text.terminated above ++ [] ++ rest := by
    rw [List.append_nil, content]
  have start := Text.getElem?_boundaries aboveUnbroken rest
  have stop := Text.getElem?_boundaries_succ aboveUnbroken rest
  rw [← content] at start stop
  rw [same, line_of_eq_append shape aboveUnbroken List.not_mem_nil, lineByBoundaries]
  simp only [clipped, start, stop, Option.getD_some]
  obtain ⟨later, parts⟩ := rest.restOfLine_isPrefix
  generalize rest.restOfLine = onRow at parts ⊢
  rw [content, ← parts, ← List.append_assoc, List.take_left, List.drop_left, List.nil_append]

/-- The row and the column of a position are right, line by line: they lie where the
position lies, the rows put the text together, one step to the right changes the row behind
a line feed only, and rows and columns grow with the position.  A table of boundaries gives
the same rows and columns by bisection, and the same lines. -/
theorem locate_line_by_line (source : Source) :
    (∀ index ≤ source.content.length,
      source.LiesAt index (source.locate index).1 (source.locate index).2) ∧
    (List.range ((source.locate source.content.length).1 - source.firstRow + 1).toNat).flatMap
      (fun (row : Nat) => source.line (source.firstRow + row)) = source.content ∧
    (∀ (index : Nat) (char : Char), source.content[index]? = some char →
      source.locate (index + 1 : Nat) =
        if char = '\n' then ((source.locate index).1 + 1, 0)
        else ((source.locate index).1, (source.locate index).2 + 1)) ∧
    (∀ earlier later : Nat, earlier < later → later ≤ source.content.length →
      toLex (source.locate earlier) < toLex (source.locate later)) ∧
    (∀ index ≤ source.content.length, source.locateByBoundaries index = source.locate index) ∧
    (∀ row, source.lineByBoundaries row = source.line row) :=
  ⟨fun _ inside => liesAt_locate inside, source.flatMap_line_range,
    fun _ _ here => locate_succ here, fun _ _ before inside => locate_lt_locate before inside,
    fun _ inside => locateByBoundaries_eq inside, source.lineByBoundaries_eq⟩

/-- Behind the line feed that ends a text lies a row with nothing on it, and a carriage return
inside a line begins no row. -/
theorem locate_line_by_line_behind_final_line_feed :
    let source : Source := ⟨"a\rb\r\nc\n".toList, none, -1⟩
    source.LiesAt 2 (-1) 2 ∧ source.LiesAt 7 1 0 ∧ source.line 1 = [] ∧
      source.locate (1 + 1 : Nat) = (-1, 2) ∧ source.locate (6 + 1 : Nat) = (1, 0) ∧
      toLex (source.locate 6) < toLex (source.locate 7) ∧
      source.locateByBoundaries 7 = (1, 0) := by
  intro source
  obtain ⟨lies, _, step, grows, table, _⟩ := locate_line_by_line source
  refine ⟨lies 2 (by decide), lies 7 (by decide), by decide, ?_, ?_, ?_, ?_⟩
  · exact (step 1 '\r' (by decide)).trans (by decide)
  · exact (step 6 '\n' (by decide)).trans (by decide)
  · exact grows 6 7 (by decide) (by decide)
  · exact (table 7 (by decide)).trans (by decide)

end Source

end Verbatim
