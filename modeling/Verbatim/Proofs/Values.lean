import Verbatim.Proofs.PhysicalLines
import Verbatim.Value

/-!
# Stripping and joining

The value of a block is found line by line.  A line that does not begin with the
indentation comes first, then a line without a terminator that is not the last.  In any
other case each line gives one piece of the value, and the pieces stand between line feeds.

Each outcome rests on a condition on the lines, and one of the conditions always holds.
So the outcomes are proved forward, and the equivalences follow.
-/

namespace Verbatim

/-- A line holds something, and does not begin with the indentation. -/
def Line.Misfits (indentation : Text) (line : Line) : Prop :=
  line.text ≠ [] ∧ ¬ indentation <+: line.text

/-- The longest text that two texts begin with. -/
structure LongestCommonPrefix (common left right : Text) : Prop where
  beginsLeft : common <+: left
  beginsRight : common <+: right
  longest : ∀ other, other <+: left → other <+: right → other <+: common

/-- The line at an index is the first that misfits, and at a position it ceases to agree
with the indentation. -/
def FirstMisfit (indentation : Text) (lines : List Line) (index : Nat) (position : Int) :
    Prop :=
  ∃ before line after common,
    lines = before ++ line :: after ∧
    before.length = index ∧
    (∀ earlier ∈ before, ¬ earlier.Misfits indentation) ∧
    line.Misfits indentation ∧
    LongestCommonPrefix common line.text indentation ∧
    position = line.offset + common.length

/-- Of the lines that others follow, one is the first without a terminator. -/
def FirstUnended (lines : List Line) (line : Line) : Prop :=
  ∃ before after,
    lines = before ++ line :: after ∧
    after ≠ [] ∧
    line.terminator = .absent ∧
    ∀ earlier ∈ before, earlier.terminator ≠ .absent

/-- The carriage return of a terminator, if it has one. -/
def Terminator.carriageReturn : Terminator → Text
  | .carriageReturnLineFeed => ['\r']
  | .lineFeed | .absent => []

/-- The text of a line without as many characters as the indentation has. -/
def Line.dedented (indentation : Text) (line : Line) : Text :=
  line.text.drop indentation.length

/-- What a value holds of a line that is not the last, up to the line feed. -/
def Line.piece (indentation : Text) (line : Line) : Text :=
  line.dedented indentation ++ line.terminator.carriageReturn

/-- Two blocks have the same value, or the same line of both is misindented, at positions
that correspond. -/
def Block.ValuedAlike (correspond : Int → Int) (block other : Block) : Prop :=
  (∃ value, block.value = .ok value ∧ other.value = .ok value) ∨
    ∃ index position,
      block.value = .error (.malformed (.misindented index position)) ∧
        other.value = .error (.malformed (.misindented index (correspond position)))

theorem Terminator.characters_eq {terminator : Terminator} (present : terminator ≠ .absent) :
    terminator.characters = terminator.carriageReturn ++ ['\n'] := by
  cases terminator with
  | lineFeed => rfl
  | carriageReturnLineFeed => rfl
  | absent => exact absurd rfl present

section Agreement

theorem take_agreement_prefix (left right : Text) :
    left.take (agreement left right) <+: right := by
  induction left generalizing right with
  | nil => simp [agreement]
  | cons char later induction =>
      cases right with
      | nil => simp [agreement]
      | cons other others =>
          by_cases same : char = other
          · subst same
            simpa [agreement] using induction others
          · simp [agreement, same]

theorem length_le_agreement {common left right : Text} (ofLeft : common <+: left)
    (ofRight : common <+: right) : common.length ≤ agreement left right := by
  induction common generalizing left right with
  | nil => exact Nat.zero_le _
  | cons char later induction =>
      obtain ⟨leftRest, rfl⟩ := ofLeft
      obtain ⟨rightRest, rfl⟩ := ofRight
      have onward := @induction (later ++ leftRest) (later ++ rightRest)
        (List.prefix_append _ _) (List.prefix_append _ _)
      simpa [agreement] using onward

theorem agreement_le_length (left right : Text) : agreement left right ≤ left.length := by
  induction left generalizing right with
  | nil => simp [agreement]
  | cons char later induction =>
      cases right with
      | nil => simp [agreement]
      | cons other others =>
          have onward := induction others
          unfold agreement
          split
          · simpa using onward
          · exact Nat.zero_le _

/-- What two texts agree on is their longest common prefix. -/
theorem longestCommonPrefix_take_agreement (left right : Text) :
    LongestCommonPrefix (left.take (agreement left right)) left right where
  beginsLeft := List.take_prefix _ _
  beginsRight := take_agreement_prefix left right
  longest := by
    intro other ofLeft ofRight
    rw [List.prefix_iff_eq_take.mp ofLeft]
    exact List.take_prefix_take_left (length_le_agreement ofLeft ofRight)

theorem LongestCommonPrefix.length_eq {common left right : Text}
    (longest : LongestCommonPrefix common left right) :
    common.length = agreement left right := by
  have agreed := longestCommonPrefix_take_agreement left right
  have whole : (left.take (agreement left right)).length = agreement left right := by
    rw [List.length_take, Nat.min_eq_left (agreement_le_length left right)]
  apply Nat.le_antisymm
  · exact length_le_agreement longest.beginsLeft longest.beginsRight
  · rw [← whole]
    exact (longest.longest _ agreed.beginsLeft agreed.beginsRight).length_le

end Agreement

section Stripping

variable {indentation : Text}

theorem Line.strip_of_eq_append {line : Line} {rest : Text} (index : Nat)
    (shape : line.text = indentation ++ rest) : line.strip indentation index = .ok rest := by
  unfold strip
  rw [shape]
  split
  · next empty => rw [(List.append_eq_nil_iff.mp empty).2]
  · rw [if_pos (List.prefix_append indentation rest), List.drop_left]

theorem Line.strip_of_eq_nil {line : Line} (index : Nat) (empty : line.text = []) :
    line.strip indentation index = .ok [] := by
  unfold strip
  rw [if_pos empty]

theorem Line.strip_of_not_misfits {line : Line} (index : Nat)
    (fits : ¬ line.Misfits indentation) :
    line.strip indentation index = .ok (line.dedented indentation) := by
  by_cases empty : line.text = []
  · rw [strip_of_eq_nil index empty, dedented, empty, List.drop_nil]
  · have begins : indentation <+: line.text := by
      by_contra apart
      exact fits ⟨empty, apart⟩
    obtain ⟨rest, shape⟩ := begins
    rw [strip_of_eq_append index shape.symm, dedented, ← shape, List.drop_left]

theorem Line.strip_of_misfits {line : Line} (index : Nat) (misfits : line.Misfits indentation) :
    line.strip indentation index =
      .error (.misindented index (line.offset + agreement line.text indentation)) := by
  unfold strip
  rw [if_neg misfits.1, if_neg misfits.2]

theorem stripLines_of_fits (index : Nat) {lines : List Line}
    (fits : ∀ line ∈ lines, ¬ line.Misfits indentation) :
    stripLines indentation index lines = .ok (lines.map (Line.dedented indentation)) := by
  induction lines generalizing index with
  | nil => rfl
  | cons line later induction =>
      obtain ⟨lineFits, laterFits⟩ := List.forall_mem_cons.mp fits
      rw [stripLines, line.strip_of_not_misfits index lineFits, induction (index + 1) laterFits]
      rfl

/-- The first line that misfits is the one that is named. -/
theorem stripLines_of_misfits (index : Nat) {before after : List Line} {line : Line}
    (fits : ∀ earlier ∈ before, ¬ earlier.Misfits indentation)
    (misfits : line.Misfits indentation) :
    stripLines indentation index (before ++ line :: after) =
      .error (.misindented (index + before.length)
        (line.offset + agreement line.text indentation)) := by
  induction before generalizing index with
  | nil =>
      rw [List.nil_append, stripLines, line.strip_of_misfits index misfits]
      rfl
  | cons first before induction =>
      obtain ⟨firstFits, beforeFits⟩ := List.forall_mem_cons.mp fits
      have count : index + (first :: before).length = index + 1 + before.length := by
        rw [List.length_cons]
        omega
      rw [List.cons_append, stripLines, first.strip_of_not_misfits index firstFits,
        induction (index + 1) beforeFits, count]
      rfl

theorem length_of_stripLines_eq_ok {index : Nat} {lines : List Line} {texts : List Text}
    (stripped : stripLines indentation index lines = .ok texts) :
    texts.length = lines.length := by
  induction lines generalizing index texts with
  | nil =>
      cases stripped
      rfl
  | cons line later induction =>
      rw [stripLines] at stripped
      cases head : line.strip indentation index with
      | error malformation =>
          rw [head] at stripped
          cases stripped
      | ok text =>
          rw [head] at stripped
          cases tail : stripLines indentation (index + 1) later with
          | error malformation =>
              rw [tail] at stripped
              cases stripped
          | ok others =>
              rw [tail] at stripped
              cases stripped
              rw [List.length_cons, List.length_cons, induction tail]

end Stripping

section Joining

variable {indentation : Text}

theorem joinLines_cons {line : Line} {text : Text} {later : List (Line × Text)}
    (terminated : line.terminator ≠ .absent) (more : later ≠ []) :
    joinLines ((line, text) :: later) =
      (joinLines later).map fun rest => text ++ line.terminator.characters ++ rest := by
  obtain ⟨next, others, rfl⟩ := List.exists_cons_of_ne_nil more
  rw [joinLines, if_neg terminated]
  simp

/-- Lines as they are joined: each with its text without the indentation. -/
def Line.paired (indentation : Text) (lines : List Line) : List (Line × Text) :=
  lines.map fun line => (line, line.dedented indentation)

theorem joinLines_paired {before : List Line} (last : Line)
    (ended : ∀ line ∈ before, line.terminator ≠ .absent) :
    joinLines (Line.paired indentation (before ++ [last])) =
      .ok (['\n'].intercalate
        (before.map (Line.piece indentation) ++ [last.dedented indentation])) := by
  induction before with
  | nil => simp [Line.paired, joinLines]
  | cons line later induction =>
      obtain ⟨lineEnded, laterEnded⟩ := List.forall_mem_cons.mp ended
      have more : Line.paired indentation (later ++ [last]) ≠ [] := by simp [Line.paired]
      have step : Line.paired indentation (line :: later ++ [last]) =
          (line, line.dedented indentation) :: Line.paired indentation (later ++ [last]) := rfl
      rw [step, joinLines_cons lineEnded more, induction laterEnded, List.map_cons,
        List.cons_append, List.intercalate_cons_of_ne_nil (by simp),
        Terminator.characters_eq lineEnded]
      simp [Except.map, Line.piece]

theorem joinLines_paired_of_unended {before after : List Line} {line : Line}
    (more : after ≠ []) (unended : line.terminator = .absent)
    (ended : ∀ earlier ∈ before, earlier.terminator ≠ .absent) :
    joinLines (Line.paired indentation (before ++ line :: after)) =
      .error (.missingTerminator line) := by
  induction before with
  | nil =>
      obtain ⟨next, others, rfl⟩ := List.exists_cons_of_ne_nil more
      simp [Line.paired, joinLines, unended]
  | cons first before induction =>
      obtain ⟨firstEnded, beforeEnded⟩ := List.forall_mem_cons.mp ended
      have rest : Line.paired indentation (before ++ line :: after) ≠ [] := by
        simp [Line.paired]
      have step : Line.paired indentation (first :: before ++ line :: after) =
          (first, first.dedented indentation) ::
            Line.paired indentation (before ++ line :: after) := rfl
      rw [step, joinLines_cons firstEnded rest, induction beforeEnded]
      rfl

end Joining

namespace Block

variable {block : Block}

theorem value_of_strippedLines_eq_ok {texts : List Text}
    (stripped : block.strippedLines = .ok texts) :
    block.value = joinLines (block.lines.zip texts) := by
  unfold value
  rw [stripped]
  rfl

theorem value_of_firstMisfit {index : Nat} {position : Int}
    (first : FirstMisfit block.indentation block.lines index position) :
    block.value = .error (.malformed (.misindented index position)) := by
  obtain ⟨before, line, after, common, shape, rfl, fits, misfits, longest, rfl⟩ := first
  have stripped : stripLines block.indentation 0 (before ++ line :: after) = _ :=
    stripLines_of_misfits 0 fits misfits
  rw [← shape, Nat.zero_add, ← longest.length_eq] at stripped
  unfold value strippedLines
  rw [stripped]
  rfl

theorem value_of_fits (fits : ∀ line ∈ block.lines, ¬ line.Misfits block.indentation) :
    block.value = joinLines (Line.paired block.indentation block.lines) := by
  rw [value_of_strippedLines_eq_ok (stripLines_of_fits 0 fits), Line.paired,
    List.map_prod_left_eq_zip]

theorem value_of_firstUnended {line : Line}
    (fits : ∀ line ∈ block.lines, ¬ line.Misfits block.indentation)
    (first : FirstUnended block.lines line) :
    block.value = .error (.missingTerminator line) := by
  obtain ⟨before, after, shape, more, unended, ended⟩ := first
  rw [value_of_fits fits, shape, joinLines_paired_of_unended more unended ended]

theorem value_of_ended {before : List Line} {last : Line}
    (fits : ∀ line ∈ block.lines, ¬ line.Misfits block.indentation)
    (shape : block.lines = before ++ [last])
    (ended : ∀ line ∈ before, line.terminator ≠ .absent) :
    block.value = .ok (['\n'].intercalate
      (before.map (Line.piece block.indentation) ++ [last.dedented block.indentation])) := by
  rw [value_of_fits fits, shape, joinLines_paired last ended]

/-- A line misfits, or all lines fit. -/
theorem exists_firstMisfit_or_fits (indentation : Text) (lines : List Line) :
    (∃ index position, FirstMisfit indentation lines index position) ∨
      ∀ line ∈ lines, ¬ line.Misfits indentation := by
  rcases exists_first_or_forall_not (Line.Misfits indentation) lines with
    fits | ⟨before, line, after, shape, earlier, misfits⟩
  · exact .inr fits
  · exact .inl ⟨_, _, before, line, after, _, shape, rfl, earlier, misfits,
      longestCommonPrefix_take_agreement line.text indentation, rfl⟩

/-- What comes of a block whose lines fit: nothing to join, a line that lacks its
terminator, or the pieces between line feeds. -/
theorem value_cases_of_fits (fits : ∀ line ∈ block.lines, ¬ line.Misfits block.indentation) :
    (block.lines = [] ∧ block.value = .ok []) ∨
      (∃ line, FirstUnended block.lines line ∧
        block.value = .error (.missingTerminator line)) ∨
      ∃ before last, block.lines = before ++ [last] ∧
        (∀ line ∈ before, line.terminator ≠ .absent) ∧
        block.value = .ok (['\n'].intercalate
          (before.map (Line.piece block.indentation) ++ [last.dedented block.indentation])) := by
  rcases List.eq_nil_or_concat block.lines with none | ⟨front, last, shape⟩
  · refine .inl ⟨none, ?_⟩
    rw [value_of_fits fits, none]
    rfl
  · rw [List.concat_eq_append] at shape
    rcases exists_first_or_forall_not (fun line : Line => line.terminator = .absent) front with
      ended | ⟨before, line, after, rfl, earlier, unended⟩
    · exact .inr (.inr ⟨front, last, shape, ended, value_of_ended fits shape ended⟩)
    · have first : FirstUnended block.lines line := by
        refine ⟨before, after ++ [last], ?_, by simp, unended, earlier⟩
        rw [shape, List.append_assoc, List.cons_append]
      exact .inr (.inl ⟨line, first, value_of_firstUnended fits first⟩)

theorem value_eq_misindented_iff {index : Nat} {position : Int} :
    block.value = .error (.malformed (.misindented index position)) ↔
      FirstMisfit block.indentation block.lines index position := by
  refine ⟨?_, value_of_firstMisfit⟩
  intro rejected
  rcases exists_firstMisfit_or_fits block.indentation block.lines with
    ⟨other, place, first⟩ | fits
  · have same := (value_of_firstMisfit first).symm.trans rejected
    simp only [Except.error.injEq, Failure.malformed.injEq, Malformation.misindented.injEq]
      at same
    obtain ⟨rfl, rfl⟩ := same
    exact first
  · rcases value_cases_of_fits fits with
      ⟨_, empty⟩ | ⟨line, _, unended⟩ | ⟨before, last, _, _, joined⟩
    · exact absurd (empty.symm.trans rejected) (by simp)
    · exact absurd (unended.symm.trans rejected) (by simp)
    · exact absurd (joined.symm.trans rejected) (by simp)

theorem exists_firstMisfit_iff (indentation : Text) (lines : List Line) :
    (∃ index position, FirstMisfit indentation lines index position) ↔
      ∃ line ∈ lines, line.Misfits indentation := by
  constructor
  · rintro ⟨index, position, before, line, after, common, shape, _, _, misfits, _⟩
    exact ⟨line, by simp [shape], misfits⟩
  · rintro ⟨line, member, misfits⟩
    rcases exists_firstMisfit_or_fits indentation lines with found | fits
    · exact found
    · exact absurd misfits (fits line member)

theorem fits_of_value {result : Except Failure Text} (valued : block.value = result)
    (other : ∀ index position, result ≠ .error (.malformed (.misindented index position))) :
    ∀ line ∈ block.lines, ¬ line.Misfits block.indentation := by
  rcases exists_firstMisfit_or_fits block.indentation block.lines with
    ⟨index, position, first⟩ | fits
  · exact absurd (valued.symm.trans (value_of_firstMisfit first)) (other index position)
  · exact fits

theorem value_eq_missingTerminator_iff {line : Line} :
    block.value = .error (.missingTerminator line) ↔
      (∀ line ∈ block.lines, ¬ line.Misfits block.indentation) ∧
        FirstUnended block.lines line := by
  refine ⟨?_, fun ⟨fits, first⟩ => value_of_firstUnended fits first⟩
  intro rejected
  have fits := fits_of_value rejected (by simp)
  refine ⟨fits, ?_⟩
  rcases value_cases_of_fits fits with
    ⟨_, empty⟩ | ⟨other, first, unended⟩ | ⟨before, last, _, _, joined⟩
  · exact absurd (empty.symm.trans rejected) (by simp)
  · have same := unended.symm.trans rejected
    simp only [Except.error.injEq, Failure.missingTerminator.injEq] at same
    exact same ▸ first
  · exact absurd (joined.symm.trans rejected) (by simp)

theorem exists_value_eq_ok_iff :
    (∃ value, block.value = .ok value) ↔
      (∀ line ∈ block.lines, ¬ line.Misfits block.indentation) ∧
        ∀ line ∈ block.lines.dropLast, line.terminator ≠ .absent := by
  constructor
  · rintro ⟨value, valued⟩
    have fits := fits_of_value valued (by simp)
    refine ⟨fits, ?_⟩
    rcases value_cases_of_fits fits with
      ⟨empty, _⟩ | ⟨line, _, unended⟩ | ⟨before, last, shape, ended, _⟩
    · simp [empty]
    · exact absurd (unended.symm.trans valued) (by simp)
    · rwa [shape, List.dropLast_concat]
  · rintro ⟨fits, ended⟩
    rcases value_cases_of_fits fits with
      ⟨_, empty⟩ | ⟨line, ⟨before, after, shape, more, unended, _⟩, _⟩ |
        ⟨before, last, _, _, joined⟩
    · exact ⟨_, empty⟩
    · refine absurd unended (ended line ?_)
      rw [shape, List.dropLast_append_of_ne_nil (by simp), List.dropLast_cons_of_ne_nil more]
      simp
    · exact ⟨_, joined⟩

theorem eq_nil_of_value_eq_ok {value : Text} (valued : block.value = .ok value)
    (none : block.lines = []) : value = [] := by
  have fits : ∀ line ∈ block.lines, ¬ line.Misfits block.indentation := by simp [none]
  rw [value_of_fits fits, none] at valued
  cases valued
  rfl

theorem eq_intercalate_of_value_eq_ok {value : Text} {before : List Line} {last : Line}
    (valued : block.value = .ok value) (shape : block.lines = before ++ [last]) :
    value = ['\n'].intercalate
      (before.map (Line.piece block.indentation) ++ [last.dedented block.indentation]) := by
  obtain ⟨fits, ended⟩ := exists_value_eq_ok_iff.mp ⟨value, valued⟩
  rw [shape, List.dropLast_concat] at ended
  exact Except.ok.inj (valued.symm.trans (value_of_ended fits shape ended))

/-- A block of terminated lines has a value, or a line of it is misindented. -/
theorem value_cases (terminated : ∀ line ∈ block.lines, line.terminator ≠ .absent) :
    (∃ value, block.value = .ok value) ∨
      ∃ line position, block.value = .error (.malformed (.misindented line position)) := by
  rcases exists_firstMisfit_or_fits block.indentation block.lines with
    ⟨index, position, first⟩ | fits
  · exact .inr ⟨index, position, value_of_firstMisfit first⟩
  · left
    rw [exists_value_eq_ok_iff]
    exact ⟨fits, fun line member => terminated line (List.dropLast_subset _ member)⟩

end Block

end Verbatim
