import Verbatim.Proofs.Runs
import Verbatim.Capture

/-!
# Physical lines

The physical lines of a text are the stretches between its line feeds, in the
order of the text: `text.splitOn '\n'`.  The last one is whatever follows the
last line feed.  `Text.terminated` puts lines back together, each with a line
feed after it.

The theorems say how the functions that read a text line by line see a text that
is given by its lines.
-/

namespace Verbatim

namespace Text

/-- Lines one after another, each followed by a line feed. -/
def terminated (lines : List Text) : Text :=
  lines.flatMap fun line => line ++ ['\n']

@[simp] theorem terminated_nil : terminated [] = [] := rfl

@[simp] theorem terminated_cons (line : Text) (later : List Text) :
    terminated (line :: later) = line ++ '\n' :: terminated later := by
  simp [terminated]

@[simp] theorem terminated_append (before after : List Text) :
    terminated (before ++ after) = terminated before ++ terminated after := by
  simp [terminated]

theorem lineFeed_not_mem_firstLine (text : Text) : '\n' ∉ text.firstLine := by
  intro member
  have apart := List.mem_takeWhile_imp member
  simp at apart

theorem firstLine_append {front : Text} (unbroken : '\n' ∉ front) (rest : Text) :
    (front ++ rest).firstLine = front ++ rest.firstLine := by
  unfold firstLine
  apply List.takeWhile_append_of_pos
  intro char member
  have different : char ≠ '\n' := by
    rintro rfl
    exact unbroken member
  simp [different]

theorem dropWhile_append_of_unbroken {front : Text} (unbroken : '\n' ∉ front)
    (rest : Text) :
    (front ++ rest).dropWhile (· ≠ '\n') = rest.dropWhile (· ≠ '\n') := by
  apply List.dropWhile_append_of_pos
  intro char member
  have different : char ≠ '\n' := by
    rintro rfl
    exact unbroken member
  simp [different]

theorem firstLine_append_lineFeed {line : Text} (unbroken : '\n' ∉ line) (rest : Text) :
    (line ++ '\n' :: rest).firstLine = line := by
  rw [firstLine_append unbroken]
  simp [firstLine]

theorem afterFirstLine?_of_unbroken {line : Text} (unbroken : '\n' ∉ line) :
    line.afterFirstLine? = none := by
  have dropped := dropWhile_append_of_unbroken unbroken []
  rw [List.append_nil] at dropped
  unfold afterFirstLine?
  rw [dropped]
  rfl

theorem afterFirstLine?_append_lineFeed {line : Text} (unbroken : '\n' ∉ line)
    (rest : Text) :
    (line ++ '\n' :: rest).afterFirstLine? = some rest := by
  have dropped := dropWhile_append_of_unbroken unbroken ('\n' :: rest)
  unfold afterFirstLine?
  rw [dropped]
  simp

/-- A text is one line, or a line, a line feed and the lines after it. -/
theorem unbroken_or_exists_eq_append_lineFeed (text : Text) :
    '\n' ∉ text ∨ ∃ line rest, '\n' ∉ line ∧ text = line ++ '\n' :: rest := by
  by_cases broken : '\n' ∈ text
  · obtain ⟨line, rest, shape, unbroken⟩ := List.eq_append_cons_of_mem broken
    exact .inr ⟨line, rest, unbroken, shape⟩
  · exact .inl broken

theorem exists_splitOn_eq_cons (text : Text) :
    ∃ (line : Text) (later : List Text), text.splitOn '\n' = line :: later :=
  List.exists_cons_of_ne_nil (List.splitOn_ne_nil '\n' text)

theorem lineFeed_not_mem_of_mem_splitOn {text line : Text}
    (member : line ∈ text.splitOn '\n') : '\n' ∉ line := by
  induction text generalizing line with
  | nil =>
      have empty : line = [] := by simpa using member
      simp [empty]
  | cons char rest induction =>
      rw [List.splitOn_cons_eq_if_modifyHead] at member
      obtain ⟨first, later, shape⟩ := exists_splitOn_eq_cons rest
      rw [shape] at member induction
      by_cases feed : char = '\n'
      · have among : line = [] ∨ line ∈ first :: later := by simpa [feed] using member
        rcases among with rfl | among
        · simp
        · exact induction among
      · have among : line = char :: first ∨ line ∈ later := by simpa [feed] using member
        rcases among with rfl | among
        · have unbroken : '\n' ∉ first := induction (by simp)
          simp [unbroken, Ne.symm feed]
        · exact induction (by simp [among])

/-- Where the lines of a text are cut in two, so is the text. -/
theorem exists_eq_terminated_append_of_splitOn_eq_append
    {text : Text} {before after : List Text} (nonempty : after ≠ [])
    (lines : text.splitOn '\n' = before ++ after) :
    ∃ rest, text = terminated before ++ rest ∧ rest.splitOn '\n' = after := by
  induction before generalizing text with
  | nil => exact ⟨text, rfl, lines⟩
  | cons line before induction =>
      rcases unbroken_or_exists_eq_append_lineFeed text with unbroken | broken
      · rw [List.splitOn_eq_singleton unbroken] at lines
        simp at lines
        exact absurd lines.2.2 nonempty
      · obtain ⟨first, rest, unbroken, rfl⟩ := broken
        rw [List.splitOn_append_cons_self_of_not_mem unbroken] at lines
        obtain ⟨rfl, later⟩ := List.cons.inj lines
        obtain ⟨remaining, rfl, split⟩ := induction later
        exact ⟨remaining, by simp, split⟩

/-- A text goes on behind its first line with a line feed, if at all. -/
theorem exists_eq_append_of_splitOn_eq_cons {text line : Text} {later : List Text}
    (lines : text.splitOn '\n' = line :: later) :
    ∃ tail, text = line ++ tail ∧ ∀ char ∈ tail.head?, char = '\n' := by
  rcases unbroken_or_exists_eq_append_lineFeed text with unbroken | broken
  · rw [List.splitOn_eq_singleton unbroken] at lines
    obtain ⟨rfl, rfl⟩ := List.cons.inj lines
    exact ⟨[], by simp, by simp⟩
  · obtain ⟨first, rest, unbroken, rfl⟩ := broken
    rw [List.splitOn_append_cons_self_of_not_mem unbroken] at lines
    obtain ⟨rfl, rfl⟩ := List.cons.inj lines
    exact ⟨'\n' :: rest, rfl, by simp⟩

theorem length_le_of_mem_splitOn {text line : Text} (member : line ∈ text.splitOn '\n') :
    line.length ≤ text.length := by
  obtain ⟨before, after, lines⟩ := List.append_of_mem member
  obtain ⟨rest, rfl, restLines⟩ :=
    exists_eq_terminated_append_of_splitOn_eq_append (by simp) lines
  obtain ⟨tail, rfl, _⟩ := exists_eq_append_of_splitOn_eq_cons restLines
  simp
  omega

theorem firstLine_eq_of_splitOn_eq_cons {text line : Text} {later : List Text}
    (lines : text.splitOn '\n' = line :: later) : text.firstLine = line := by
  have unbroken : '\n' ∉ line := by
    apply lineFeed_not_mem_of_mem_splitOn
    rw [lines]
    exact List.mem_cons_self
  obtain ⟨tail, rfl, feed⟩ := exists_eq_append_of_splitOn_eq_cons lines
  rw [firstLine_append unbroken]
  cases tail with
  | nil => simp [firstLine]
  | cons char tail => simp [firstLine, feed char rfl]

end Text

/-- Of the members of a list that satisfy a condition one is the first, if there are
any. -/
theorem exists_first_or_forall_not {α : Type} (condition : α → Prop) (list : List α) :
    (∀ member ∈ list, ¬ condition member) ∨
      ∃ before member after, list = before ++ member :: after ∧
        (∀ earlier ∈ before, ¬ condition earlier) ∧ condition member := by
  classical
  cases found : list.find? (decide <| condition ·) with
  | none =>
      left
      simpa using found
  | some member =>
      obtain ⟨holds, before, after, shape, earlier⟩ := List.find?_eq_some_iff_append.mp found
      exact .inr ⟨before, member, after, shape, by simpa using earlier, by simpa using holds⟩

end Verbatim
