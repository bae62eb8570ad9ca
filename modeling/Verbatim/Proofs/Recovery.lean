import Verbatim.Proofs.Skipping

/-!
# Skipping a literal as if it were repaired

An opening line with stray text is repaired by blanking out what follows the marker on
it.  `skip_as_repaired` says that skipping ends where the repaired literal ends, and breaks
off where a scan of the repaired literal would.  A literal that needs no repair is skipped
as a whole.

The reason is that blanks change neither where the opening line ends nor any later line.
-/

namespace Verbatim

namespace Text

/-- The text with blanks in place of its first line. -/
def withBlankFirstLine (text : Text) : Text :=
  List.replicate text.firstLine.length ' ' ++ text.dropWhile (· ≠ '\n')

/-- The text with blanks from a position on, as far as that line reaches. -/
def withBlankLine (text : Text) (position : Nat) : Text :=
  text.take position ++ withBlankFirstLine (text.drop position)

theorem length_withBlankFirstLine (text : Text) :
    text.withBlankFirstLine.length = text.length := by
  have whole := congrArg List.length text.firstLine_append_dropWhile
  rw [List.length_append] at whole
  rw [withBlankFirstLine, List.length_append, List.length_replicate, whole]

theorem length_withBlankLine (text : Text) (position : Nat) :
    (text.withBlankLine position).length = text.length := by
  rw [withBlankLine, List.length_append, length_withBlankFirstLine, ← List.length_append,
    List.take_append_drop]

theorem splitOn_withBlankFirstLine {text opening : Text} {later : List Text}
    (lines : text.splitOn '\n' = opening :: later) :
    text.withBlankFirstLine.splitOn '\n' = List.replicate opening.length ' ' :: later := by
  have unbroken : '\n' ∉ List.replicate opening.length ' ' := by
    intro member
    exact absurd (List.eq_of_mem_replicate member) (by decide)
  rw [withBlankFirstLine, firstLine_eq_of_splitOn_eq_cons lines]
  rcases text.unbroken_or_exists_eq_append_lineFeed with whole | broken
  · have none := dropWhile_append_of_unbroken whole []
    rw [List.splitOn_eq_singleton whole] at lines
    rw [List.append_nil] at none
    rw [none, List.dropWhile_nil, List.append_nil, List.splitOn_eq_singleton unbroken,
      (List.cons.inj lines).2]
  · obtain ⟨line, rest, lineUnbroken, rfl⟩ := broken
    rw [List.splitOn_append_cons_self_of_not_mem lineUnbroken] at lines
    have feed : ('\n' :: rest).dropWhile (· ≠ '\n') = '\n' :: rest := by simp
    rw [dropWhile_append_of_unbroken lineUnbroken, feed,
      List.splitOn_append_cons_self_of_not_mem unbroken, (List.cons.inj lines).2]

theorem head?_withBlankFirstLine_ne {text : Text} {quote : Char}
    (boundary : text.head? ≠ some quote) (notBlank : quote ≠ ' ') :
    text.withBlankFirstLine.head? ≠ some quote := by
  cases text with
  | nil => simp [withBlankFirstLine, firstLine]
  | cons char rest =>
      by_cases feed : char = '\n'
      · simpa [withBlankFirstLine, firstLine, feed] using boundary
      · simpa [withBlankFirstLine, firstLine, feed, List.replicate_succ] using Ne.symm notBlank

end Text

theorem Dialect.isWhitespace_blank (dialect : Dialect) : dialect.isWhitespace ' ' = true := by
  cases mode : dialect.whitespace <;> simp [isWhitespace, mode, Whitespace.characters]

section Repair

variable {dialect : Dialect} {text : Text} {offset : Nat}

namespace MarkerAt

variable {quote : Char} {length : Nat} {rest : Text}

/-- Blanks behind a marker leave it as it is. -/
theorem withBlankLine (marker : MarkerAt dialect text offset quote length rest)
    (notBlank : quote ≠ ' ') :
    MarkerAt dialect (text.withBlankLine (offset + length)) offset quote length
      rest.withBlankFirstLine where
  isQuote := marker.isQuote
  longEnough := marker.longEnough
  shape := by
    have inside : offset ≤ (text.take (offset + length)).length := by
      have whole := marker.length_eq
      rw [List.length_take]
      omega
    rw [Text.withBlankLine, marker.drop_eq_rest, List.drop_append_of_le_length inside,
      List.drop_take, marker.shape, Nat.add_sub_cancel_left,
      List.take_left' List.length_replicate]
  boundary := Text.head?_withBlankFirstLine_ne marker.boundary notBlank

/-- Skipping finds the end that a scan finds once the opening line is blank. -/
theorem skip_eq_map_scan (marker : MarkerAt dialect text offset quote length rest)
    (notBlank : quote ≠ ' ') :
    skip dialect text offset =
      (scan dialect (text.withBlankLine (offset + length)) offset).map Block.finish := by
  obtain ⟨opening, later, lines⟩ := Text.exists_splitOn_eq_cons rest
  have repaired := marker.withBlankLine notBlank
  have repairedLines := Text.splitOn_withBlankFirstLine lines
  have blank : ∀ char ∈ Text.withoutFinalReturn (List.replicate opening.length ' '),
      dialect.isWhitespace char = true := by
    intro char member
    have among := (Text.withoutFinalReturn_prefix _).subset member
    rw [List.eq_of_mem_replicate among]
    exact dialect.isWhitespace_blank
  rcases exists_first_closing_or_stays dialect quote length later with stays | found
  · rw [marker.skip_of_stays lines stays, repaired.scan_of_stays repairedLines blank stays,
      Text.length_withBlankLine]
    rfl
  · obtain ⟨before, line, after, indentation, rfl, stays, closes⟩ := found
    rw [marker.skip_of_closing lines stays closes,
      repaired.scan_of_closing repairedLines blank stays closes, List.length_replicate]
    rfl

end MarkerAt

theorem skip_eq_ok_of_scan_eq_ok {block : Block} (scanned : scan dialect text offset = .ok block) :
    skip dialect text offset = .ok block.finish := by
  obtain ⟨layout, following, shape, boundary, rfl⟩ := scan_eq_ok_iff.mp scanned
  have marker := layout.markerAt shape
  have whole := marker.length_eq
  rw [marker.skip_of_complete (Text.afterFirstLine?_append_lineFeed layout.openingUnbroken _)
    (layout.capture_body boundary _)]
  simp only [Layout.block, layout.length_characters, Except.ok.injEq]
  simp only [List.length_append, List.length_cons] at whole ⊢
  omega

/-- What the opening line holds is no concern of a skip. -/
theorem skip_ne_stray (position : Int) :
    skip dialect text offset ≠ .error (.malformed (.strayText position)) := by
  rcases skip_verdicts dialect text offset with
    ⟨_, missing | ⟨found, short⟩⟩ | ⟨_, unterminated⟩ | ⟨finish, _, closed⟩
  · simp [missing]
  · simp [short]
  · simp [unterminated]
  · simp [closed]

end Repair

/-- Behind a marker, skipping ends where the literal ends once its opening line is blank,
and finds it unclosed if it is then unclosed.  Stray text never stops a skip, and a literal
that scans is skipped to its end. -/
theorem skip_as_repaired (dialect : Dialect) (text : Text) (offset : Nat) :
    (∀ quote length, quote ∈ dialect.quotes → quote ≠ ' ' → RunAt text offset quote length →
      minimumMarkerLength ≤ length →
      (∀ finish, skip dialect text offset = .ok finish ↔
        ∃ block, scan dialect (text.withBlankLine (offset + length)) offset = .ok block ∧
          block.finish = finish) ∧
      ∀ start finish,
        skip dialect text offset = .error (.malformed (.unterminated start finish)) ↔
          scan dialect (text.withBlankLine (offset + length)) offset =
            .error (.malformed (.unterminated start finish))) ∧
    (∀ position, skip dialect text offset ≠ .error (.malformed (.strayText position))) ∧
    ∀ block, scan dialect text offset = .ok block →
      skip dialect text offset = .ok block.finish := by
  refine ⟨?_, skip_ne_stray, fun block => skip_eq_ok_of_scan_eq_ok⟩
  intro quote length isQuote notBlank run longEnough
  have marker := markerAt_of_runAt isQuote run longEnough
  rw [marker.skip_eq_map_scan notBlank]
  cases scan dialect (text.withBlankLine (offset + length)) offset with
  | ok block => simp [Except.map]
  | error failure => simp [Except.map]

/-- Stray text with a carriage return behind it, and a closing line that the stray text
does not hide.  Repaired, the literal is skipped as well. -/
theorem skip_as_repaired_stray_text :
    let text : Text := ['"', '"', '"', 'x', '"', '\r', '\n', 'a', '\n', ' ', '"', '"', '"', 'y']
    let repaired : Text := ['"', '"', '"', ' ', ' ', ' ', '\n', 'a', '\n', ' ', '"', '"', '"', 'y']
    RunAt text 0 '"' 3 ∧ text.withBlankLine 3 = repaired ∧
      scan .standard text 0 = .error (.malformed (.strayText 3)) ∧
      (∃ block, scan .standard repaired 0 = .ok block ∧ block.finish = 13) ∧
      skip .standard text 0 = .ok 13 ∧ skip .standard repaired 0 = .ok 13 := by
  intro text repaired
  have run : RunAt text 0 '"' 3 := runAt_iff_leadingRun_eq.mpr (by decide)
  have blanked : text.withBlankLine 3 = repaired := by decide
  have skipped : skip .standard text (0 : Nat) = .ok 13 := by decide +kernel
  obtain ⟨ends, _⟩ := (skip_as_repaired .standard text 0).1 '"' 3 (by decide) (by decide) run
    (by decide)
  obtain ⟨block, scanned, finished⟩ := (ends 13).mp skipped
  rw [Nat.zero_add, blanked] at scanned
  refine ⟨run, blanked, by decide +kernel, ⟨block, scanned, finished⟩, skipped, ?_⟩
  exact finished ▸ (skip_as_repaired .standard repaired 0).2.2 block scanned

end Verbatim
