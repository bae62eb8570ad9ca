import Verbatim.Proofs.Layout

/-!
# The grammar of verbatim strings

`scan_grammar` says for every text and offset what a scan answers, in terms of
maximal runs, physical lines and closing lines alone.  Without a marker at the
offset there is nothing to scan.  With one, the rest of its line is judged first,
whether or not more lines follow, and then the first closing line decides.

`scan_eq_ok_iff` sums up the successful case: a scan succeeds exactly where the
text goes on with a layout.
-/

namespace Verbatim

/-- No marker stands at an offset: the text does not reach so far, or the character
there is no quote, or its run is too short. -/
def LacksMarker (dialect : Dialect) (text : Text) (offset : Nat) : Prop :=
  text.length ≤ offset ∨
    ∃ char, text[offset]? = some char ∧
      (char ∉ dialect.quotes ∨
        ∃ length, RunAt text offset char length ∧ length < minimumMarkerLength)

/-- A character is the first of a text that is not whitespace, with as many
characters before it as the index says. -/
def FirstStray (dialect : Dialect) (text : Text) (index : Nat) : Prop :=
  (∃ char, text[index]? = some char ∧ dialect.isWhitespace char = false) ∧
    ∀ earlier ∈ text.take index, dialect.isWhitespace earlier = true

/-- Stray text stands behind the marker at an offset, and begins at a position. -/
def StrayAt (dialect : Dialect) (text : Text) (offset : Nat) (position : Int) : Prop :=
  ∃ quote length rest index, MarkerAt dialect text offset quote length rest ∧
    FirstStray dialect rest.firstLine.withoutFinalReturn index ∧
    position = offset + length + index

/-- The marker at an offset has a blank opening line, and no line closes it. -/
def UnclosedAt (dialect : Dialect) (text : Text) (offset : Nat) : Prop :=
  ∃ (quote : Char) (length : Nat) (rest opening : Text) (later : List Text),
    MarkerAt dialect text offset quote length rest ∧
    rest.splitOn '\n' = opening :: later ∧
    (∀ char ∈ opening.withoutFinalReturn, dialect.isWhitespace char = true) ∧
    ∀ line ∈ later, ¬ Closes dialect quote length line

theorem blank_or_exists_firstStray (dialect : Dialect) (text : Text) :
    (∀ char ∈ text, dialect.isWhitespace char = true) ∨
      ∃ index, FirstStray dialect text index := by
  induction text with
  | nil => exact .inl (by simp)
  | cons char rest induction =>
      by_cases whitespace : dialect.isWhitespace char = true
      · rcases induction with blank | ⟨index, place, blank⟩
        · exact .inl (List.forall_mem_cons.mpr ⟨whitespace, blank⟩)
        · refine .inr ⟨index + 1, by simpa using place, ?_⟩
          rw [List.take_succ_cons]
          exact List.forall_mem_cons.mpr ⟨whitespace, blank⟩
      · exact .inr ⟨0, ⟨char, rfl, by simpa using whitespace⟩, by simp⟩

theorem markerAt_of_runAt
    {dialect : Dialect} {text : Text} {offset : Nat} {quote : Char} {length : Nat}
    (isQuote : quote ∈ dialect.quotes) (run : RunAt text offset quote length)
    (longEnough : minimumMarkerLength ≤ length) :
    MarkerAt dialect text offset quote length (text.drop (offset + length)) := by
  obtain ⟨rest, shape, boundary⟩ := runAt_iff_drop_eq.mp run
  have remaining : text.drop (offset + length) = rest := by
    rw [← List.drop_drop, shape]
    exact List.drop_left' List.length_replicate
  rw [remaining]
  exact ⟨by simpa [Dialect.isQuote] using isQuote, longEnough, shape, boundary⟩

theorem lacksMarker_or_exists_markerAt (dialect : Dialect) (text : Text) (offset : Nat) :
    LacksMarker dialect text offset ∨
      ∃ quote length rest, MarkerAt dialect text offset quote length rest := by
  cases place : text[offset]? with
  | none => exact .inl (.inl (List.getElem?_eq_none_iff.mp place))
  | some quote =>
      by_cases isQuote : quote ∈ dialect.quotes
      · have run : RunAt text offset quote (leadingRun quote (text.drop offset)) :=
          runAt_iff_leadingRun_eq.mpr rfl
        by_cases short : leadingRun quote (text.drop offset) < minimumMarkerLength
        · exact .inl (.inr ⟨quote, place, .inr ⟨_, run, short⟩⟩)
        · exact .inr ⟨quote, _, _,
            markerAt_of_runAt isQuote run (Nat.le_of_not_lt short)⟩
      · exact .inl (.inr ⟨quote, place, .inl isQuote⟩)

theorem scan_eq_error_of_find_eq_error
    {dialect : Dialect} {text : Text} {offset : Int} {failure : Failure}
    (missing : Opening.find dialect text offset = .error failure) :
    scan dialect text offset = .error failure := by
  unfold scan Scanner.start
  rw [missing]
  rfl

theorem find_of_lacksMarker
    {dialect : Dialect} {text : Text} {offset : Nat}
    (lacks : LacksMarker dialect text offset) :
    Opening.find dialect text offset = .error (.noMarker offset) ∨
      ∃ found, Opening.find dialect text offset = .error (.shortMarker found offset) := by
  rcases lacks with outside | ⟨char, place, fault⟩
  · left
    rw [Opening.find_natCast, List.drop_eq_nil_of_le outside]
    rfl
  · obtain ⟨rest, shape⟩ : ∃ rest, text.drop offset = char :: rest := by
      obtain ⟨inside, rfl⟩ := List.getElem?_eq_some_iff.mp place
      exact ⟨_, List.drop_eq_getElem_cons inside⟩
    by_cases isQuote : char ∈ dialect.quotes
    · rcases fault with noQuote | ⟨length, run, short⟩
      · exact absurd isQuote noQuote
      · right
        have counted := runAt_iff_leadingRun_eq.mp run
        refine ⟨length, ?_⟩
        rw [shape] at counted
        rw [Opening.find_natCast, shape]
        simp [Opening.measure, Dialect.isQuote, isQuote, counted, short]
    · left
      rw [Opening.find_natCast, shape]
      simp [Opening.measure, Dialect.isQuote, isQuote]

theorem scan_of_lacksMarker
    {dialect : Dialect} {text : Text} {offset : Nat}
    (lacks : LacksMarker dialect text offset) :
    scan dialect text offset = .error (.noMarker offset) ∨
      ∃ found, scan dialect text offset = .error (.shortMarker found offset) := by
  rcases find_of_lacksMarker lacks with missing | ⟨found, short⟩
  · left
    exact scan_eq_error_of_find_eq_error missing
  · right
    exact ⟨found, scan_eq_error_of_find_eq_error short⟩

namespace MarkerAt

variable {dialect : Dialect} {text : Text} {offset : Nat} {quote : Char} {length : Nat}
variable {rest opening : Text} {later : List Text}

theorem scan_of_firstStray (marker : MarkerAt dialect text offset quote length rest)
    (lines : rest.splitOn '\n' = opening :: later)
    {index : Nat} (first : FirstStray dialect opening.withoutFinalReturn index) :
    scan dialect text offset =
      .error (.malformed (.strayText (offset + length + index))) := by
  have line := Text.firstLine_eq_of_splitOn_eq_cons lines
  rw [← line] at first
  obtain ⟨⟨char, place, stray⟩, blank⟩ := first
  exact marker.scan_of_stray (OpeningLine.read_eq_stray_of place stray blank)

theorem scan_of_stays (marker : MarkerAt dialect text offset quote length rest)
    (lines : rest.splitOn '\n' = opening :: later)
    (blank : ∀ char ∈ opening.withoutFinalReturn, dialect.isWhitespace char = true)
    (stays : ∀ line ∈ later, ¬ Closes dialect quote length line) :
    scan dialect text offset =
      .error (.malformed (.unterminated offset text.length)) := by
  have line := Text.firstLine_eq_of_splitOn_eq_cons lines
  rw [← line] at blank
  rcases rest.unbroken_or_exists_eq_append_lineFeed with unbroken | broken
  · exact marker.scan_of_cutOff (OpeningLine.read_eq_cutOff_of blank
      (Text.afterFirstLine?_of_unbroken unbroken))
  · obtain ⟨first, body, unbroken, rfl⟩ := broken
    rw [List.splitOn_append_cons_self_of_not_mem unbroken] at lines
    obtain ⟨rfl, rfl⟩ := List.cons.inj lines
    rw [marker.scan_of_complete (OpeningLine.read_eq_complete_of blank
      (Text.afterFirstLine?_append_lineFeed unbroken body)) rfl,
      indentation?_capture_of_stay stays]

theorem scan_of_closing (marker : MarkerAt dialect text offset quote length rest)
    {before after : List Text} {line indentation : Text}
    (lines : rest.splitOn '\n' = opening :: before ++ line :: after)
    (blank : ∀ char ∈ opening.withoutFinalReturn, dialect.isWhitespace char = true)
    (stays : ∀ earlier ∈ before, ¬ Closes dialect quote length earlier)
    (closes : ClosesWith dialect quote length line indentation) :
    scan dialect text offset = .ok
      { markerLength := length
        trailing := opening.withoutFinalReturn
        lines := Line.placed (offset + length + opening.length + 1) before
        indentation := indentation
        quote := quote
        start := offset
        finish := offset + length + opening.length + 1 +
          (Text.terminated before).length + indentation.length + length } := by
  obtain ⟨layout, following, shape, boundary, rfl, rfl, rfl, rfl, rfl⟩ :=
    marker.exists_layout lines blank stays closes
  rw [layout.scan_eq_ok shape boundary]
  simp only [Layout.block, Except.ok.injEq, Block.mk.injEq, true_and]
  rw [layout.length_characters, layout.length_body]
  omega

/-- After a blank opening line, a scan succeeds if and only if some line closes. -/
theorem exists_scan_eq_ok_iff (marker : MarkerAt dialect text offset quote length rest)
    (lines : rest.splitOn '\n' = opening :: later)
    (blank : ∀ char ∈ opening.withoutFinalReturn, dialect.isWhitespace char = true) :
    (∃ block, scan dialect text offset = .ok block) ↔
      '\n' ∈ rest ∧ ∃ line ∈ later, Closes dialect quote length line := by
  constructor
  · rintro ⟨block, scanned⟩
    rcases exists_first_closing_or_stays dialect quote length later with stays | found
    · rw [marker.scan_of_stays lines blank stays] at scanned
      cases scanned
    · obtain ⟨before, line, after, indentation, rfl, _, closes⟩ := found
      refine ⟨?_, line, by simp, indentation, closes⟩
      by_contra unbroken
      rw [List.splitOn_eq_singleton unbroken] at lines
      simp at lines
  · rintro ⟨_, line, member, closes⟩
    rcases exists_first_closing_or_stays dialect quote length later with stays | found
    · exact absurd closes (stays line member)
    · obtain ⟨before, first, after, indentation, rfl, stays, closesWith⟩ := found
      exact ⟨_, marker.scan_of_closing lines blank stays closesWith⟩

/-- What follows a marker is judged in one of three ways. -/
theorem scan_cases (marker : MarkerAt dialect text offset quote length rest) :
    (∃ position, StrayAt dialect text offset position ∧
      scan dialect text offset = .error (.malformed (.strayText position))) ∨
    (UnclosedAt dialect text offset ∧
      scan dialect text offset = .error (.malformed (.unterminated offset text.length))) ∨
    ∃ (layout : Layout dialect) (following : Text),
      text.drop offset = layout.characters ++ following ∧
      following.head? ≠ some layout.quote := by
  obtain ⟨opening, later, lines⟩ := Text.exists_splitOn_eq_cons rest
  rcases blank_or_exists_firstStray dialect opening.withoutFinalReturn with blank | stray
  · rcases exists_first_closing_or_stays dialect quote length later with stays | found
    · right; left
      exact ⟨⟨quote, length, rest, opening, later, marker, lines, blank, stays⟩,
        marker.scan_of_stays lines blank stays⟩
    · obtain ⟨before, line, after, indentation, rfl, stays, closes⟩ := found
      obtain ⟨layout, following, shape, boundary, _⟩ :=
        marker.exists_layout lines blank stays closes
      exact .inr (.inr ⟨layout, following, shape, boundary⟩)
  · obtain ⟨index, first⟩ := stray
    have scanned := marker.scan_of_firstStray lines first
    rw [← Text.firstLine_eq_of_splitOn_eq_cons lines] at first
    exact .inl ⟨_, ⟨quote, length, rest, index, marker, first, rfl⟩, scanned⟩

end MarkerAt

/-- Every scan comes to one of four verdicts, and each rests on what the text holds
from the offset on. -/
theorem scan_verdicts (dialect : Dialect) (text : Text) (offset : Nat) :
    (LacksMarker dialect text offset ∧
      (scan dialect text offset = .error (.noMarker offset) ∨
        ∃ found, scan dialect text offset = .error (.shortMarker found offset))) ∨
    (∃ position, StrayAt dialect text offset position ∧
      scan dialect text offset = .error (.malformed (.strayText position))) ∨
    (UnclosedAt dialect text offset ∧
      scan dialect text offset = .error (.malformed (.unterminated offset text.length))) ∨
    ∃ (layout : Layout dialect) (following : Text),
      text.drop offset = layout.characters ++ following ∧
      following.head? ≠ some layout.quote ∧
      scan dialect text offset = .ok (layout.block offset) := by
  rcases lacksMarker_or_exists_markerAt dialect text offset with lacks | found
  · exact .inl ⟨lacks, scan_of_lacksMarker lacks⟩
  · obtain ⟨quote, length, rest, marker⟩ := found
    rcases marker.scan_cases with stray | unclosed | ⟨layout, following, shape, boundary⟩
    · exact .inr (.inl stray)
    · exact .inr (.inr (.inl unclosed))
    · exact .inr (.inr (.inr
        ⟨layout, following, shape, boundary, layout.scan_eq_ok shape boundary⟩))

section Verdicts

variable {dialect : Dialect} {text : Text} {offset : Nat}

theorem MarkerAt.scan_ne_missing {quote : Char} {length : Nat} {rest : Text}
    (marker : MarkerAt dialect text offset quote length rest) :
    ¬ (scan dialect text offset = .error (.noMarker offset) ∨
      ∃ found, scan dialect text offset = .error (.shortMarker found offset)) := by
  intro missing
  rcases marker.scan_cases with ⟨position, _, stray⟩ | ⟨_, unclosed⟩ | standing
  · simp [stray] at missing
  · simp [unclosed] at missing
  · obtain ⟨layout, following, shape, boundary⟩ := standing
    simp [layout.scan_eq_ok shape boundary] at missing

/-- Scanning succeeds exactly at the layouts of a text. -/
theorem scan_eq_ok_iff {block : Block} :
    scan dialect text offset = .ok block ↔
      ∃ (layout : Layout dialect) (following : Text),
        text.drop offset = layout.characters ++ following ∧
        following.head? ≠ some layout.quote ∧
        layout.block offset = block := by
  constructor
  · intro scanned
    rcases scan_verdicts dialect text offset with
      ⟨_, missing | ⟨length, short⟩⟩ | ⟨position, _, stray⟩ | ⟨_, unclosed⟩ | standing
    · simp [missing] at scanned
    · simp [short] at scanned
    · simp [stray] at scanned
    · simp [unclosed] at scanned
    · obtain ⟨layout, following, shape, boundary, found⟩ := standing
      rw [found] at scanned
      exact ⟨layout, following, shape, boundary, Except.ok.inj scanned⟩
  · rintro ⟨layout, following, shape, boundary, rfl⟩
    exact layout.scan_eq_ok shape boundary

theorem scan_eq_stray_iff {position : Int} :
    scan dialect text offset = .error (.malformed (.strayText position)) ↔
      StrayAt dialect text offset position := by
  constructor
  · intro scanned
    rcases scan_verdicts dialect text offset with
      ⟨_, missing | ⟨length, short⟩⟩ | ⟨other, stray, found⟩ | ⟨_, unclosed⟩ | standing
    · simp [missing] at scanned
    · simp [short] at scanned
    · obtain rfl : other = position := by simpa [found] using scanned
      exact stray
    · simp [unclosed] at scanned
    · obtain ⟨layout, following, _, _, found⟩ := standing
      simp [found] at scanned
  · rintro ⟨quote, length, rest, index, marker, first, rfl⟩
    obtain ⟨opening, later, lines⟩ := Text.exists_splitOn_eq_cons rest
    rw [Text.firstLine_eq_of_splitOn_eq_cons lines] at first
    exact marker.scan_of_firstStray lines first

theorem scan_eq_unterminated_iff {start finish : Int} :
    scan dialect text offset = .error (.malformed (.unterminated start finish)) ↔
      UnclosedAt dialect text offset ∧ start = offset ∧ finish = text.length := by
  constructor
  · intro scanned
    rcases scan_verdicts dialect text offset with
      ⟨_, missing | ⟨length, short⟩⟩ | ⟨position, _, stray⟩ | ⟨unclosed, found⟩ | standing
    · simp [missing] at scanned
    · simp [short] at scanned
    · simp [stray] at scanned
    · rw [found] at scanned
      cases scanned
      exact ⟨unclosed, rfl, rfl⟩
    · obtain ⟨layout, following, _, _, found⟩ := standing
      simp [found] at scanned
  · rintro ⟨⟨quote, length, rest, opening, later, marker, lines, blank, stays⟩, rfl, rfl⟩
    exact marker.scan_of_stays lines blank stays

/-- Indentation is no concern of a scan. -/
theorem scan_ne_misindented (line : Nat) (position : Int) :
    scan dialect text offset ≠ .error (.malformed (.misindented line position)) := by
  rcases scan_verdicts dialect text offset with
    ⟨_, missing | ⟨length, short⟩⟩ | ⟨other, _, stray⟩ | ⟨_, unclosed⟩ | standing
  · simp [missing]
  · simp [short]
  · simp [stray]
  · simp [unclosed]
  · obtain ⟨layout, following, _, _, found⟩ := standing
    simp [found]

end Verdicts

/-- A scan at an offset has no marker to begin with, or it answers by the rest of
the opening line if that holds stray text, or else by the first closing line. -/
theorem scan_grammar (dialect : Dialect) (text : Text) (offset : Nat) :
    (LacksMarker dialect text offset ↔
      scan dialect text offset = .error (.noMarker offset) ∨
        ∃ found, scan dialect text offset = .error (.shortMarker found offset)) ∧
    ∀ (quote : Char) (length : Nat) (opening : Text) (later : List Text),
      quote ∈ dialect.quotes →
      RunAt text offset quote length →
      minimumMarkerLength ≤ length →
      (text.drop (offset + length)).splitOn '\n' = opening :: later →
      (∀ index, FirstStray dialect opening.withoutFinalReturn index →
        scan dialect text offset =
          .error (.malformed (.strayText (offset + length + index)))) ∧
      ((∀ char ∈ opening.withoutFinalReturn, dialect.isWhitespace char = true) →
        ((∃ block, scan dialect text offset = .ok block) ↔
          '\n' ∈ text.drop (offset + length) ∧
            ∃ line ∈ later, Closes dialect quote length line) ∧
        (∀ before line after indentation,
          later = before ++ line :: after →
          (∀ earlier ∈ before, ¬ Closes dialect quote length earlier) →
          ClosesWith dialect quote length line indentation →
          scan dialect text offset = .ok
            { markerLength := length
              trailing := opening.withoutFinalReturn
              lines := Line.placed (offset + length + opening.length + 1) before
              indentation := indentation
              quote := quote
              start := offset
              finish := offset + length + opening.length + 1 +
                (Text.terminated before).length + indentation.length + length }) ∧
        ((∀ line ∈ later, ¬ Closes dialect quote length line) →
          scan dialect text offset =
            .error (.malformed (.unterminated offset text.length)))) := by
  refine ⟨⟨scan_of_lacksMarker, ?_⟩, ?_⟩
  · intro missing
    rcases lacksMarker_or_exists_markerAt dialect text offset with lacks | found
    · exact lacks
    · obtain ⟨quote, length, rest, marker⟩ := found
      exact absurd missing marker.scan_ne_missing
  · intro quote length opening later isQuote run longEnough lines
    have marker := markerAt_of_runAt isQuote run longEnough
    refine ⟨?_, ?_⟩
    · intro index first
      exact marker.scan_of_firstStray lines first
    · intro blank
      refine ⟨marker.exists_scan_eq_ok_iff lines blank, ?_,
        marker.scan_of_stays lines blank⟩
      rintro before line after indentation rfl stays closes
      exact marker.scan_of_closing lines blank stays closes

/-- A run of four does not close a marker of three, and a run of three does with
text behind it. -/
theorem scan_grammar_near_miss :
    let text := ['"', '"', '"', '\t', '\r', '\n', '"', '"', '"', '"', '\n', ' ', '"', '"', '"', 'y']
    RunAt text 0 '"' 3 ∧
      ¬ Closes .standard '"' 3 ['"', '"', '"', '"'] ∧
      ClosesWith .standard '"' 3 [' ', '"', '"', '"', 'y'] [' '] ∧
      scan .standard text 0 = .ok
        { markerLength := 3
          trailing := ['\t']
          lines := [⟨['"', '"', '"', '"'], .lineFeed, 6⟩]
          indentation := [' ']
          quote := '"'
          start := 0
          finish := 15 } := by
  intro text
  have run : RunAt text 0 '"' 3 := runAt_iff_leadingRun_eq.mpr (by decide)
  have stays : ¬ Closes .standard '"' 3 ['"', '"', '"', '"'] :=
    closingIndentation?_eq_none_iff.mp (by decide)
  have closes : ClosesWith .standard '"' 3 [' ', '"', '"', '"', 'y'] [' '] :=
    closingIndentation?_eq_some_iff.mp (by decide)
  refine ⟨run, stays, closes, ?_⟩
  have grammar := (scan_grammar .standard text 0).2 '"' 3 ['\t', '\r']
    [['"', '"', '"', '"'], [' ', '"', '"', '"', 'y']] (by decide) run (by decide) (by decide)
  have blank : ∀ char ∈ Text.withoutFinalReturn ['\t', '\r'],
      Dialect.standard.isWhitespace char = true := by
    intro char member
    have isTab : char = '\t' := by simpa [Text.withoutFinalReturn] using member
    rw [isTab]
    decide
  have scanned := (grammar.2 blank).2.1 [['"', '"', '"', '"']] [' ', '"', '"', '"', 'y'] []
    [' '] rfl (by simpa using stays) closes
  exact scanned

end Verbatim
