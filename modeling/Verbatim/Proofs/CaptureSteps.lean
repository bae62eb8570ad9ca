import Verbatim.Proofs.Lossless

/-!
# Capturing one line after another

A scanner that stands inside its text captures the line that goes on from there, and
`StandsAt.captureLine_eq` says what it makes of it in the words of a capture.  Capturing
all the content is nothing but capturing line after line: `StandsAt.captureContent_eq`
goes one line ahead, so that what holds of one line can be shown of the whole content by
induction.
-/

namespace Verbatim

namespace Text

theorem take_length_firstLine (text : Text) :
    text.take text.firstLine.length = text.firstLine := by
  have whole := firstLine_append_dropWhile text
  calc text.take text.firstLine.length
      = (text.firstLine ++ text.dropWhile (· ≠ '\n')).take text.firstLine.length := by
        rw [whole]
    _ = text.firstLine := List.take_left

/-- A line without a line feed after it reaches to the end of the text. -/
theorem afterFirstLine?_eq_none_iff {text : Text} :
    text.afterFirstLine? = none ↔ text.firstLine.length = text.length := by
  constructor
  · intro last
    rcases text.unbroken_or_exists_eq_append_lineFeed with unbroken | broken
    · have line : text.firstLine = text := by
        simpa [firstLine] using firstLine_append unbroken []
      rw [line]
    · obtain ⟨line, rest, unbroken, rfl⟩ := broken
      rw [afterFirstLine?_append_lineFeed unbroken] at last
      cases last
  · intro whole
    cases follows : text.afterFirstLine? with
    | none => rfl
    | some rest =>
        have shape := congrArg List.length
          (eq_firstLine_append_of_afterFirstLine?_eq_some follows)
        rw [List.length_append, List.length_cons] at shape
        omega

end Text

theorem eq_takeWhile_of_closingIndentation?_eq_some {dialect : Dialect} {quote : Char}
    {length : Nat} {line indentation : Text}
    (closes : closingIndentation? dialect quote length line = some indentation) :
    indentation = line.takeWhile dialect.isWhitespace := by
  unfold closingIndentation? at closes
  split at closes
  · exact (Option.some.inj closes).symm
  · cases closes

/-- A scanner stands at a place inside its text, and `rest` is the text from there
on. -/
structure Scanner.StandsAt (scanner : Scanner) (place : Nat) (rest : Text) : Prop where
  position : scanner.position = place
  within : place ≤ scanner.text.length
  remaining : scanner.text.drop place = rest

namespace Scanner.StandsAt

variable {scanner : Scanner} {place : Nat} {rest : Text}

theorem suffix_eq (stands : scanner.StandsAt place rest) :
    scanner.text.suffix scanner.position = rest := by
  rw [stands.position, Text.suffix_natCast, stands.remaining]

theorem length_eq (stands : scanner.StandsAt place rest) :
    scanner.text.length = place + rest.length := by
  have within := stands.within
  rw [← stands.remaining, List.length_drop]
  omega

theorem lineEnd_eq (stands : scanner.StandsAt place rest) :
    scanner.text.lineEnd place = place + rest.firstLine.length := by
  unfold Text.lineEnd
  rw [Text.index_of_le_length stands.within, Text.suffix_natCast, stands.remaining]
  rfl

theorem slice_eq (stands : scanner.StandsAt place rest) {piece following : Text}
    (shape : rest = piece ++ following) :
    scanner.text.slice place ((place : Int) + piece.length) = piece :=
  Text.slice_of_drop_eq_append (stands.remaining.trans shape)

/-- The line that a scanner looks at. -/
theorem take_onward_eq (stands : scanner.StandsAt place rest) :
    (scanner.text.onward place).take ((scanner.text.lineEnd place : Int) - place).toNat =
      rest.firstLine := by
  have stop := stands.lineEnd_eq
  have width : ((scanner.text.lineEnd place : Int) - place).toNat = rest.firstLine.length := by
    omega
  rw [Text.onward_of_nonneg (Int.natCast_nonneg place), Int.toNat_natCast, width,
    stands.remaining]
  exact rest.take_length_firstLine

/-- The character before the end of a line is the last one of the line, if the line
has any. -/
theorem getLast?_firstLine_eq_some_iff (stands : scanner.StandsAt place rest) {char : Char} :
    rest.firstLine.getLast? = some char ↔
      (place : Int) < scanner.text.lineEnd place ∧
        scanner.text.charAt? (scanner.text.lineEnd place - 1 : Int) = some char := by
  have shape := stands.remaining.trans rest.firstLine_append_dropWhile.symm
  rw [stands.lineEnd_eq]
  rcases List.eq_nil_or_concat rest.firstLine with empty | ⟨front, last, ending⟩
  · simp [empty]
  · rw [List.concat_eq_append] at ending
    have position : (((place + rest.firstLine.length : Nat) : Int) - 1) =
        ((place + front.length : Nat) : Int) := by
      rw [ending, List.length_append, List.length_singleton]
      omega
    have further : (place : Int) < ((place + (front ++ [last]).length : Nat) : Int) := by
      rw [List.length_append, List.length_singleton]
      omega
    have final : (front ++ [last] ++ rest.dropWhile (· ≠ '\n'))[front.length]? = some last := by
      simp
    rw [position, Text.charAt?_natCast, ← List.getElem?_drop, shape, ending, final,
      List.getLast?_concat]
    exact ⟨fun same => ⟨further, same⟩, And.right⟩

/-- What is kept of the line is the line as it is placed. -/
theorem captured_eq (stands : scanner.StandsAt place rest) :
    (if (place : Int) < scanner.text.lineEnd place ∧
        scanner.text.charAt? (scanner.text.lineEnd place - 1 : Int) = some '\r' then
      (⟨scanner.text.slice place (scanner.text.lineEnd place - 1 : Int),
        .carriageReturnLineFeed, place⟩ : Line)
    else ⟨scanner.text.slice place (scanner.text.lineEnd place : Int), .lineFeed, place⟩) =
      Line.ofTerminated place rest.firstLine := by
  have shape := rest.firstLine_append_dropWhile
  have stop := stands.lineEnd_eq
  unfold Line.ofTerminated
  simp only [← stands.getLast?_firstLine_eq_some_iff]
  split
  · next returned =>
      obtain ⟨front, ending⟩ := List.getLast?_eq_some_iff.mp returned
      have cut : rest = front ++ ('\r' :: rest.dropWhile (· ≠ '\n')) := by
        rw [← List.singleton_append, ← List.append_assoc, ← ending]
        exact shape.symm
      have position : (scanner.text.lineEnd place - 1 : Int) = place + front.length := by
        rw [stop, ending, List.length_append, List.length_singleton]
        omega
      rw [position, stands.slice_eq cut, ending, List.dropLast_concat]
  · rw [stop, Int.natCast_add, stands.slice_eq shape.symm]

/-- What a scanner makes of the line that goes on where it stands. -/
theorem captureLine_eq (stands : scanner.StandsAt place rest) :
    scanner.captureLine =
      match closingIndentation? scanner.dialect scanner.opening.quote scanner.opening.length
        rest.firstLine with
      | some indentation =>
          (.ok .done,
            { scanner with
              indentation? := some indentation
              position := place + indentation.length + scanner.opening.length })
      | none =>
          match rest.afterFirstLine? with
          | none => (.error scanner.unterminated, scanner)
          | some _ =>
              (.ok .content,
                { scanner with
                  lines := scanner.lines ++ [Line.ofTerminated place rest.firstLine]
                  position := place + rest.firstLine.length + 1 }) := by
  have stop := stands.lineEnd_eq
  unfold captureLine
  simp only [stands.position, stands.take_onward_eq, stands.captured_eq]
  cases closes : closingIndentation? scanner.dialect scanner.opening.quote
      scanner.opening.length rest.firstLine with
  | some indentation =>
      -- The indentation is cut out of the text, where the line begins with it.
      have shape := rest.firstLine_append_dropWhile
      rw [← List.takeWhile_append_dropWhile (p := scanner.dialect.isWhitespace)
        (l := rest.firstLine), List.append_assoc,
        ← eq_takeWhile_of_closingIndentation?_eq_some closes] at shape
      simp only [stands.slice_eq shape.symm]
  | none =>
      have ends : (scanner.text.lineEnd place : Int) = scanner.text.length ↔
          rest.afterFirstLine? = none := by
        have whole := stands.length_eq
        rw [Text.afterFirstLine?_eq_none_iff, stop]
        omega
      cases follows : rest.afterFirstLine? with
      | none => simp only [if_pos (ends.mpr follows)]
      | some later =>
          have further : ¬ (scanner.text.lineEnd place : Int) = scanner.text.length := by
            simp [ends, follows]
          rw [if_neg further, stop, Int.natCast_add]

/-- A line closes the block if the run behind its whitespace, counted no further than the
line goes, is as long as the marker. -/
theorem closes_iff_runWithin (stands : scanner.StandsAt place rest) {dialect : Dialect}
    {quote : Char} {length : Nat} :
    closingIndentation? dialect quote length rest.firstLine =
        some (rest.firstLine.takeWhile dialect.isWhitespace) ↔
      scanner.text.runWithin
          ((place : Int) + (rest.firstLine.takeWhile dialect.isWhitespace).length) [quote]
          (scanner.text.lineEnd place) = .ok length := by
  have whole := stands.length_eq
  have stop := stands.lineEnd_eq
  unfold closingIndentation?
  generalize blanks : rest.firstLine.takeWhile dialect.isWhitespace = front
  generalize others : rest.firstLine.dropWhile dialect.isWhitespace = onward
  have line : rest.firstLine = front ++ onward := by
    rw [← blanks, ← others, List.takeWhile_append_dropWhile]
  have shape : front ++ (onward ++ rest.dropWhile (· ≠ '\n')) = rest := by
    rw [← List.append_assoc, ← line]
    exact rest.firstLine_append_dropWhile
  have parts := congrArg List.length line
  have fits := congrArg List.length shape
  simp only [List.length_append] at parts fits
  -- What may be looked at is the line without its whitespace.
  have width : ((scanner.text.lineEnd place : Int) - (place + front.length)).toNat =
      onward.length := by
    omega
  have seen : (scanner.text.onward ((place : Int) + front.length)).take
      ((scanner.text.lineEnd place : Int) - (place + front.length)).toNat = onward := by
    rw [width, ← Int.natCast_add, Text.onward_of_nonneg (by omega), Int.toNat_natCast,
      ← List.drop_drop, stands.remaining]
    calc (rest.drop front.length).take onward.length
        = ((front ++ (onward ++ rest.dropWhile (· ≠ '\n'))).drop front.length).take
            onward.length := by rw [shape]
      _ = onward := by rw [List.drop_left, List.take_left]
  rw [Text.runWithin_eq_leadingRun quote (by omega) (by omega), seen]
  split
  · next counted => simp [counted]
  · next different => simp [different]

theorem length_eq_of_follows (stands : scanner.StandsAt place rest) {later : Text}
    (follows : rest.afterFirstLine? = some later) :
    scanner.text.length = place + rest.firstLine.length + 1 + later.length := by
  have shape := congrArg List.length
    (Text.eq_firstLine_append_of_afterFirstLine?_eq_some follows)
  have whole := stands.length_eq
  rw [List.length_append, List.length_cons] at shape
  omega

/-- A scanner that goes on behind the line and its line feed. -/
theorem behind_line (stands : scanner.StandsAt place rest) {later : Text}
    (follows : rest.afterFirstLine? = some later) {onward : Scanner}
    (sameText : onward.text = scanner.text)
    (position : onward.position = place + rest.firstLine.length + 1) :
    onward.StandsAt (place + rest.firstLine.length + 1) later := by
  have shape := Text.eq_firstLine_append_of_afterFirstLine?_eq_some follows
  have whole := stands.length_eq_of_follows follows
  constructor
  case position => simpa using position
  case within =>
    rw [sameText]
    omega
  case remaining =>
    rw [sameText, Nat.add_assoc, ← List.drop_drop, stands.remaining]
    calc rest.drop (rest.firstLine.length + 1)
        = (rest.firstLine ++ ['\n'] ++ later).drop (rest.firstLine.length + 1) := by
          rw [List.append_assoc, List.singleton_append, ← shape]
      _ = later := List.drop_left' (by simp)

theorem captureContent_eq_of_capture (stands : scanner.StandsAt place rest)
    {captured : Capture}
    (capturing : capture scanner.dialect scanner.opening.quote scanner.opening.length place
      rest = captured) :
    scanner.captureContent =
      match captured.indentation? with
      | some indentation =>
          let closed : Scanner :=
            { scanner with
              phase := .done
              lines := scanner.lines ++ captured.lines
              position := captured.position
              indentation? := some indentation }
          (.ok closed.block, closed)
      | none =>
          (.error scanner.unterminated,
            { scanner with
              phase := .content
              lines := scanner.lines ++ captured.lines
              position := captured.position }) := by
  have here : capture scanner.dialect scanner.opening.quote scanner.opening.length
      scanner.position (scanner.text.suffix scanner.position) = captured := by
    rw [stands.suffix_eq, stands.position]
    exact capturing
  obtain ⟨lines, position, indentation?⟩ := captured
  cases indentation? <;> simp only [captureContent, here]

/-- Capturing the content is capturing one line, and then the rest of the content. -/
theorem captureContent_eq (stands : scanner.StandsAt place rest) :
    scanner.captureContent =
      match scanner.captureLine with
      | (.ok .done, closed) =>
          (.ok { closed with phase := .done }.block, { closed with phase := .done })
      | (.ok _, ready) => ready.captureContent
      | (.error malformation, reached) =>
          (.error malformation, { reached with phase := .content }) := by
  rw [stands.captureLine_eq]
  cases closes : closingIndentation? scanner.dialect scanner.opening.quote
      scanner.opening.length rest.firstLine with
  | some indentation =>
      rw [stands.captureContent_eq_of_capture (capture_of_closing closes)]
      simp
  | none =>
      cases follows : rest.afterFirstLine? with
      | none =>
          rw [stands.captureContent_eq_of_capture (capture_of_cutOff closes follows)]
          simp [stands.position]
      | some later =>
          let ready : Scanner :=
            { scanner with
              lines := scanner.lines ++ [Line.ofTerminated place rest.firstLine]
              position := place + rest.firstLine.length + 1 }
          have onward : ready.StandsAt (place + rest.firstLine.length + 1) later :=
            stands.behind_line follows rfl rfl
          change scanner.captureContent = ready.captureContent
          rw [stands.captureContent_eq_of_capture (capture_of_content closes follows),
            onward.captureContent_eq_of_capture rfl]
          simp only [ready, List.append_assoc, List.singleton_append, Int.natCast_add,
            Int.natCast_one]
          rfl

end Scanner.StandsAt

end Verbatim
