import Verbatim.Proofs.ScanOutcomes
import Verbatim.Proofs.ClosingLines

/-!
# Layouts

A `Layout` is a well-formed literal as an author writes it down, part by part:
the opening marker, the rest of its line, the content lines, and the closing line
up to its marker.  Every condition of the literal form is a field, so that a
layout cannot be malformed.

`scan_eq_ok_iff` says that scanning succeeds exactly where the text goes on with
the characters of a layout, up to a character that is not one more quote, and
that the block is then the layout's own.
-/

namespace Verbatim

structure Layout (dialect : Dialect) where
  quote : Char
  length : Nat
  /-- What follows the opening marker on its line, the carriage return included
  that may end the line. -/
  opening : Text
  content : List Text
  indentation : Text
  isQuote : dialect.isQuote quote = true
  longEnough : minimumMarkerLength ≤ length
  quoteNotBlank : dialect.isWhitespace quote = false
  quoteNotLineFeed : quote ≠ '\n'
  openingBlank : ∀ char ∈ opening.withoutFinalReturn, dialect.isWhitespace char = true
  openingApart : opening.head? ≠ some quote
  contentUnbroken : ∀ line ∈ content, '\n' ∉ line
  contentStays : ∀ line ∈ content, ¬ Closes dialect quote length line
  indentationBlank : ∀ char ∈ indentation, dialect.isWhitespace char = true

theorem Text.eq_withoutFinalReturn_append (line : Text) :
    ∃ carriageReturn, (carriageReturn = [] ∨ carriageReturn = ['\r']) ∧
      line = line.withoutFinalReturn ++ carriageReturn := by
  unfold withoutFinalReturn
  split
  · next ending =>
      obtain ⟨front, rfl⟩ := List.getLast?_eq_some_iff.mp ending
      exact ⟨['\r'], .inr rfl, by simp⟩
  · exact ⟨[], .inl rfl, by simp⟩

theorem Text.withoutFinalReturn_prefix (line : Text) : line.withoutFinalReturn <+: line := by
  obtain ⟨carriageReturn, _, ending⟩ := line.eq_withoutFinalReturn_append
  exact ⟨carriageReturn, ending.symm⟩

theorem Text.withoutFinalReturn_append {front : Text} (apart : '\r' ∉ front) (line : Text) :
    (front ++ line).withoutFinalReturn = front ++ line.withoutFinalReturn := by
  rcases List.eq_nil_or_concat line with rfl | ⟨most, char, rfl⟩
  · have notLast : front.getLast? ≠ some '\r' := by
      intro last
      exact apart (List.mem_of_getLast? last)
    simp [withoutFinalReturn, notLast]
  · by_cases ending : char = '\r'
    · simp [withoutFinalReturn, ending, ← List.append_assoc]
    · simp [withoutFinalReturn, ending]

theorem Text.unbroken_of_withoutFinalReturn {line : Text}
    (unbroken : '\n' ∉ line.withoutFinalReturn) : '\n' ∉ line := by
  obtain ⟨carriageReturn, small, shape⟩ := line.eq_withoutFinalReturn_append
  rw [shape]
  rcases small with rfl | rfl <;> simp [unbroken]

namespace Layout

variable {dialect : Dialect} (layout : Layout dialect)

def marker : Text :=
  List.replicate layout.length layout.quote

/-- The lines after the opening line, up to the end of the closing marker. -/
def body : Text :=
  Text.terminated layout.content ++ layout.indentation ++ layout.marker

def characters : Text :=
  layout.marker ++ layout.opening ++ '\n' :: layout.body

/-- The block that a layout is captured as when it begins at a position. -/
def block (start : Int) : Block where
  markerLength := layout.length
  trailing := layout.opening.withoutFinalReturn
  lines := Line.placed (start + layout.length + layout.opening.length + 1) layout.content
  indentation := layout.indentation
  quote := layout.quote
  start := start
  finish := start + layout.characters.length

/-- What stands between the two markers. -/
def interior : Text :=
  layout.opening ++ '\n' :: Text.terminated layout.content ++ layout.indentation

/-- The layout with another body, and markers of another length. -/
def withBody (length : Nat) (content : List Text) (indentation : Text)
    (longEnough : minimumMarkerLength ≤ length) (unbroken : ∀ line ∈ content, '\n' ∉ line)
    (stays : ∀ line ∈ content, ¬ Closes dialect layout.quote length line)
    (blank : ∀ char ∈ indentation, dialect.isWhitespace char = true) : Layout dialect :=
  { layout with
    length
    content
    indentation
    longEnough
    contentUnbroken := unbroken
    contentStays := stays
    indentationBlank := blank }

theorem characters_eq : layout.characters = layout.marker ++ layout.interior ++ layout.marker := by
  simp [characters, body, interior]

theorem characters_withBody {length : Nat} {content : List Text} {indentation : Text}
    (longEnough : minimumMarkerLength ≤ length) (unbroken : ∀ line ∈ content, '\n' ∉ line)
    (stays : ∀ line ∈ content, ¬ Closes dialect layout.quote length line)
    (blank : ∀ char ∈ indentation, dialect.isWhitespace char = true) :
    (layout.withBody length content indentation longEnough unbroken stays blank).characters =
      List.replicate length layout.quote ++ layout.opening ++
        '\n' :: (Text.terminated content ++ indentation ++ List.replicate length layout.quote) :=
  rfl

theorem length_marker : layout.marker.length = layout.length :=
  List.length_replicate

theorem length_body :
    layout.body.length =
      (Text.terminated layout.content).length + layout.indentation.length + layout.length := by
  simp [body, marker]
  omega

theorem length_characters :
    layout.characters.length =
      layout.length + layout.opening.length + 1 + layout.body.length := by
  simp [characters, marker]
  omega

theorem positive_length : 0 < layout.length :=
  positive_of_longEnough layout.longEnough

theorem openingUnbroken : '\n' ∉ layout.opening :=
  Text.unbroken_of_withoutFinalReturn (lineFeed_not_mem_of_blank layout.openingBlank)

/-- A layout in a text opens with its marker. -/
theorem markerAt {text following : Text} {offset : Nat}
    (shape : text.drop offset = layout.characters ++ following) :
    MarkerAt dialect text offset layout.quote layout.length
      (layout.opening ++ '\n' :: (layout.body ++ following)) where
  isQuote := layout.isQuote
  longEnough := layout.longEnough
  shape := by
    rw [shape]
    simp [characters, marker]
  boundary := by
    cases opening : layout.opening with
    | nil =>
        intro first
        exact layout.quoteNotLineFeed (by simpa using first.symm)
    | cons char rest =>
        have apart := layout.openingApart
        rw [opening] at apart
        simpa using apart

/-- A layout that stands at an offset has as many characters before it. -/
theorem exists_front {text following : Text} {offset : Nat}
    (shape : text.drop offset = layout.characters ++ following) :
    ∃ front : Text, front.length = offset ∧ text = front ++ layout.characters ++ following := by
  have inside := (layout.markerAt shape).offset_lt_length
  refine ⟨text.take offset, ?_, ?_⟩
  · rw [List.length_take, Nat.min_eq_left (Nat.le_of_lt inside)]
  · rw [List.append_assoc, ← shape, List.take_append_drop]

theorem capture_body {following : Text} (boundary : following.head? ≠ some layout.quote)
    (position : Int) :
    capture dialect layout.quote layout.length position (layout.body ++ following) =
      ⟨Line.placed position layout.content, position + layout.body.length,
        some layout.indentation⟩ := by
  have shape : layout.body ++ following = Text.terminated layout.content ++
      (layout.indentation ++ List.replicate layout.length layout.quote ++ following) := by
    simp [body, marker]
  rw [shape, capture_of_closing_line layout.positive_length layout.contentUnbroken
    layout.contentStays layout.indentationBlank layout.quoteNotBlank layout.quoteNotLineFeed
    boundary]
  simp only [Capture.mk.injEq, true_and, and_true]
  rw [length_body]
  omega

/-- Scanning at the beginning of a layout captures it. -/
theorem scan_eq_ok {text following : Text} {offset : Nat}
    (shape : text.drop offset = layout.characters ++ following)
    (boundary : following.head? ≠ some layout.quote) :
    scan dialect text offset = .ok (layout.block offset) := by
  have marker := layout.markerAt shape
  have line := Text.firstLine_append_lineFeed layout.openingUnbroken
    (layout.body ++ following)
  have read : OpeningLine.read dialect
      (layout.opening ++ '\n' :: (layout.body ++ following)) =
        .complete layout.opening.withoutFinalReturn (layout.body ++ following) := by
    have blank := layout.openingBlank
    rw [← line] at blank
    rw [OpeningLine.read_eq_complete_of blank
      (Text.afterFirstLine?_append_lineFeed layout.openingUnbroken _), line]
  have position : (text.length : Int) - (layout.body ++ following).length =
      offset + layout.length + layout.opening.length + 1 := by
    have whole := marker.length_eq
    simp at whole ⊢
    omega
  rw [marker.scan_of_complete read (layout.capture_body boundary _), position]
  simp only [block, Except.ok.injEq, Block.mk.injEq, true_and]
  rw [length_characters]
  omega

end Layout

namespace MarkerAt

variable {dialect : Dialect} {text : Text} {offset : Nat} {quote : Char} {length : Nat}
variable {rest opening line indentation : Text} {before after : List Text}

/-- A closing line spells out what follows the marker up to the end of the closing
marker, and no further quote follows that. -/
theorem exists_eq_of_closing (marker : MarkerAt dialect text offset quote length rest)
    (lines : rest.splitOn '\n' = opening :: before ++ line :: after)
    (closes : ClosesWith dialect quote length line indentation) :
    ∃ following,
      rest = opening ++ '\n' :: (Text.terminated before ++
        (indentation ++ List.replicate length quote ++ following)) ∧
      following.head? ≠ some quote ∧ quote ≠ '\n' := by
  have lineUnbroken : '\n' ∉ line := by
    apply Text.lineFeed_not_mem_of_mem_splitOn
    rw [lines]
    simp
  obtain ⟨remaining, rfl, restLines⟩ :=
    Text.exists_eq_terminated_append_of_splitOn_eq_append (by simp) lines
  obtain ⟨tail, rfl, feed⟩ := Text.exists_eq_append_of_splitOn_eq_cons restLines
  obtain ⟨onLine, shape, boundary⟩ := closes.eq_append
  have notLineFeed : quote ≠ '\n' := by
    rintro rfl
    apply lineUnbroken
    rw [shape]
    simp [Nat.ne_of_gt marker.positive_length]
  refine ⟨onLine ++ tail, ?_, ?_, notLineFeed⟩
  · rw [shape]
    simp
  · cases onLine with
    | nil =>
        intro first
        exact notLineFeed (feed quote first)
    | cons char onLine => simpa using boundary

/-- Where a line closes the marker of a blank opening line, and no line between
them does, a layout stands. -/
theorem exists_layout (marker : MarkerAt dialect text offset quote length rest)
    (lines : rest.splitOn '\n' = opening :: before ++ line :: after)
    (blank : ∀ char ∈ opening.withoutFinalReturn, dialect.isWhitespace char = true)
    (stays : ∀ earlier ∈ before, ¬ Closes dialect quote length earlier)
    (closes : ClosesWith dialect quote length line indentation) :
    ∃ (layout : Layout dialect) (following : Text),
      text.drop offset = layout.characters ++ following ∧
      following.head? ≠ some layout.quote ∧
      layout.quote = quote ∧ layout.length = length ∧ layout.opening = opening ∧
      layout.content = before ∧ layout.indentation = indentation := by
  obtain ⟨following, shape, boundary, notLineFeed⟩ := marker.exists_eq_of_closing lines closes
  refine ⟨
    { quote, length, opening, indentation
      content := before
      isQuote := marker.isQuote
      longEnough := marker.longEnough
      quoteNotBlank := closes.isWhitespace_quote marker.positive_length
      quoteNotLineFeed := notLineFeed
      openingBlank := blank
      openingApart := ?_
      contentUnbroken := ?_
      contentStays := stays
      indentationBlank := closes.blank },
    following, ?_, boundary, rfl, rfl, rfl, rfl, rfl⟩
  · intro first
    apply marker.boundary
    simp [shape, List.head?_append, first]
  · intro other member
    apply Text.lineFeed_not_mem_of_mem_splitOn
    rw [lines]
    simp [member]
  · rw [marker.shape]
    simp only [Layout.characters, Layout.marker, Layout.body]
    rw [shape]
    simp

/-- Where a line closes the marker of an opening line, skipping ends behind the
closing marker, whatever the opening line holds. -/
theorem skip_of_closing (marker : MarkerAt dialect text offset quote length rest)
    (lines : rest.splitOn '\n' = opening :: before ++ line :: after)
    (stays : ∀ earlier ∈ before, ¬ Closes dialect quote length earlier)
    (closes : ClosesWith dialect quote length line indentation) :
    skip dialect text offset = .ok (offset + length + opening.length + 1 +
      (Text.terminated before).length + indentation.length + length) := by
  have unbroken : ∀ other ∈ opening :: before ++ line :: after, '\n' ∉ other := by
    intro other member
    exact Text.lineFeed_not_mem_of_mem_splitOn (lines ▸ member)
  obtain ⟨following, shape, boundary, notLineFeed⟩ := marker.exists_eq_of_closing lines closes
  have whole := marker.length_eq
  rw [shape] at marker whole
  rw [marker.skip_of_complete
    (Text.afterFirstLine?_append_lineFeed (unbroken opening (by simp)) _)
    (capture_of_closing_line marker.positive_length
      (fun other member => unbroken other (by simp [member])) stays closes.blank
      (closes.isWhitespace_quote marker.positive_length) notLineFeed boundary _)]
  simp only [Except.ok.injEq]
  simp at whole ⊢
  omega

theorem skip_of_stays (marker : MarkerAt dialect text offset quote length rest)
    {later : List Text} (lines : rest.splitOn '\n' = opening :: later)
    (stays : ∀ line ∈ later, ¬ Closes dialect quote length line) :
    skip dialect text offset =
      .error (.malformed (.unterminated offset text.length)) := by
  rcases rest.unbroken_or_exists_eq_append_lineFeed with unbroken | broken
  · exact marker.skip_of_cutOff (Text.afterFirstLine?_of_unbroken unbroken)
  · obtain ⟨first, body, unbroken, rfl⟩ := broken
    rw [List.splitOn_append_cons_self_of_not_mem unbroken] at lines
    obtain ⟨rfl, rfl⟩ := List.cons.inj lines
    rw [marker.skip_of_complete (Text.afterFirstLine?_append_lineFeed unbroken body) rfl,
      indentation?_capture_of_stay stays]

end MarkerAt

end Verbatim
