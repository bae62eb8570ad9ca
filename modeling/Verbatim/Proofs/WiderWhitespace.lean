import Verbatim.Proofs.Extension
import Verbatim.Proofs.Places

/-!
# Wider notions of whitespace

Two dialects with the same quotes may differ in how much they take for whitespace.  As long
as the quote of a marker is not whitespace itself, a closing line of the narrower dialect
closes in the wider one as well, with the same indentation: the marker ends it.  More lines
may close, so a literal ends where it did or at an earlier line, and `Block.EndsNoLater`
says what remains of it then.  On the opening line it is the other way round: what is stray
text in the wider dialect is so in the narrower one.
-/

namespace Verbatim

/-- How wide a notion of whitespace is: the modes in the order in which each accepts what
the one before accepts. -/
def Whitespace.width : Whitespace → Nat
  | .normal => 0
  | .ascii => 1
  | .unicode => 2

theorem Whitespace.characters_subset_of_width_le {narrow wide : Whitespace}
    (wider : narrow.width ≤ wide.width) : narrow.characters ⊆ wide.characters := by
  have outer := List.Subset.trans characters_normal_subset_ascii characters_ascii_subset_unicode
  cases narrow with
  | normal =>
      cases wide with
      | normal => exact List.Subset.refl _
      | ascii => exact characters_normal_subset_ascii
      | unicode => exact outer
  | ascii =>
      cases wide with
      | normal => exact absurd wider (by decide)
      | ascii => exact List.Subset.refl _
      | unicode => exact characters_ascii_subset_unicode
  | unicode =>
      cases wide with
      | normal => exact absurd wider (by decide)
      | ascii => exact absurd wider (by decide)
      | unicode => exact List.Subset.refl _

/-- Two dialects have the same quotes, and the second takes at least as much for
whitespace. -/
structure Dialect.WidensTo (narrow wide : Dialect) : Prop where
  sameQuotes : narrow.quotes = wide.quotes
  wider : narrow.whitespace.width ≤ wide.whitespace.width

/-- A block is what remains of another one when it may end at an earlier line. -/
structure Block.EndsNoLater (sooner block : Block) : Prop where
  quote : sooner.quote = block.quote
  markerLength : sooner.markerLength = block.markerLength
  trailing : sooner.trailing = block.trailing
  lines : sooner.lines <+: block.lines
  finish : sooner.finish ≤ block.finish
  eq_of_length : sooner.lines.length = block.lines.length → sooner = block

theorem Block.EndsNoLater.refl (block : Block) : block.EndsNoLater block where
  quote := rfl
  markerLength := rfl
  trailing := rfl
  lines := List.prefix_rfl
  finish := Int.le_refl _
  eq_of_length := fun _ => rfl

namespace Dialect.WidensTo

variable {narrow wide : Dialect} (widens : narrow.WidensTo wide)

include widens

theorem isWhitespace {char : Char} (whitespace : narrow.isWhitespace char = true) :
    wide.isWhitespace char = true := by
  have subset := Whitespace.characters_subset_of_width_le widens.wider
  simp only [Dialect.isWhitespace, List.contains_iff_mem] at whitespace ⊢
  exact subset whitespace

theorem isWhitespace_eq_false {char : Char} (solid : wide.isWhitespace char = false) :
    narrow.isWhitespace char = false := by
  by_contra whitespace
  rw [widens.isWhitespace (by simpa using whitespace)] at solid
  cases solid

theorem blank {text : Text} (blank : ∀ char ∈ text, narrow.isWhitespace char = true) :
    ∀ char ∈ text, wide.isWhitespace char = true :=
  fun char member => widens.isWhitespace (blank char member)

theorem isQuote (char : Char) : narrow.isQuote char = wide.isQuote char := by
  unfold Dialect.isQuote
  rw [widens.sameQuotes]

variable {text : Text} {offset : Nat} {quote : Char} {length : Nat}

theorem markerAt_iff {rest : Text} :
    MarkerAt narrow text offset quote length rest ↔
      MarkerAt wide text offset quote length rest := by
  have same := widens.isQuote quote
  constructor
  · rintro ⟨isQuote, longEnough, shape, boundary⟩
    exact ⟨same ▸ isQuote, longEnough, shape, boundary⟩
  · rintro ⟨isQuote, longEnough, shape, boundary⟩
    exact ⟨same ▸ isQuote, longEnough, shape, boundary⟩

/-- A wider dialect finds stray text no sooner. -/
theorem exists_strayAt {position : Int} (stray : StrayAt wide text offset position) :
    ∃ earlier ≤ position, StrayAt narrow text offset earlier := by
  obtain ⟨quote, length, rest, index, marker, ⟨⟨char, place, solid⟩, _⟩, rfl⟩ := stray
  have narrowMarker := widens.markerAt_iff.mpr marker
  have narrowSolid := widens.isWhitespace_eq_false solid
  rcases blank_or_exists_firstStray narrow rest.firstLine.withoutFinalReturn with
    blank | ⟨first, firstStray⟩
  · have whitespace := blank char (List.mem_of_getElem? place)
    rw [narrowSolid] at whitespace
    cases whitespace
  · have noLater : first ≤ index := by
      by_contra later
      have whitespace := firstStray.2 char
        (List.mem_of_getElem? ((List.getElem?_take_of_lt (by omega)).trans place))
      rw [narrowSolid] at whitespace
      cases whitespace
    exact ⟨offset + length + first, by omega, quote, length, rest, first, narrowMarker,
      firstStray, rfl⟩

/-- A layout of the narrower dialect is one of the wider dialect if no line of its content
closes there. -/
def layout (layout : Layout narrow) (solid : wide.isWhitespace layout.quote = false)
    (stays : ∀ line ∈ layout.content, ¬ Closes wide layout.quote layout.length line) :
    Layout wide where
  quote := layout.quote
  length := layout.length
  opening := layout.opening
  content := layout.content
  indentation := layout.indentation
  isQuote := (widens.isQuote layout.quote).symm.trans layout.isQuote
  longEnough := layout.longEnough
  quoteNotBlank := solid
  quoteNotLineFeed := layout.quoteNotLineFeed
  openingBlank := widens.blank layout.openingBlank
  openingApart := layout.openingApart
  contentUnbroken := layout.contentUnbroken
  contentStays := stays
  indentationBlank := widens.blank layout.indentationBlank

/-- The first line of the content that closes a layout in the wider dialect cuts it
short. -/
theorem exists_scan_of_closing {layout : Layout narrow} {following : Text}
    (shape : text.drop offset = layout.characters ++ following)
    {before after : List Text} {line indentation : Text}
    (content : layout.content = before ++ line :: after)
    (stays : ∀ earlier ∈ before, ¬ Closes wide layout.quote layout.length earlier)
    (closes : ClosesWith wide layout.quote layout.length line indentation) :
    ∃ sooner, scan wide text offset = .ok sooner ∧
      sooner.EndsNoLater (layout.block offset) := by
  have marker := widens.markerAt_iff.mp (layout.markerAt shape)
  have lines : (layout.opening ++ '\n' :: (layout.body ++ following)).splitOn '\n' =
      layout.opening :: before ++ line :: (after ++
        (layout.indentation ++ layout.marker ++ following).splitOn '\n') := by
    have body : layout.body ++ following = Text.terminated layout.content ++
        (layout.indentation ++ layout.marker ++ following) := by
      simp [Layout.body]
    rw [List.splitOn_append_cons_self_of_not_mem layout.openingUnbroken, body,
      Text.splitOn_terminated_append layout.contentUnbroken, content]
    simp
  refine ⟨_, marker.scan_of_closing lines (widens.blank layout.openingBlank) stays closes, ?_⟩
  constructor
  case quote => rfl
  case markerLength => rfl
  case trailing => rfl
  case lines =>
    simp only [Layout.block, content, Line.placed_append]
    exact List.prefix_append _ _
  case finish =>
    obtain ⟨onLine, line_eq, _⟩ := closes.eq_append
    have lineLength := congrArg List.length line_eq
    have contentLength := congrArg (fun lines => (Text.terminated lines).length) content
    have whole := layout.length_characters
    have body := layout.length_body
    simp at lineLength contentLength
    simp only [Layout.block]
    omega
  case eq_of_length =>
    intro sameLength
    simp [Layout.block, content, Line.length_placed] at sameLength

theorem exists_scan_of_layout {layout : Layout narrow} {following : Text}
    (solid : wide.isWhitespace layout.quote = false)
    (shape : text.drop offset = layout.characters ++ following)
    (boundary : following.head? ≠ some layout.quote) :
    ∃ sooner, scan wide text offset = .ok sooner ∧
      sooner.EndsNoLater (layout.block offset) := by
  rcases exists_first_closing_or_stays wide layout.quote layout.length layout.content with
    stays | ⟨before, line, after, indentation, content, stays, closes⟩
  · have scanned : scan wide text offset = .ok (layout.block offset) :=
      (widens.layout layout solid stays).scan_eq_ok shape boundary
    exact ⟨_, scanned, Block.EndsNoLater.refl _⟩
  · exact widens.exists_scan_of_closing shape content stays closes

end Dialect.WidensTo

/-- Widening the notion of whitespace can only close a literal sooner, and it finds stray
text only where the narrower notion has found some already. -/
theorem scan_widened {narrow wide : Dialect} (widens : narrow.WidensTo wide) (text : Text)
    (offset : Nat) :
    (∀ quote block, text[offset]? = some quote → wide.isWhitespace quote = false →
      scan narrow text offset = .ok block →
      ∃ sooner, scan wide text offset = .ok sooner ∧ sooner.EndsNoLater block) ∧
    ∀ position, scan wide text offset = .error (.malformed (.strayText position)) →
      ∃ earlier ≤ position,
        scan narrow text offset = .error (.malformed (.strayText earlier)) := by
  refine ⟨?_, ?_⟩
  · intro quote block first solid scanned
    obtain ⟨layout, following, shape, boundary, rfl⟩ := scan_eq_ok_iff.mp scanned
    have same : layout.quote = quote :=
      Option.some.inj ((layout.markerAt shape).getElem?_offset.symm.trans first)
    exact widens.exists_scan_of_layout (same ▸ solid) shape boundary
  · intro position scanned
    obtain ⟨earlier, noLater, stray⟩ := widens.exists_strayAt (scan_eq_stray_iff.mp scanned)
    exact ⟨earlier, noLater, scan_eq_stray_iff.mpr stray⟩

/-- A form feed in front of three quotes makes them a closing marker once it is whitespace,
and behind an opening marker it is no longer where the stray text begins. -/
theorem scan_widened_form_feed :
    let wide : Dialect := ⟨['"'], .ascii, by decide⟩
    let text := ['"', '"', '"', '\n', '\x0c', '"', '"', '"', '\n', '"', '"', '"']
    let stray := ['"', '"', '"', '\x0c', 'x', '\n']
    let block : Block := ⟨3, [], [⟨['\x0c', '"', '"', '"'], .lineFeed, 4⟩], [], '"', 0, 12⟩
    let sooner : Block := ⟨3, [], [], ['\x0c'], '"', 0, 8⟩
    Dialect.standard.WidensTo wide ∧ text[0]? = some '"' ∧ wide.isWhitespace '"' = false ∧
      scan .standard text 0 = .ok block ∧
      scan wide text 0 = .ok sooner ∧ sooner.EndsNoLater block ∧
      scan wide stray 0 = .error (.malformed (.strayText 4)) ∧
      ∃ earlier ≤ 4, scan .standard stray 0 = .error (.malformed (.strayText earlier)) := by
  intro wide text stray block sooner
  have widens : Dialect.standard.WidensTo wide := ⟨rfl, by decide⟩
  have solid : wide.isWhitespace '"' = false := by decide
  have scanned : scan .standard text (0 : Nat) = .ok block := by decide +kernel
  have closed : scan wide text (0 : Nat) = .ok sooner := by decide +kernel
  have strayed : scan wide stray (0 : Nat) = .error (.malformed (.strayText 4)) := by
    decide +kernel
  obtain ⟨other, found, remains⟩ := (scan_widened widens text 0).1 '"' block rfl solid scanned
  obtain rfl : sooner = other := Except.ok.inj (closed.symm.trans found)
  exact ⟨widens, rfl, solid, scanned, closed, remains, strayed,
    (scan_widened widens stray 0).2 4 strayed⟩

end Verbatim
