import Verbatim.Proofs.Grammar

/-!
# Capture is lossless

A captured block says everything about the stretch of text that it was captured
from.  `Block.Mirrors` states this field by field, in terms of positions of the
text; `scan_lossless` says that every scanned block mirrors its source.

Of the layout behind a block only its lines need an argument.  Each of them
stands right behind a line feed, which is why an empty line is never taken for
the second half of a line break.
-/

namespace Verbatim

/-- The characters of either marker of a block. -/
def Block.marker (block : Block) : Text :=
  List.replicate block.markerLength.toNat block.quote

/-- The position just past a line and its terminator. -/
def Line.finish (line : Line) : Int :=
  line.offset + line.text.length + line.terminator.characters.length

/-- A captured line says what stands in a text, and where. -/
structure Line.Mirrors (line : Line) (text : Text) : Prop where
  slice_text : text.slice line.offset (line.offset + line.text.length) = line.text
  unbroken : '\n' ∉ line.text
  terminated : line.terminator = .lineFeed ∨ line.terminator = .carriageReturnLineFeed
  lineFeed : text.charAt? (line.finish - 1) = some '\n'
  carriageReturn : text.charAt? (line.finish - 2) = some '\r' →
    line.terminator = .carriageReturnLineFeed

/-- A block says what stands in a text from an offset on, and where. -/
structure Block.Mirrors (block : Block) (dialect : Dialect) (text : Text)
    (offset : Nat) : Prop where
  start_eq : block.start = offset
  longEnough : (minimumMarkerLength : Int) ≤ block.markerLength
  characters : ∃ carriageReturn, (carriageReturn = [] ∨ carriageReturn = ['\r']) ∧
    text.slice block.start block.finish =
      block.marker ++ block.trailing ++ carriageReturn ++
        '\n' :: block.lines.flatMap Line.characters ++ block.indentation ++ block.marker
  lines : ∀ line ∈ block.lines, line.Mirrors text
  next : ∀ index line next, block.lines[index]? = some line →
    block.lines[index + 1]? = some next → next.offset = line.finish
  last : ∀ line, block.lines.getLast? = some line →
    block.closingMarker.start - block.indentation.length = line.finish
  trailingBlank : ∀ char ∈ block.trailing, dialect.isWhitespace char = true
  indentationBlank : ∀ char ∈ block.indentation, dialect.isWhitespace char = true
  openingMarker :
    text.slice block.openingMarker.start block.openingMarker.stop = block.marker
  closingMarker :
    text.slice block.closingMarker.start block.closingMarker.stop = block.marker
  markersApart : block.openingMarker.stop ≤ block.closingMarker.start
  maximal : text.charAt? block.finish ≠ some block.quote

theorem Text.charAt?_natCast (text : Text) (position : Nat) :
    text.charAt? position = text[position]? := by
  unfold charAt?
  by_cases inside : position < text.length
  · rw [if_pos (by omega), index_of_le_length (by omega)]
  · rw [if_neg (by omega), List.getElem?_eq_none (by omega)]

theorem Text.slice_of_drop_eq_append {text piece rest : Text} {start : Nat}
    (shape : text.drop start = piece ++ rest) :
    text.slice start ((start : Int) + piece.length) = piece := by
  have lengths := congrArg List.length shape
  rw [List.length_drop, List.length_append] at lengths
  by_cases inside : start ≤ text.length
  · have stop : ((start : Int) + piece.length) = ((start + piece.length : Nat) : Int) := by
      simp
    unfold slice
    rw [stop, index_of_le_length inside, index_of_le_length (by omega), List.drop_take,
      shape]
    simp
  · have empty : piece = [] := List.eq_nil_of_length_eq_zero (by omega)
    subst empty
    unfold slice
    apply List.drop_eq_nil_of_le
    rw [List.length_take]
    simp only [List.length_nil, Int.ofNat_zero, Int.add_zero]
    exact Nat.min_le_left _ _

theorem Text.exists_lineFeed_cons_terminated (lines : List Text) :
    ∃ front, '\n' :: terminated lines = front ++ ['\n'] := by
  rcases List.eq_nil_or_concat lines with rfl | ⟨before, line, rfl⟩
  · exact ⟨[], rfl⟩
  · exact ⟨'\n' :: terminated before ++ line, by simp⟩

namespace Line

theorem finish_eq_offset_add_length (line : Line) :
    line.finish = line.offset + line.characters.length := by
  simp [finish, characters]
  omega

theorem ofTerminated_eq (offset : Int) (raw : Text) :
    ofTerminated offset raw =
      ⟨raw.withoutFinalReturn,
        if raw.getLast? = some '\r' then .carriageReturnLineFeed else .lineFeed, offset⟩ := by
  unfold ofTerminated Text.withoutFinalReturn
  split <;> rfl

theorem offset_ofTerminated (offset : Int) (raw : Text) :
    (ofTerminated offset raw).offset = offset := by
  rw [ofTerminated_eq]

theorem finish_ofTerminated (offset : Int) (raw : Text) :
    (ofTerminated offset raw).finish = offset + raw.length + 1 := by
  rw [finish_eq_offset_add_length, characters_ofTerminated, offset_ofTerminated]
  simp
  omega

theorem terminator_ofTerminated (offset : Int) (raw : Text) :
    (ofTerminated offset raw).terminator =
      if raw.getLast? = some '\r' then .carriageReturnLineFeed else .lineFeed := by
  rw [ofTerminated_eq]

theorem text_ofTerminated (offset : Int) (raw : Text) :
    (ofTerminated offset raw).text = raw.withoutFinalReturn := by
  rw [ofTerminated_eq]

theorem terminated_ofTerminated (offset : Int) (raw : Text) :
    (ofTerminated offset raw).terminator = .lineFeed ∨
      (ofTerminated offset raw).terminator = .carriageReturnLineFeed := by
  rw [terminator_ofTerminated]
  split
  · exact .inr rfl
  · exact .inl rfl

theorem unbroken_ofTerminated {offset : Int} {raw : Text} (unbroken : '\n' ∉ raw) :
    '\n' ∉ (ofTerminated offset raw).text := by
  rw [text_ofTerminated]
  exact fun inside => unbroken (raw.withoutFinalReturn_prefix.subset inside)

theorem length_placed (position : Int) (lines : List Text) :
    (placed position lines).length = lines.length := by
  induction lines generalizing position with
  | nil => rfl
  | cons raw later induction => simp [placed, induction]

theorem placed_append (position : Int) (before after : List Text) :
    placed position (before ++ after) =
      placed position before ++ placed (position + (Text.terminated before).length) after := by
  induction before generalizing position with
  | nil => simp [placed]
  | cons raw before induction =>
      have behind : position + raw.length + 1 + (Text.terminated before).length =
          position + (Text.terminated (raw :: before)).length := by
        simp
        omega
      rw [List.cons_append, placed, placed, induction, behind, List.cons_append]

/-- Physical lines that are edited one by one are captured as the captured lines with the
edit, if it moves the place of each as what stands before it grows. -/
theorem placed_map {edit : Text → Text} {edited : Line → Line} {moved : Int → Int}
    {content : List Text} {position start : Int}
    (places : ∀ before after, content = before ++ after →
      moved (position + (Text.terminated before).length) =
        start + (Text.terminated (before.map edit)).length)
    (lines : ∀ raw ∈ content, ∀ place : Int,
      ofTerminated (moved place) (edit raw) = edited (ofTerminated place raw)) :
    placed start (content.map edit) = (placed position content).map edited := by
  induction content generalizing position start with
  | nil => rfl
  | cons raw later induction =>
      obtain ⟨line, others⟩ := List.forall_mem_cons.mp lines
      have here : start = moved position := by simpa using (places [] (raw :: later) rfl).symm
      have onward : placed (start + (edit raw).length + 1) (later.map edit) =
          (placed (position + raw.length + 1) later).map edited := by
        refine induction ?_ others
        intro before after shape
        have next := places (raw :: before) after (by rw [shape]; rfl)
        have behind : position + raw.length + 1 + (Text.terminated before).length =
            position + (Text.terminated (raw :: before)).length := by
          simp
          omega
        rw [behind, next, List.map_cons, Text.terminated_cons, List.length_append,
          List.length_cons]
        omega
      rw [List.map_cons, placed, placed, List.map_cons, onward, here, line]

/-- Where placed lines are cut, so are the lines that were placed. -/
theorem exists_of_placed_eq_append {position : Int} {lines : List Text}
    {before after : List Line} {line : Line}
    (shape : placed position lines = before ++ line :: after) :
    ∃ front raw rest, lines = front ++ raw :: rest ∧ before = placed position front ∧
      line = ofTerminated (position + (Text.terminated front).length) raw := by
  induction before generalizing position lines with
  | nil =>
      cases lines with
      | nil => cases shape
      | cons raw rest =>
          obtain ⟨rfl, _⟩ := List.cons.inj shape
          exact ⟨[], raw, rest, rfl, rfl, by simp⟩
  | cons first before induction =>
      cases lines with
      | nil => cases shape
      | cons other lines =>
          obtain ⟨rfl, later⟩ := List.cons.inj shape
          obtain ⟨front, raw, rest, rfl, rfl, rfl⟩ := induction later
          refine ⟨other :: front, raw, rest, rfl, rfl, ?_⟩
          congr 1
          simp
          omega

/-- A placed line was placed behind the lines before it. -/
theorem exists_of_getElem?_placed {position : Int} {lines : List Text} {index : Nat}
    {line : Line} (found : (placed position lines)[index]? = some line) :
    ∃ before raw after, lines = before ++ raw :: after ∧ before.length = index ∧
      line = ofTerminated (position + (Text.terminated before).length) raw := by
  obtain ⟨inside, rfl⟩ := List.getElem?_eq_some_iff.mp found
  have cut : placed position lines = (placed position lines).take index ++
      (placed position lines)[index] :: (placed position lines).drop (index + 1) := by
    rw [← List.drop_eq_getElem_cons inside, List.take_append_drop]
  obtain ⟨before, raw, after, shape, earlier, located⟩ := exists_of_placed_eq_append cut
  refine ⟨before, raw, after, shape, ?_, located⟩
  rw [← length_placed position before, ← earlier, List.length_take]
  omega

theorem offset_of_getElem?_placed {position : Int} {lines : List Text} {index : Nat}
    {line : Line} (found : (placed position lines)[index]? = some line) :
    line.offset = position + (Text.terminated (lines.take index)).length := by
  obtain ⟨before, raw, after, rfl, rfl, rfl⟩ := exists_of_getElem?_placed found
  rw [offset_ofTerminated, List.take_left]

theorem finish_of_getElem?_placed {position : Int} {lines : List Text} {index : Nat}
    {line : Line} (found : (placed position lines)[index]? = some line) :
    line.finish = position + (Text.terminated (lines.take (index + 1))).length := by
  obtain ⟨before, raw, after, rfl, rfl, rfl⟩ := exists_of_getElem?_placed found
  rw [finish_ofTerminated, List.take_length_add_append]
  simp
  omega

section Source

variable {text raw rest : Text} {place : Nat}

theorem slice_ofTerminated (around : text.drop place = '\n' :: raw ++ '\n' :: rest) :
    text.slice (place + 1 : Nat)
      ((place + 1 : Nat) + (ofTerminated (place + 1 : Nat) raw).text.length) =
        (ofTerminated (place + 1 : Nat) raw).text := by
  obtain ⟨carriageReturn, _, ending⟩ := raw.eq_withoutFinalReturn_append
  have behind : text.drop (place + 1) =
      raw.withoutFinalReturn ++ (carriageReturn ++ '\n' :: rest) := by
    rw [← List.drop_drop, around, ← List.append_assoc, ← ending]
    rfl
  rw [text_ofTerminated]
  exact Text.slice_of_drop_eq_append behind

theorem charAt?_lineFeed_ofTerminated
    (around : text.drop place = '\n' :: raw ++ '\n' :: rest) :
    text.charAt? ((ofTerminated (place + 1 : Nat) raw).finish - 1) = some '\n' := by
  have position : (ofTerminated (place + 1 : Nat) raw).finish - 1 =
      ((place + (raw.length + 1) : Nat) : Int) := by
    rw [finish_ofTerminated]
    omega
  rw [position, Text.charAt?_natCast, ← List.getElem?_drop, around]
  simp

/-- The character before the line feed is the last one of the line, or the line
feed before the line. -/
theorem terminator_of_charAt?_carriageReturn
    (around : text.drop place = '\n' :: raw ++ '\n' :: rest)
    (before : text.charAt? ((ofTerminated (place + 1 : Nat) raw).finish - 2) = some '\r') :
    (ofTerminated (place + 1 : Nat) raw).terminator = .carriageReturnLineFeed := by
  have position : (ofTerminated (place + 1 : Nat) raw).finish - 2 =
      ((place + raw.length : Nat) : Int) := by
    rw [finish_ofTerminated]
    omega
  rw [position, Text.charAt?_natCast, ← List.getElem?_drop, around] at before
  have last : raw.getLast? = some '\r' := by
    rcases List.eq_nil_or_concat raw with rfl | ⟨front, char, rfl⟩
    · simp at before
    · simpa using before
  rw [terminator_ofTerminated, if_pos last]

theorem mirrors_ofTerminated (unbroken : '\n' ∉ raw)
    (around : text.drop place = '\n' :: raw ++ '\n' :: rest) :
    (ofTerminated (place + 1 : Nat) raw).Mirrors text where
  slice_text := by
    rw [offset_ofTerminated]
    exact slice_ofTerminated around
  unbroken := unbroken_ofTerminated unbroken
  terminated := terminated_ofTerminated _ raw
  lineFeed := charAt?_lineFeed_ofTerminated around
  carriageReturn := terminator_of_charAt?_carriageReturn around

end Source

end Line

namespace Layout

variable {dialect : Dialect} (layout : Layout dialect) {text following : Text} {offset : Nat}

theorem marker_block (start : Int) : (layout.block start).marker = layout.marker := by
  simp [Block.marker, block, marker]

theorem closingMarker_block (start : Int) :
    (layout.block start).closingMarker.start =
      start + layout.length + layout.opening.length + 1 +
        (Text.terminated layout.content).length + layout.indentation.length := by
  simp only [Block.closingMarker, block, length_characters, length_body]
  omega

theorem flatMap_characters_block (start : Int) :
    (layout.block start).lines.flatMap Line.characters = Text.terminated layout.content :=
  Line.flatMap_characters_placed _ _

/-- A content line stands between two line feeds. -/
theorem drop_line (shape : text.drop offset = layout.characters ++ following)
    {before after : List Text} {raw : Text} (content : layout.content = before ++ raw :: after) :
    ∃ rest, text.drop
        (offset + (layout.length + layout.opening.length + (Text.terminated before).length)) =
      '\n' :: raw ++ '\n' :: rest := by
  obtain ⟨front, ending⟩ := Text.exists_lineFeed_cons_terminated before
  have width : (layout.marker ++ layout.opening ++ front).length =
      layout.length + layout.opening.length + (Text.terminated before).length := by
    have lengths := congrArg List.length ending
    simp [marker] at lengths ⊢
    omega
  refine ⟨Text.terminated after ++ layout.indentation ++ layout.marker ++ following, ?_⟩
  have whole : text.drop offset = (layout.marker ++ layout.opening ++ front) ++
      ('\n' :: raw ++ '\n' ::
        (Text.terminated after ++ layout.indentation ++ layout.marker ++ following)) := by
    rw [shape]
    simp only [characters, body, content, Text.terminated_append, Text.terminated_cons]
    simpa using congrArg (· ++ (raw ++ '\n' ::
      (Text.terminated after ++ layout.indentation ++ layout.marker ++ following))) ending
  rw [← List.drop_drop, whole]
  exact List.drop_left' width

theorem mirrors_of_mem_lines (shape : text.drop offset = layout.characters ++ following)
    {line : Line} (member : line ∈ (layout.block offset).lines) : line.Mirrors text := by
  obtain ⟨index, found⟩ := List.getElem?_of_mem member
  obtain ⟨before, raw, after, content, _, rfl⟩ := Line.exists_of_getElem?_placed found
  obtain ⟨rest, around⟩ := layout.drop_line shape content
  have position : (offset : Int) + layout.length + layout.opening.length + 1 +
      (Text.terminated before).length =
        (offset + (layout.length + layout.opening.length +
          (Text.terminated before).length) + 1 : Nat) := by
    omega
  rw [position]
  exact Line.mirrors_ofTerminated (layout.contentUnbroken raw (by simp [content])) around

theorem finish_of_getLast?_lines (start : Int) {line : Line}
    (last : (layout.block start).lines.getLast? = some line) :
    (layout.block start).closingMarker.start - layout.indentation.length = line.finish := by
  have found : (layout.block start).lines[layout.content.length - 1]? = some line := by
    have width : (layout.block start).lines.length = layout.content.length :=
      Line.length_placed _ _
    rw [← width, ← List.getLast?_eq_getElem?]
    exact last
  have some_line : 0 < layout.content.length := by
    rw [List.length_pos_iff]
    intro none
    simp [block, none, Line.placed] at last
  rw [Line.finish_of_getElem?_placed found, List.take_of_length_le (by omega),
    closingMarker_block]
  omega

theorem slice_characters (shape : text.drop offset = layout.characters ++ following) :
    text.slice offset ((offset : Int) + layout.characters.length) = layout.characters :=
  Text.slice_of_drop_eq_append shape

theorem slice_openingMarker (shape : text.drop offset = layout.characters ++ following) :
    text.slice offset ((offset : Int) + layout.length) = layout.marker := by
  have opens : text.drop offset = layout.marker ++
      (layout.opening ++ '\n' :: layout.body ++ following) := by
    rw [shape]
    simp [characters]
  rw [← layout.length_marker]
  exact Text.slice_of_drop_eq_append opens

/-- The closing marker is the last part of a layout. -/
theorem exists_eq_append_marker : ∃ front, layout.characters = front ++ layout.marker :=
  ⟨layout.marker ++ layout.opening ++ '\n' :: Text.terminated layout.content ++
    layout.indentation, by simp [characters, body]⟩

theorem drop_closingMarker (shape : text.drop offset = layout.characters ++ following) :
    text.drop (offset + (layout.characters.length - layout.length)) =
      layout.marker ++ following := by
  obtain ⟨front, ending⟩ := layout.exists_eq_append_marker
  have width : layout.characters.length - layout.length = front.length := by
    rw [ending, List.length_append, length_marker, Nat.add_sub_cancel]
  rw [width, ← List.drop_drop, shape, ending, List.append_assoc]
  exact List.drop_left

theorem slice_closingMarker (shape : text.drop offset = layout.characters ++ following) :
    text.slice (layout.block offset).closingMarker.start
      (layout.block offset).closingMarker.stop = layout.marker := by
  have long : layout.length ≤ layout.characters.length := by
    rw [length_characters]
    omega
  have start : (layout.block offset).closingMarker.start =
      (offset + (layout.characters.length - layout.length) : Nat) := by
    simp only [Block.closingMarker, block]
    omega
  have stop : (layout.block offset).closingMarker.stop =
      (layout.block offset).closingMarker.start + layout.marker.length := by
    simp [Block.closingMarker, block, marker]
  rw [stop, start]
  exact Text.slice_of_drop_eq_append (layout.drop_closingMarker shape)

theorem charAt?_finish (shape : text.drop offset = layout.characters ++ following)
    (boundary : following.head? ≠ some layout.quote) :
    text.charAt? (layout.block offset).finish ≠ some layout.quote := by
  have position : (layout.block offset).finish =
      (offset + layout.characters.length : Nat) := by
    simp [block]
  rw [position, Text.charAt?_natCast, ← List.getElem?_drop, shape, getElem?_length_append]
  exact boundary

end Layout

/-- Every scanned block mirrors the text that it was scanned from. -/
theorem scan_lossless
    {dialect : Dialect} {text : Text} {offset : Nat} {block : Block}
    (scanned : scan dialect text offset = .ok block) :
    block.Mirrors dialect text offset := by
  obtain ⟨layout, following, shape, boundary, rfl⟩ := scan_eq_ok_iff.mp scanned
  constructor
  case start_eq => rfl
  case longEnough =>
    have long := layout.longEnough
    simp only [Layout.block]
    omega
  case characters =>
    obtain ⟨carriageReturn, small, ending⟩ := layout.opening.eq_withoutFinalReturn_append
    refine ⟨carriageReturn, small, (layout.slice_characters shape).trans ?_⟩
    rw [layout.marker_block, layout.flatMap_characters_block]
    simp only [Layout.characters, Layout.body, Layout.block, List.append_assoc,
      List.cons_append]
    rw [← List.append_assoc _ carriageReturn, ← ending]
  case lines =>
    intro line member
    exact layout.mirrors_of_mem_lines shape member
  case next =>
    intro index line next found follows
    rw [Line.offset_of_getElem?_placed follows, Line.finish_of_getElem?_placed found]
  case last =>
    intro line last
    exact layout.finish_of_getLast?_lines offset last
  case trailingBlank => exact layout.openingBlank
  case indentationBlank => exact layout.indentationBlank
  case openingMarker =>
    rw [layout.marker_block]
    exact layout.slice_openingMarker shape
  case closingMarker =>
    rw [layout.marker_block]
    exact layout.slice_closingMarker shape
  case markersApart =>
    rw [layout.closingMarker_block]
    simp only [Block.openingMarker, Layout.block]
    omega
  case maximal => exact layout.charAt?_finish shape boundary

/-- Both kinds of line end, and an empty line after the first. -/
theorem scan_lossless_mixed_line_ends :
    let text := ['x', '"', '"', '"', ' ', '\r', '\n', '\n', ' ', 'a', '\r', '\n', ' ',
      '"', '"', '"', 'y']
    let block : Block :=
      { markerLength := 3
        trailing := [' ']
        lines := [⟨[], .lineFeed, 7⟩, ⟨[' ', 'a'], .carriageReturnLineFeed, 8⟩]
        indentation := [' ']
        quote := '"'
        start := 1
        finish := 16 }
    scan .standard text 1 = .ok block ∧ block.Mirrors .standard text 1 := by
  refine ⟨by decide +kernel, ?_⟩
  apply scan_lossless
  decide +kernel

end Verbatim
