import Mathlib.Data.List.Induction
import Verbatim.Proofs.Insertion
import Verbatim.Proofs.ValueOutcomes
import Verbatim.Proofs.WholeLines

/-!
# Indenting a literal as a whole

Whitespace may be put in front of the closing line of a block and of each content line that
holds something.  `scan_reindented` says that the same block is captured, with more
indentation, and that its value is the same.  A misindented line is still misindented, at
the same character.

No closing line comes or goes, because the run behind the leading whitespace of a line
stays as it is.  What a line gained is stripped again, because the closing line gained it
too.
-/

namespace Verbatim

/-- Where the lines begin that hold something. -/
def Line.heads (lines : List Line) : List Int :=
  (lines.filter (·.text ≠ [])).map Line.offset

/-- Where the lines of a block begin that hold something, the closing line included. -/
def Block.heads (block : Block) : List Int :=
  Line.heads block.lines ++ [block.closingLine]

/-- A line with a piece in front of its text, unless it is empty. -/
def Line.indented (piece : Text) (moved : Int → Int) (line : Line) : Line :=
  { line with
    text := if line.text = [] then [] else piece ++ line.text
    offset := moved line.offset }

/-- A physical line with a piece in front, unless it is captured as an empty line. -/
def Text.indented (piece raw : Text) : Text :=
  if raw.withoutFinalReturn = [] then raw else piece ++ raw

section Values

variable {piece indentation : Text} {moved : Int → Int}

theorem agreement_append_append (piece left right : Text) :
    agreement (piece ++ left) (piece ++ right) = piece.length + agreement left right := by
  induction piece with
  | nil => simp
  | cons char piece induction =>
      rw [List.cons_append, List.cons_append, agreement, if_pos rfl, induction, List.length_cons]
      omega

theorem Line.misfits_indented_iff {line : Line} :
    (line.indented piece moved).Misfits (piece ++ indentation) ↔ line.Misfits indentation := by
  by_cases empty : line.text = []
  · simp [Misfits, indented, empty]
  · simp [Misfits, indented, empty, List.prefix_append_right_inj]

/-- What a line gained is stripped again. -/
theorem Line.dedented_indented (line : Line) :
    (line.indented piece moved).dedented (piece ++ indentation) = line.dedented indentation := by
  by_cases empty : line.text = []
  · simp [dedented, indented, empty]
  · simp [dedented, indented, empty, ← List.drop_drop]

theorem Line.piece_indented (line : Line) :
    (line.indented piece moved).piece (piece ++ indentation) = line.piece indentation := by
  rw [Line.piece, Line.piece, dedented_indented]
  rfl

/-- The first line that misfits still is the first, and misfits as far behind what it
gained. -/
theorem FirstMisfit.indented {correspond : Int → Int} {lines : List Line} {index : Nat}
    {position : Int}
    (places : ∀ line ∈ lines, line.text ≠ [] → ∀ agreed : Nat, agreed ≤ line.text.length →
      correspond (line.offset + agreed) = moved line.offset + piece.length + agreed)
    (first : FirstMisfit indentation lines index position) :
    FirstMisfit (piece ++ indentation) (lines.map (Line.indented piece moved)) index
      (correspond position) := by
  obtain ⟨before, line, after, common, rfl, rfl, fits, misfits, longest, rfl⟩ := first
  have text : (line.indented piece moved).text = piece ++ line.text := if_neg misfits.1
  have agreed := longestCommonPrefix_take_agreement (line.indented piece moved).text
    (piece ++ indentation)
  refine ⟨before.map (Line.indented piece moved), line.indented piece moved,
    after.map (Line.indented piece moved), _, by simp, by simp, ?_,
    Line.misfits_indented_iff.mpr misfits, agreed, ?_⟩
  · rw [List.forall_mem_map]
    exact fun earlier among misfit => fits earlier among (Line.misfits_indented_iff.mp misfit)
  · rw [places line (by simp) misfits.1 _ longest.beginsLeft.length_le, agreed.length_eq, text,
      agreement_append_append, ← longest.length_eq, Int.natCast_add, ← Int.add_assoc]
    rfl

theorem Block.valuedAlike_indented {block other : Block} {correspond : Int → Int}
    (lines : other.lines = block.lines.map (Line.indented piece moved))
    (indentation : other.indentation = piece ++ block.indentation)
    (ended : ∀ line ∈ block.lines, line.terminator ≠ .absent)
    (places : ∀ line ∈ block.lines, line.text ≠ [] → ∀ agreed : Nat,
      agreed ≤ line.text.length →
        correspond (line.offset + agreed) = moved line.offset + piece.length + agreed) :
    block.ValuedAlike correspond other := by
  rcases exists_firstMisfit_or_fits block.indentation block.lines with
    ⟨index, position, first⟩ | fits
  · right
    have alike := first.indented places
    rw [← lines, ← indentation] at alike
    exact ⟨index, position, value_of_firstMisfit first, value_of_firstMisfit alike⟩
  · left
    have alike : ∀ line ∈ other.lines, ¬ line.Misfits other.indentation := by
      rw [lines, indentation, List.forall_mem_map]
      exact fun line among misfit => fits line among (Line.misfits_indented_iff.mp misfit)
    rcases List.eq_nil_or_concat block.lines with none | ⟨before, last, shape⟩
    · refine ⟨[], ?_, ?_⟩
      · rw [value_of_fits fits, none]
        rfl
      · rw [value_of_fits alike, lines, none]
        rfl
    · rw [List.concat_eq_append] at shape
      have endedBefore : ∀ line ∈ before, line.terminator ≠ .absent :=
        fun line member => ended line (by simp [shape, member])
      have otherShape : other.lines =
          before.map (Line.indented piece moved) ++ [last.indented piece moved] := by
        rw [lines, shape, List.map_append, List.map_singleton]
      have pieces : Line.piece (piece ++ block.indentation) ∘ Line.indented piece moved =
          Line.piece block.indentation := funext Line.piece_indented
      refine ⟨_, value_of_ended fits shape endedBefore, ?_⟩
      rw [value_of_ended alike otherShape (List.forall_mem_map.mpr endedBefore), indentation,
        List.map_map, pieces, Line.dedented_indented]

end Values

section Lines

variable {dialect : Dialect} {piece : Text}

theorem Text.indented_eq_append (piece raw : Text) :
    indented piece raw = raw ∨ indented piece raw = piece ++ raw := by
  unfold indented
  split
  · exact .inl rfl
  · exact .inr rfl

theorem Text.unbroken_indented {raw : Text}
    (blank : ∀ char ∈ piece, dialect.isWhitespace char = true) (unbroken : '\n' ∉ raw) :
    '\n' ∉ indented piece raw := by
  rcases Text.indented_eq_append piece raw with same | longer
  · rwa [same]
  · rw [longer]
    simp [lineFeed_not_mem_of_blank blank, unbroken]

/-- More whitespace in front neither makes a closing line nor unmakes one. -/
theorem closes_indented_iff {quote : Char} {length : Nat} {raw : Text}
    (blank : ∀ char ∈ piece, dialect.isWhitespace char = true) :
    Closes dialect quote length (Text.indented piece raw) ↔ Closes dialect quote length raw := by
  rcases Text.indented_eq_append piece raw with same | longer
  · rw [same]
  · rw [longer, closes_iff_leadingRun_eq, closes_iff_leadingRun_eq,
      List.dropWhile_append_of_pos blank]

/-- What is put in front of a physical line is in front of the captured one. -/
theorem Line.ofTerminated_indented {moved : Int → Int} (position : Int) (raw : Text)
    (apart : '\r' ∉ piece) :
    ofTerminated (moved position) (Text.indented piece raw) =
      (ofTerminated position raw).indented piece moved := by
  rw [ofTerminated_eq, ofTerminated_eq, Text.indented]
  by_cases empty : raw.withoutFinalReturn = []
  · simp [indented, empty]
  · have nonempty : raw ≠ [] := by
      rintro rfl
      exact empty rfl
    rw [if_neg empty, Text.withoutFinalReturn_append apart,
      List.getLast?_append_of_ne_nil piece nonempty]
    simp [indented, empty]

theorem Line.placed_indented {moved : Int → Int} (apart : '\r' ∉ piece) {content : List Text}
    {position start : Int}
    (places : ∀ before after, content = before ++ after →
      moved (position + (Text.terminated before).length) =
        start + (Text.terminated (before.map (Text.indented piece))).length) :
    placed start (content.map (Text.indented piece)) =
      (placed position content).map (Line.indented piece moved) := by
  apply placed_map places
  intro raw _ place
  exact ofTerminated_indented place raw apart

end Lines

section Heads

theorem Line.heads_cons (line : Line) (later : List Line) :
    heads (line :: later) =
      if line.text = [] then heads later else line.offset :: heads later := by
  by_cases empty : line.text = []
  · simp [heads, empty]
  · simp [heads, empty]

theorem Line.heads_append (before after : List Line) :
    heads (before ++ after) = heads before ++ heads after := by
  simp [heads]

theorem Line.mem_heads_placed_cons_iff {position place : Int} {raw : Text} {later : List Text} :
    place ∈ heads (placed position (raw :: later)) ↔
      (place = position ∧ raw.withoutFinalReturn ≠ []) ∨
        place ∈ heads (placed (position + raw.length + 1) later) := by
  rw [placed, heads_cons, text_ofTerminated, offset_ofTerminated]
  split
  · next empty => simp [empty]
  · next nonempty => simp [nonempty]

/-- Lines begin where they were placed. -/
theorem Line.bounds_of_mem_heads_placed {position : Int} {content : List Text} {place : Int}
    (among : place ∈ heads (placed position content)) :
    position ≤ place ∧ place < position + (Text.terminated content).length := by
  obtain ⟨line, member, rfl⟩ := List.mem_map.mp among
  obtain ⟨index, found⟩ := List.getElem?_of_mem (List.mem_of_mem_filter member)
  obtain ⟨before, raw, after, rfl, _, rfl⟩ := exists_of_getElem?_placed found
  rw [offset_ofTerminated, Text.terminated_append, List.length_append, Text.terminated_cons,
    List.length_append, List.length_cons]
  omega

end Heads

namespace Layout

variable {dialect : Dialect} (layout : Layout dialect) {piece front following : Text}

/-- The opening line with its line feed. -/
def openingLine : Text :=
  layout.marker ++ layout.opening ++ ['\n']

/-- Where the lines behind the opening line begin. -/
def contentStart (start : Int) : Int :=
  start + layout.length + layout.opening.length + 1

/-- The layout with a piece in front of its closing line, and of each content line that is
not captured as an empty one. -/
def reindented (piece : Text) (blank : ∀ char ∈ piece, dialect.isWhitespace char = true) :
    Layout dialect :=
  layout.withBody layout.length (layout.content.map (Text.indented piece))
    (piece ++ layout.indentation) layout.longEnough
    (List.forall_mem_map.mpr fun raw among =>
      Text.unbroken_indented blank (layout.contentUnbroken raw among))
    (List.forall_mem_map.mpr fun raw among closes =>
      layout.contentStays raw among ((closes_indented_iff blank).mp closes))
    (List.forall_mem_append.mpr ⟨blank, layout.indentationBlank⟩)

/-- What stands before a line reaches as far as the line's place. -/
theorem length_before_line (front : Text) (before : List Text) :
    ((front ++ layout.openingLine ++ Text.terminated before).length : Int) =
      layout.contentStart front.length + (Text.terminated before).length := by
  simp [openingLine, contentStart, marker]
  omega

theorem characters_of_content {before after : List Text}
    (content : layout.content = before ++ after) :
    front ++ layout.characters ++ following =
      (front ++ layout.openingLine ++ Text.terminated before) ++
        (Text.terminated after ++ layout.indentation ++ layout.marker ++ following) := by
  simp [characters, body, openingLine, content]

theorem lines_block (start : Int) :
    (layout.block start).lines = Line.placed (layout.contentStart start) layout.content :=
  rfl

theorem heads_block (start : Int) :
    (layout.block start).heads =
      Line.heads (Line.placed (layout.contentStart start) layout.content) ++
        [layout.contentStart start + (Text.terminated layout.content).length] := by
  rw [Block.heads, closingLine_block, lines_block, contentStart]

theorem bounds_of_mem_heads {start place : Int} (among : place ∈ (layout.block start).heads) :
    layout.contentStart start ≤ place ∧
      place ≤ layout.contentStart start + (Text.terminated layout.content).length := by
  rw [heads_block] at among
  rcases List.mem_append.mp among with inContent | closing
  · have bounds := Line.bounds_of_mem_heads_placed inContent
    omega
  · rw [List.mem_singleton.mp closing]
    omega

section OnLine

variable {before after : List Text} {raw : Text}

/-- On a line only its beginning is a place, and only if something is captured of it. -/
theorem mem_heads_on_line_iff (content : layout.content = before ++ raw :: after)
    {start place : Int}
    (low : layout.contentStart start + (Text.terminated before).length ≤ place)
    (high : place <
      layout.contentStart start + (Text.terminated before).length + raw.length + 1) :
    place ∈ (layout.block start).heads ↔
      place = layout.contentStart start + (Text.terminated before).length ∧
        raw.withoutFinalReturn ≠ [] := by
  have width : (Text.terminated layout.content).length =
      (Text.terminated before).length + raw.length + 1 + (Text.terminated after).length := by
    rw [content, Text.terminated_append, Text.terminated_cons]
    simp
    omega
  rw [heads_block, width, content, Line.placed_append, Line.heads_append, List.mem_append,
    List.mem_append, Line.mem_heads_placed_cons_iff, List.mem_singleton]
  constructor
  · rintro ((early | here | late) | closing)
    · have bounds := Line.bounds_of_mem_heads_placed early
      omega
    · exact here
    · have bounds := Line.bounds_of_mem_heads_placed late
      omega
    · omega
  · exact fun here => .inl (.inr (.inl here))

/-- The piece goes in front of a stretch that begins with a line, if something is captured
of the line, and does not go anywhere else in it. -/
theorem inserting_on_line (content : layout.content = before ++ raw :: after)
    {stretch : Text} (nonempty : stretch ≠ []) (short : stretch.length ≤ raw.length + 1) :
    Text.inserting piece (layout.block front.length).heads
        (layout.contentStart front.length + (Text.terminated before).length) stretch =
      if raw.withoutFinalReturn = [] then stretch else piece ++ stretch := by
  split
  · next empty =>
      apply Text.inserting_eq_self
      intro place among low
      by_contra inside
      exact ((layout.mem_heads_on_line_iff content low (by omega)).mp among).2 empty
  · next holds =>
      apply Text.inserting_eq_append _ nonempty
      · intro place among beyond
        by_contra inside
        have here := (layout.mem_heads_on_line_iff content (by omega) (by omega)).mp among
        omega
      · exact (layout.mem_heads_on_line_iff content (Int.le_refl _) (by omega)).mpr ⟨rfl, holds⟩

end OnLine

/-- Up to a line the piece is in front of the lines that hold something. -/
theorem inserting_before {before after : List Text} (content : layout.content = before ++ after) :
    Text.inserting piece (layout.block front.length).heads 0
        (front ++ layout.openingLine ++ Text.terminated before) =
      front ++ layout.openingLine ++ Text.terminated (before.map (Text.indented piece)) := by
  -- The last line is the one that comes off, since what stands before it gives its place.
  induction before using List.reverseRecOn generalizing after with
  | nil =>
      have width := layout.length_before_line front []
      apply Text.inserting_eq_self
      intro place among _
      have bounds := layout.bounds_of_mem_heads among
      rw [Text.terminated_nil, List.length_nil] at width
      rw [Text.terminated_nil]
      omega
  | append_singleton before raw induction =>
      rw [List.append_assoc, List.singleton_append] at content
      rw [Text.terminated_append, ← List.append_assoc, Text.inserting_append, induction content,
        Int.zero_add, length_before_line, layout.inserting_on_line content (by simp) (by simp)]
      by_cases empty : raw.withoutFinalReturn = []
      · simp [Text.indented, empty]
      · simp [Text.indented, empty]

/-- The piece goes in front of the closing line. -/
theorem inserting_closing :
    Text.inserting piece (layout.block front.length).heads
        (layout.contentStart front.length + (Text.terminated layout.content).length)
        (layout.indentation ++ layout.marker ++ following) =
      piece ++ (layout.indentation ++ layout.marker ++ following) := by
  apply Text.inserting_eq_append
  · rw [heads_block]
    exact List.mem_append_right _ (List.mem_singleton_self _)
  · have positive := layout.positive_length
    intro empty
    have none := congrArg List.length empty
    simp [length_marker] at none
    omega
  · intro place among beyond
    have bounds := layout.bounds_of_mem_heads among
    omega

/-- Putting a piece in front of the lines of a layout makes the reindented layout. -/
theorem inserting_characters (blank : ∀ char ∈ piece, dialect.isWhitespace char = true) :
    Text.inserting piece (layout.block front.length).heads 0
        (front ++ layout.characters ++ following) =
      front ++ (layout.reindented piece blank).characters ++ following := by
  have whole := (List.append_nil layout.content).symm
  rw [layout.characters_of_content whole, Text.inserting_append, layout.inserting_before whole,
    Int.zero_add, length_before_line, Text.terminated_nil, List.nil_append, inserting_closing,
    reindented, characters_withBody]
  simp [openingLine, marker]

section Cuts

variable {before after : List Text}

/-- A line begins behind the lines before it. -/
theorem movedCut_line (content : layout.content = before ++ after) :
    Text.movedCut piece (layout.block front.length).heads
        (front ++ layout.characters ++ following)
        (layout.contentStart front.length + (Text.terminated before).length) =
      layout.contentStart front.length +
        (Text.terminated (before.map (Text.indented piece))).length := by
  rw [← length_before_line, ← length_before_line, layout.characters_of_content content,
    Text.movedCut_of_eq_append rfl, layout.inserting_before content]

/-- What a line holds stands behind what the line gained. -/
theorem movedPlace_line {raw : Text} (content : layout.content = before ++ raw :: after)
    (holds : raw.withoutFinalReturn ≠ []) {agreed : Nat} (inside : agreed ≤ raw.length) :
    Text.movedPlace piece (layout.block front.length).heads
        (front ++ layout.characters ++ following)
        (layout.contentStart front.length + (Text.terminated before).length + agreed) =
      layout.contentStart front.length +
        (Text.terminated (before.map (Text.indented piece))).length + piece.length + agreed := by
  -- The line is cut behind the place, possibly behind its line feed.
  obtain ⟨stretch, remainder, line, stretchLength⟩ : ∃ stretch remainder,
      raw ++ ['\n'] = stretch ++ remainder ∧ stretch.length = agreed + 1 :=
    ⟨_, _, (List.take_append_drop (agreed + 1) _).symm, by simp; omega⟩
  have nonempty : stretch ≠ [] := List.ne_nil_of_length_eq_add_one stretchLength
  have whole : front ++ layout.characters ++ following =
      (front ++ layout.openingLine ++ Text.terminated before ++ stretch) ++
        (remainder ++ Text.terminated after ++ layout.indentation ++ layout.marker ++
          following) := by
    have cut : raw ++ '\n' :: Text.terminated after =
        stretch ++ (remainder ++ Text.terminated after) := by
      rw [← List.append_assoc, ← line, List.append_assoc, List.singleton_append]
    rw [layout.characters_of_content content, Text.terminated_cons, cut]
    simp only [List.append_assoc]
  have start := layout.length_before_line front before
  have moved := layout.length_before_line front (before.map (Text.indented piece))
  have width : layout.contentStart front.length + (Text.terminated before).length + agreed + 1 =
      (front ++ layout.openingLine ++ Text.terminated before ++ stretch).length := by
    rw [List.length_append, stretchLength]
    omega
  rw [Text.movedPlace, width, Text.movedCut_of_eq_append whole, Text.inserting_append,
    layout.inserting_before content, Int.zero_add, start,
    layout.inserting_on_line content nonempty (by omega), if_neg holds]
  simp only [List.length_append, stretchLength] at moved ⊢
  omega

theorem movedCut_finish (blank : ∀ char ∈ piece, dialect.isWhitespace char = true)
    (following : Text) :
    Text.movedCut piece (layout.block front.length).heads
        (front ++ layout.characters ++ following) (layout.block front.length).finish =
      (front ++ (layout.reindented piece blank).characters).length := by
  have width : (layout.block front.length).finish = (front ++ layout.characters).length := by
    simp [block]
  have inserted : Text.inserting piece (layout.block front.length).heads 0
      (front ++ layout.characters ++ []) = _ := layout.inserting_characters blank
  rw [List.append_nil, List.append_nil] at inserted
  rw [width, Text.movedCut_of_eq_append rfl, inserted]

end Cuts

/-- A reindented layout is captured as the block with its lines indented. -/
theorem block_reindented (blank : ∀ char ∈ piece, dialect.isWhitespace char = true)
    (following : Text) :
    (layout.reindented piece blank).block front.length =
      { layout.block front.length with
        lines := (layout.block front.length).lines.map
          (Line.indented piece (Text.movedCut piece (layout.block front.length).heads
            (front ++ layout.characters ++ following)))
        indentation := piece ++ layout.indentation
        finish := Text.movedCut piece (layout.block front.length).heads
          (front ++ layout.characters ++ following) (layout.block front.length).finish } := by
  have lines : Line.placed (layout.contentStart front.length)
      (layout.content.map (Text.indented piece)) =
        (Line.placed (layout.contentStart front.length) layout.content).map
          (Line.indented piece (Text.movedCut piece (layout.block front.length).heads
            (front ++ layout.characters ++ following))) :=
    Line.placed_indented (carriageReturn_not_mem_of_blank blank) fun before after content =>
      layout.movedCut_line content
  rw [layout.movedCut_finish blank following, List.length_append, Int.natCast_add]
  rw [block, Block.mk.injEq]
  exact ⟨rfl, rfl, lines, rfl, rfl, rfl, rfl⟩

/-- A place on a line that has something on it moves with the line and with what the line
gained. -/
theorem movedPlace_of_mem_lines {line : Line} (member : line ∈ (layout.block front.length).lines)
    (holds : line.text ≠ []) {agreed : Nat} (inside : agreed ≤ line.text.length) :
    Text.movedPlace piece (layout.block front.length).heads
        (front ++ layout.characters ++ following) (line.offset + agreed) =
      Text.movedCut piece (layout.block front.length).heads
          (front ++ layout.characters ++ following) line.offset + piece.length + agreed := by
  obtain ⟨index, found⟩ := List.getElem?_of_mem member
  rw [lines_block] at found
  obtain ⟨before, raw, after, content, _, rfl⟩ := Line.exists_of_getElem?_placed found
  rw [Line.text_ofTerminated] at holds inside
  have shorter := raw.withoutFinalReturn_prefix.length_le
  rw [Line.offset_ofTerminated, layout.movedPlace_line content holds (by omega),
    layout.movedCut_line content]

end Layout

/-- Whitespace in front of the closing line of a block and of each content line that holds
something leaves the value as it is, and a misindentation at the same character. -/
theorem scan_reindented {dialect : Dialect} {text piece : Text} {offset : Nat} {block : Block}
    (scanned : scan dialect text offset = .ok block)
    (blank : ∀ char ∈ piece, dialect.isWhitespace char = true) :
    let other := Text.inserting piece block.heads 0 text
    let indented : Block :=
      { block with
        lines := block.lines.map (Line.indented piece (Text.movedCut piece block.heads text))
        indentation := piece ++ block.indentation
        finish := Text.movedCut piece block.heads text block.finish }
    scan dialect other offset = .ok indented ∧
      block.ValuedAlike (Text.movedPlace piece block.heads text) indented ∧
      ∀ position : Nat, position < text.length →
        other.charAt? (Text.movedPlace piece block.heads text position) =
            text.charAt? position ∧
          ∀ earlier : Nat, earlier < position →
            Text.movedPlace piece block.heads text earlier <
              Text.movedPlace piece block.heads text position := by
  intro other indented
  have ended : ∀ line ∈ block.lines, line.terminator ≠ .absent := fun line member =>
    (unbroken_and_ended_of_scan_eq_ok scanned line member).2
  obtain ⟨layout, following, shape, boundary, rfl⟩ := scan_eq_ok_iff.mp scanned
  have behind := (layout.markerAt shape).offset_lt_length
  obtain ⟨front, rfl, rfl⟩ : ∃ front : Text, front.length = offset ∧
      text = front ++ layout.characters ++ following := by
    refine ⟨text.take offset, by rw [List.length_take]; omega, ?_⟩
    rw [List.append_assoc, ← shape, List.take_append_drop]
  refine ⟨?_, Block.valuedAlike_indented rfl rfl ended ?_,
    fun position inside => ⟨Text.charAt?_movedPlace inside,
      fun earlier before => Text.movedPlace_lt_movedPlace before inside⟩⟩
  · have inserted : other = front ++ (layout.reindented piece blank).characters ++ following :=
      layout.inserting_characters blank
    have behindFront : other.drop front.length =
        (layout.reindented piece blank).characters ++ following := by
      rw [inserted, List.append_assoc, List.drop_left]
    have captured := (layout.reindented piece blank).scan_eq_ok behindFront boundary
    rwa [layout.block_reindented blank following] at captured
  · intro line member holds agreed inside
    exact layout.movedPlace_of_mem_lines member holds inside

/-- A tab in front of the lines of a block with a bare line end among them, and a line that
is misindented with and without it. -/
theorem scan_reindented_bare_line_end :
    let text : Text := ['x', '"', '"', '"', ' ', '\n', ' ', ' ', 'a', '\r', '\n', '\r', '\n',
      '\t', 'b', '\n', ' ', '"', '"', '"']
    let other : Text := ['x', '"', '"', '"', ' ', '\n', '\t', ' ', ' ', 'a', '\r', '\n', '\r',
      '\n', '\t', '\t', 'b', '\n', '\t', ' ', '"', '"', '"']
    let block : Block :=
      { markerLength := 3
        trailing := [' ']
        lines := [⟨[' ', ' ', 'a'], .carriageReturnLineFeed, 6⟩,
          ⟨[], .carriageReturnLineFeed, 11⟩, ⟨['\t', 'b'], .lineFeed, 13⟩]
        indentation := [' ']
        quote := '"'
        start := 1
        finish := 20 }
    let indented : Block :=
      { block with
        lines := [⟨['\t', ' ', ' ', 'a'], .carriageReturnLineFeed, 6⟩,
          ⟨[], .carriageReturnLineFeed, 12⟩, ⟨['\t', '\t', 'b'], .lineFeed, 14⟩]
        indentation := ['\t', ' ']
        finish := 23 }
    scan .standard text 1 = .ok block ∧
      (∀ char ∈ ['\t'], Dialect.standard.isWhitespace char = true) ∧
      Text.inserting ['\t'] block.heads 0 text = other ∧
      scan .standard other 1 = .ok indented ∧
      block.ValuedAlike (Text.movedPlace ['\t'] block.heads text) indented ∧
      block.value = .error (.malformed (.misindented 2 13)) ∧
      Text.movedPlace ['\t'] block.heads text 13 = 15 ∧
      other.charAt? 15 = text.charAt? 13 := by
  intro text other block indented
  have scanned : scan .standard text (1 : Nat) = .ok block := by decide +kernel
  have blank : ∀ char ∈ ['\t'], Dialect.standard.isWhitespace char = true :=
    List.forall_mem_singleton.mpr (by decide)
  have inserted : Text.inserting ['\t'] block.heads 0 text = other := by decide +kernel
  have moved : Text.movedPlace ['\t'] block.heads text (13 : Nat) = 15 := by decide +kernel
  obtain ⟨captured, alike, same⟩ := scan_reindented scanned blank
  rw [inserted] at captured
  obtain ⟨atThirteen, _⟩ := same 13 (by decide)
  rw [inserted, moved] at atThirteen
  exact ⟨scanned, blank, inserted, captured, alike, by decide +kernel, moved, atThirteen⟩

end Verbatim
