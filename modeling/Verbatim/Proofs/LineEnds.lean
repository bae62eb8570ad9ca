import Verbatim.Proofs.Misindentation
import Verbatim.Proofs.Places
import Verbatim.Proofs.Reindentation
import Verbatim.Proofs.Trouble

/-!
# Two conventions for line ends

A text whose lines end in bare line feeds may be written with a carriage return in front of
each of them.  `read_withReturns` says that reading does not mind: the same literal is found
at the place that corresponds, its value has a carriage return in front of each of its own
line feeds, and a failure names the places that correspond.

Carriage returns that stand elsewhere are ordinary characters of both texts.  What has to be
shown is that none of them becomes part of a line end, that none of the new ones is taken
for anything else, and that a place on a terminator falls on the new carriage return.
-/

namespace Verbatim

namespace Text

/-- The text with a carriage return in front of each line feed. -/
def withReturns (text : Text) : Text :=
  text.flatMap fun char => if char = '\n' then ['\r', '\n'] else [char]

/-- The place with the same characters in front of it once there are carriage returns in
front of the line feeds. -/
def placeWithReturns (text : Text) (position : Int) : Int :=
  position + (text.take position.toNat).count '\n'

/-- No line feed of the text stands directly behind a carriage return. -/
def BareLineFeeds (text : Text) : Prop :=
  ∀ position : Nat, text[position]? = some '\r' → text[position + 1]? ≠ some '\n'

instance (text : Text) : Decidable text.BareLineFeeds :=
  decidable_of_iff
    (∀ position, position < text.length →
      text[position]? = some '\r' → text[position + 1]? ≠ some '\n')
    ⟨fun inside position returned =>
      inside position (List.getElem?_eq_some_iff.mp returned).1 returned,
      fun bare position _ => bare position⟩

theorem withReturns_append (front rest : Text) :
    (front ++ rest).withReturns = front.withReturns ++ rest.withReturns :=
  List.flatMap_append

theorem withReturns_of_unbroken {text : Text} (unbroken : '\n' ∉ text) :
    text.withReturns = text := by
  induction text with
  | nil => rfl
  | cons char rest induction =>
      have different : char ≠ '\n' := Ne.symm (List.ne_of_not_mem_cons unbroken)
      have later := induction (List.not_mem_of_not_mem_cons unbroken)
      unfold withReturns at later ⊢
      rw [List.flatMap_cons, if_neg different, later]
      rfl

theorem withReturns_terminated {lines : List Text} (unbroken : ∀ line ∈ lines, '\n' ∉ line) :
    (terminated lines).withReturns = terminated (lines.map (· ++ ['\r'])) := by
  induction lines with
  | nil => rfl
  | cons line later induction =>
      obtain ⟨lineUnbroken, laterUnbroken⟩ := List.forall_mem_cons.mp unbroken
      have feed : withReturns ('\n' :: terminated later) =
          '\r' :: '\n' :: (terminated later).withReturns := rfl
      rw [terminated_cons, withReturns_append, withReturns_of_unbroken lineUnbroken, feed,
        induction laterUnbroken]
      simp

theorem length_withReturns (text : Text) :
    text.withReturns.length = text.length + text.count '\n' := by
  induction text with
  | nil => rfl
  | cons char rest induction =>
      rw [← List.singleton_append, withReturns_append, List.length_append, induction,
        List.length_append, List.count_append]
      by_cases feed : char = '\n'
      · simp [withReturns, feed]
        omega
      · simp [withReturns, feed]
        omega

theorem placeWithReturns_natCast (text : Text) (position : Nat) :
    text.placeWithReturns position = (position + (text.take position).count '\n' : Nat) := by
  rw [placeWithReturns, Int.toNat_natCast, Int.natCast_add]

/-- What stands in front of a place stands in front of the place that corresponds. -/
theorem placeWithReturns_of_eq_append {text front rest : Text} (shape : text = front ++ rest) :
    text.placeWithReturns front.length = front.withReturns.length := by
  rw [placeWithReturns_natCast, shape, List.take_left, length_withReturns]

/-- Characters of one line move together. -/
theorem placeWithReturns_add {text piece rest : Text} {position : Nat}
    (stands : text.drop position = piece ++ rest) (unbroken : '\n' ∉ piece) :
    text.placeWithReturns ((position : Int) + piece.length) =
      text.placeWithReturns position + piece.length := by
  have further : text.take (position + piece.length) = text.take position ++ piece := by
    rw [List.take_add, stands, List.take_left]
  rw [← Int.natCast_add, placeWithReturns_natCast, placeWithReturns_natCast, further,
    List.count_append, List.count_eq_zero.mpr unbroken]
  omega

theorem drop_withReturns (text : Text) (position : Nat) :
    text.withReturns.drop (position + (text.take position).count '\n') =
      withReturns (text.drop position) := by
  by_cases inside : position ≤ text.length
  · have whole := withReturns_append (text.take position) (text.drop position)
    have width := length_withReturns (text.take position)
    rw [List.take_append_drop] at whole
    rw [List.length_take, Nat.min_eq_left inside] at width
    rw [whole, ← width, List.drop_left]
  · have width := length_withReturns text
    rw [List.take_of_length_le (by omega), List.drop_eq_nil_of_le (by omega),
      List.drop_eq_nil_of_le (by omega)]
    rfl

theorem head?_withReturns_ne {text : Text} {char : Char} (notReturn : char ≠ '\r')
    (apart : text.head? ≠ some char) : text.withReturns.head? ≠ some char := by
  cases text with
  | nil => simp [withReturns]
  | cons first rest =>
      by_cases feed : first = '\n'
      · simpa [withReturns, feed] using Ne.symm notReturn
      · simpa [withReturns, feed] using apart

theorem withoutFinalReturn_append_return (line : Text) :
    (line ++ ['\r']).withoutFinalReturn = line := by
  simp [withoutFinalReturn]

theorem withoutFinalReturn_of_getLast?_ne {line : Text} (bare : line.getLast? ≠ some '\r') :
    line.withoutFinalReturn = line :=
  if_neg bare

namespace BareLineFeeds

variable {text : Text}

theorem drop (bare : text.BareLineFeeds) (offset : Nat) : BareLineFeeds (text.drop offset) := by
  intro position returned fed
  rw [List.getElem?_drop] at returned fed
  exact bare _ returned fed

/-- A line that a line feed ends does not end in a carriage return. -/
theorem getLast?_ne {front line rest : Text} (bare : text.BareLineFeeds)
    (shape : text = front ++ line ++ '\n' :: rest) : line.getLast? ≠ some '\r' := by
  intro last
  obtain ⟨most, rfl⟩ := List.getLast?_eq_some_iff.mp last
  have split : text = (front ++ most) ++ ('\r' :: '\n' :: rest) := by
    rw [shape]
    simp
  apply bare (front ++ most).length
  · rw [split, getElem?_length_append]
    rfl
  · rw [split, List.getElem?_append_right (Nat.le_add_right _ _), Nat.add_sub_cancel_left]
    rfl

end BareLineFeeds

/-- What is judged of an opening line stays the same. -/
theorem withoutFinalReturn_firstLine_withReturns {text : Text} (bare : text.BareLineFeeds) :
    text.withReturns.firstLine.withoutFinalReturn = text.firstLine.withoutFinalReturn := by
  rcases text.unbroken_or_exists_eq_append_lineFeed with unbroken | broken
  · rw [withReturns_of_unbroken unbroken]
  · obtain ⟨line, rest, unbroken, rfl⟩ := broken
    have returned : withReturns (line ++ '\n' :: rest) =
        (line ++ ['\r']) ++ '\n' :: withReturns rest := by
      rw [withReturns_append, withReturns_of_unbroken unbroken, List.append_assoc]
      rfl
    have lineBare : line.getLast? ≠ some '\r' :=
      @BareLineFeeds.getLast?_ne _ [] line rest bare rfl
    rw [returned, firstLine_append_lineFeed (by simpa using unbroken),
      firstLine_append_lineFeed unbroken, withoutFinalReturn_append_return,
      withoutFinalReturn_of_getLast?_ne lineBare]

/-- The lines behind the first one are the same, or have got a carriage return. -/
theorem exists_splitOn_withReturns (text : Text) {opening : Text} {later : List Text}
    (split : text.splitOn '\n' = opening :: later) :
    ∃ returnedOpening returnedLater,
      text.withReturns.splitOn '\n' = returnedOpening :: returnedLater ∧
        ∀ line ∈ returnedLater, line ∈ later ∨ ∃ original ∈ later, line = original ++ ['\r'] := by
  obtain ⟨lines, last, shape, linesUnbroken, lastUnbroken⟩ := exists_eq_terminated_append text
  have returnedUnbroken : ∀ line ∈ lines.map (· ++ ['\r']), '\n' ∉ line := by
    rw [List.forall_mem_map]
    intro line member
    simpa using linesUnbroken line member
  have returned : text.withReturns.splitOn '\n' = lines.map (· ++ ['\r']) ++ [last] := by
    rw [shape, withReturns_append, withReturns_terminated linesUnbroken,
      withReturns_of_unbroken lastUnbroken, splitOn_terminated_append returnedUnbroken,
      List.splitOn_eq_singleton lastUnbroken]
  rw [shape, splitOn_terminated_append linesUnbroken,
    List.splitOn_eq_singleton lastUnbroken] at split
  cases lines with
  | nil => exact ⟨last, [], returned, List.forall_mem_nil _⟩
  | cons line others =>
      obtain ⟨_, rfl⟩ := List.cons.inj split
      refine ⟨line ++ ['\r'], _, returned, ?_⟩
      intro line member
      rcases List.mem_append.mp member with changed | same
      · obtain ⟨original, among, rfl⟩ := List.mem_map.mp changed
        exact .inr ⟨original, List.mem_append_left _ among, rfl⟩
      · exact .inl (List.mem_append_right _ same)

end Text

/-- A carriage return at its end neither makes a closing line nor unmakes one. -/
theorem closes_append_return_iff {dialect : Dialect} {quote : Char} {length : Nat} {line : Text}
    (notReturn : quote ≠ '\r') :
    Closes dialect quote length (line ++ ['\r']) ↔ Closes dialect quote length line := by
  have solid : ∀ char ∈ ['\r'].head?, dialect.isWhitespace char = false := by
    simpa using dialect.isWhitespace_carriageReturn
  have run : leadingRun quote (([] ++ line ++ ['\r']).dropWhile dialect.isWhitespace) =
      leadingRun quote (line.dropWhile dialect.isWhitespace) :=
    leadingRun_dropWhile_append (List.forall_mem_nil _) solid (by simpa using Ne.symm notReturn)
  rw [closes_iff_leadingRun_eq, closes_iff_leadingRun_eq, ← run, List.nil_append]

section Data

/-- The malformation with its positions moved. -/
def Malformation.relocate (moved : Int → Int) : Malformation → Malformation
  | .strayText position => .strayText (moved position)
  | .unterminated start finish => .unterminated (moved start) (moved finish)
  | .misindented line position => .misindented line (moved position)

/-- A line feed as a terminator becomes a carriage return and a line feed. -/
def Terminator.withReturn : Terminator → Terminator
  | .lineFeed => .carriageReturnLineFeed
  | terminator => terminator

def Line.withReturn (moved : Int → Int) (line : Line) : Line :=
  { line with
    terminator := line.terminator.withReturn
    offset := moved line.offset }

def Failure.relocate (moved : Int → Int) : Failure → Failure
  | .malformed malformation => .malformed (malformation.relocate moved)
  | .noMarker offset => .noMarker (moved offset)
  | .shortMarker found offset => .shortMarker found (moved offset)
  | .outOfRange position => .outOfRange (moved position)
  | .missingTerminator line => .missingTerminator (line.withReturn moved)
  | .unimplementedObserver => .unimplementedObserver
  | .raisedWarning warning => .raisedWarning warning

/-- The block with another terminator behind each line, and with its positions moved. -/
def Block.withReturns (moved : Int → Int) (block : Block) : Block :=
  { block with
    lines := block.lines.map (Line.withReturn moved)
    start := moved block.start
    finish := moved block.finish }

def Literal.withReturns (moved : Int → Int) (literal : Literal) : Literal where
  value := literal.value.withReturns
  block := literal.block.withReturns moved

end Data

section Values

variable {moved : Int → Int} {indentation : Text}

theorem Line.dedented_withReturn (line : Line) :
    (line.withReturn moved).dedented indentation = line.dedented indentation :=
  rfl

theorem Line.piece_withReturn {line : Line} (ended : line.terminator = .lineFeed) :
    (line.withReturn moved).piece indentation = line.piece indentation ++ ['\r'] := by
  simp [piece, withReturn, Terminator.withReturn, Terminator.carriageReturn, ended, dedented]

/-- The first line that misfits still is the first, at the place that corresponds. -/
theorem FirstMisfit.withReturns {lines : List Line} {index : Nat} {position : Int}
    (places : ∀ line ∈ lines, ∀ agreed : Nat, agreed ≤ line.text.length →
      moved (line.offset + agreed) = moved line.offset + agreed)
    (first : FirstMisfit indentation lines index position) :
    FirstMisfit indentation (lines.map (Line.withReturn moved)) index (moved position) := by
  obtain ⟨before, line, after, common, rfl, rfl, fits, misfits, longest, rfl⟩ := first
  refine ⟨before.map (Line.withReturn moved), line.withReturn moved,
    after.map (Line.withReturn moved), common, by simp, by simp, ?_, misfits, longest, ?_⟩
  · exact List.forall_mem_map.mpr fits
  · exact places line (by simp) _ longest.beginsLeft.length_le

/-- The line feeds between pieces are all there are. -/
theorem Text.withReturns_intercalate {pieces : List Text} {last : Text}
    (unbroken : ∀ piece ∈ pieces ++ [last], '\n' ∉ piece) :
    Text.withReturns (['\n'].intercalate (pieces ++ [last])) =
      ['\n'].intercalate (pieces.map (· ++ ['\r']) ++ [last]) := by
  induction pieces with
  | nil =>
      rw [List.nil_append, List.map_nil, List.nil_append, List.intercalate_singleton]
      exact withReturns_of_unbroken (unbroken last (by simp))
  | cons piece later induction =>
      obtain ⟨pieceUnbroken, laterUnbroken⟩ := List.forall_mem_cons.mp unbroken
      rw [List.cons_append, List.map_cons, List.cons_append,
        List.intercalate_cons_of_ne_nil (by simp), List.intercalate_cons_of_ne_nil (by simp),
        withReturns_append, withReturns_append, withReturns_of_unbroken pieceUnbroken,
        induction laterUnbroken, List.append_assoc piece ['\r']]
      rfl

/-- A block of lines that end in line feeds has the value that corresponds. -/
theorem Block.value_withReturns {block : Block}
    (unbroken : ∀ line ∈ block.lines, '\n' ∉ line.text)
    (ended : ∀ line ∈ block.lines, line.terminator = .lineFeed)
    (places : ∀ line ∈ block.lines, ∀ agreed : Nat, agreed ≤ line.text.length →
      moved (line.offset + agreed) = moved line.offset + agreed) :
    (block.withReturns moved).value =
      (block.value.map Text.withReturns).mapError (Failure.relocate moved) := by
  rcases exists_firstMisfit_or_fits block.indentation block.lines with
    ⟨index, position, first⟩ | fits
  · have alike : FirstMisfit (block.withReturns moved).indentation
        (block.withReturns moved).lines index (moved position) := first.withReturns places
    rw [value_of_firstMisfit first, value_of_firstMisfit alike]
    rfl
  · have alike : ∀ line ∈ (block.withReturns moved).lines,
        ¬ line.Misfits (block.withReturns moved).indentation := List.forall_mem_map.mpr fits
    rcases List.eq_nil_or_concat block.lines with none | ⟨before, last, shape⟩
    · have alikeNone : (block.withReturns moved).lines = [] := by simp [withReturns, none]
      rw [value_of_fits fits, value_of_fits alike, none, alikeNone]
      rfl
    · rw [List.concat_eq_append] at shape
      have alikeShape : (block.withReturns moved).lines =
          before.map (Line.withReturn moved) ++ [last.withReturn moved] := by
        simp [withReturns, shape]
      have endedBefore : ∀ line ∈ before, line.terminator = .lineFeed :=
        fun line member => ended line (by simp [shape, member])
      have present : ∀ line ∈ before, line.terminator ≠ .absent := by
        intro line member
        simp [endedBefore line member]
      have alikePresent : ∀ line ∈ before.map (Line.withReturn moved),
          line.terminator ≠ .absent := by
        rw [List.forall_mem_map]
        intro line member
        simp [Line.withReturn, Terminator.withReturn, endedBefore line member]
      have pieces : (before.map (Line.withReturn moved)).map (Line.piece block.indentation) =
          (before.map (Line.piece block.indentation)).map (· ++ ['\r']) := by
        rw [List.map_map, List.map_map]
        exact List.map_congr_left fun line member => Line.piece_withReturn (endedBefore line member)
      have joined : (block.withReturns moved).value = .ok (['\n'].intercalate
          ((before.map (Line.withReturn moved)).map (Line.piece block.indentation) ++
            [(last.withReturn moved).dedented block.indentation])) :=
        value_of_ended alike alikeShape alikePresent
      rw [joined, value_of_ended fits shape present, pieces, Line.dedented_withReturn,
        ← Text.withReturns_intercalate (unbroken_pieces (shape ▸ unbroken))]
      rfl

end Values

section Verdicts

variable {dialect : Dialect} {text : Text} {offset : Nat}

theorem leadingRun_withReturns {quote : Char} (notReturn : quote ≠ '\r') (notFeed : quote ≠ '\n')
    (text : Text) : leadingRun quote text.withReturns = leadingRun quote text := by
  obtain ⟨rest, shape, boundary⟩ := exists_eq_replicate_leadingRun_append quote text
  have unbroken : '\n' ∉ List.replicate (leadingRun quote text) quote := by
    intro member
    exact notFeed (List.eq_of_mem_replicate member).symm
  apply leadingRun_eq_iff.mpr
  refine ⟨rest.withReturns, ?_, Text.head?_withReturns_ne notReturn boundary⟩
  conv_lhs => rw [shape]
  rw [Text.withReturns_append, Text.withReturns_of_unbroken unbroken]

theorem Opening.measure_of_not_isQuote {start : Int} {char : Char}
    (other : dialect.isQuote char = false) (rest : Text) :
    measure dialect start (char :: rest) = .error (.noMarker start) :=
  if_pos other

/-- Where no marker can be measured, none can be at the place that corresponds. -/
theorem Opening.measure_withReturns {start : Int} {onward : Text} {failure : Failure}
    (noReturn : dialect.isQuote '\r' = false) (noFeed : dialect.isQuote '\n' = false)
    (moved : Int → Int) (missing : measure dialect start onward = .error failure) :
    measure dialect (moved start) onward.withReturns = .error (failure.relocate moved) := by
  cases onward with
  | nil =>
      cases missing
      rfl
  | cons char rest =>
      by_cases feed : char = '\n'
      · subst feed
        rw [measure_of_not_isQuote noFeed] at missing
        cases missing
        exact measure_of_not_isQuote noReturn _
      · have shape : Text.withReturns (char :: rest) = char :: Text.withReturns rest := by
          simp [Text.withReturns, feed]
        rw [shape]
        cases isQuote : dialect.isQuote char with
        | false =>
            rw [measure_of_not_isQuote isQuote] at missing
            cases missing
            exact measure_of_not_isQuote isQuote _
        | true =>
            have notReturn : char ≠ '\r' := by
              rintro rfl
              rw [noReturn] at isQuote
              cases isQuote
            have run := leadingRun_withReturns notReturn feed (char :: rest)
            have notOther : ¬ dialect.isQuote char = false := by simp [isQuote]
            rw [shape] at run
            rw [measure, if_neg notOther] at missing ⊢
            rw [run]
            split at missing
            · next short =>
                cases missing
                rw [if_pos short]
                rfl
            · cases missing

namespace MarkerAt

variable {quote : Char} {length : Nat} {rest : Text}

theorem unbroken_replicate (marker : MarkerAt dialect text offset quote length rest)
    (noFeed : '\n' ∉ dialect.quotes) : '\n' ∉ List.replicate length quote := by
  intro member
  exact marker.quote_ne noFeed (List.eq_of_mem_replicate member).symm

/-- A marker stands at the place that corresponds. -/
theorem withReturns (marker : MarkerAt dialect text offset quote length rest)
    (noReturn : '\r' ∉ dialect.quotes) (noFeed : '\n' ∉ dialect.quotes) :
    MarkerAt dialect text.withReturns (offset + (text.take offset).count '\n') quote length
      rest.withReturns where
  isQuote := marker.isQuote
  longEnough := marker.longEnough
  shape := by
    rw [Text.drop_withReturns, marker.shape, Text.withReturns_append,
      Text.withReturns_of_unbroken (marker.unbroken_replicate noFeed)]
  boundary := Text.head?_withReturns_ne (marker.quote_ne noReturn) marker.boundary

theorem bareLineFeeds_rest (marker : MarkerAt dialect text offset quote length rest)
    (bare : text.BareLineFeeds) : rest.BareLineFeeds :=
  marker.drop_eq_rest ▸ bare.drop (offset + length)

end MarkerAt

theorem StrayAt.withReturns {position : Int} (stray : StrayAt dialect text offset position)
    (noReturn : '\r' ∉ dialect.quotes) (noFeed : '\n' ∉ dialect.quotes)
    (bare : text.BareLineFeeds) :
    StrayAt dialect text.withReturns (offset + (text.take offset).count '\n')
      (text.placeWithReturns position) := by
  obtain ⟨quote, length, rest, index, marker, first, rfl⟩ := stray
  have judged := Text.withoutFinalReturn_firstLine_withReturns (marker.bareLineFeeds_rest bare)
  have inside : index ≤ rest.firstLine.length :=
    Nat.le_trans (Nat.le_of_lt first.lt_length) (Text.withoutFinalReturn_prefix _).length_le
  -- The marker and what stands before the stray character are on one line.
  have stands : text.drop offset =
      (List.replicate length quote ++ rest.firstLine.take index) ++
        (rest.firstLine.drop index ++ rest.dropWhile (· ≠ '\n')) := by
    rw [marker.shape, List.append_assoc, ← List.append_assoc (List.take _ _),
      List.take_append_drop, Text.firstLine_append_dropWhile]
  have unbroken : '\n' ∉ List.replicate length quote ++ rest.firstLine.take index := by
    intro member
    rcases List.mem_append.mp member with inMarker | onLine
    · exact marker.unbroken_replicate noFeed inMarker
    · exact Text.lineFeed_not_mem_firstLine rest (List.mem_of_mem_take onLine)
  have moved := Text.placeWithReturns_add stands unbroken
  rw [List.length_append, List.length_replicate, List.length_take, Nat.min_eq_left inside,
    Text.placeWithReturns_natCast text offset, Int.natCast_add, ← Int.add_assoc] at moved
  refine ⟨quote, length, rest.withReturns, index, marker.withReturns noReturn noFeed,
    judged ▸ first, ?_⟩
  omega

theorem UnclosedAt.withReturns (unclosed : UnclosedAt dialect text offset)
    (noReturn : '\r' ∉ dialect.quotes) (noFeed : '\n' ∉ dialect.quotes)
    (bare : text.BareLineFeeds) :
    UnclosedAt dialect text.withReturns (offset + (text.take offset).count '\n') := by
  obtain ⟨quote, length, rest, opening, later, marker, lines, blank, stays⟩ := unclosed
  have judged := Text.withoutFinalReturn_firstLine_withReturns (marker.bareLineFeeds_rest bare)
  obtain ⟨returnedOpening, returnedLater, returnedLines, onward⟩ :=
    rest.exists_splitOn_withReturns lines
  rw [Text.firstLine_eq_of_splitOn_eq_cons lines,
    Text.firstLine_eq_of_splitOn_eq_cons returnedLines] at judged
  refine ⟨quote, length, rest.withReturns, returnedOpening, returnedLater,
    marker.withReturns noReturn noFeed, returnedLines, judged ▸ blank, ?_⟩
  intro line member closes
  rcases onward line member with same | ⟨original, among, rfl⟩
  · exact stays line same closes
  · exact stays original among ((closes_append_return_iff (marker.quote_ne noReturn)).mp closes)

end Verdicts

namespace Layout

variable {dialect : Dialect} (layout : Layout dialect) {text front following : Text}

/-- None of the line feeds of a layout stands behind a carriage return. -/
structure Bare : Prop where
  opening : layout.opening.getLast? ≠ some '\r'
  content : ∀ raw ∈ layout.content, raw.getLast? ≠ some '\r'

/-- In a text without carriage returns in front of line feeds there are none in a layout. -/
theorem bare_of_text (bare : text.BareLineFeeds)
    (shape : text = front ++ layout.characters ++ following) : layout.Bare where
  opening := by
    have around : text = (front ++ layout.marker) ++ layout.opening ++
        '\n' :: (layout.body ++ following) := by
      simp [shape, characters]
    exact bare.getLast?_ne around
  content := by
    intro raw member
    obtain ⟨before, after, content⟩ := List.append_of_mem member
    have around : text = (front ++ layout.openingLine ++ Text.terminated before) ++ raw ++
        '\n' :: (Text.terminated after ++ layout.indentation ++ layout.marker ++ following) := by
      rw [shape, layout.characters_of_content content]
      simp
    exact bare.getLast?_ne around

/-- The layout with a carriage return at the end of each line but the closing one. -/
def withReturns (notReturn : layout.quote ≠ '\r') (bare : layout.Bare) : Layout dialect :=
  { layout with
    opening := layout.opening ++ ['\r']
    content := layout.content.map (· ++ ['\r'])
    openingBlank := by
      have blank := layout.openingBlank
      rwa [Text.withoutFinalReturn_of_getLast?_ne bare.opening,
        ← Text.withoutFinalReturn_append_return layout.opening] at blank
    openingApart := by
      have apart := layout.openingApart
      cases opening : layout.opening with
      | nil => simpa using Ne.symm notReturn
      | cons char rest => simpa [opening] using apart
    contentUnbroken := by
      rw [List.forall_mem_map]
      intro raw member
      simpa using layout.contentUnbroken raw member
    contentStays := by
      rw [List.forall_mem_map]
      intro raw member closes
      exact layout.contentStays raw member ((closes_append_return_iff notReturn).mp closes) }

theorem withReturns_openingLine : layout.openingLine.withReturns =
    layout.marker ++ layout.opening ++ ['\r', '\n'] := by
  have unbroken : '\n' ∉ layout.marker ++ layout.opening := by
    intro member
    rcases List.mem_append.mp member with quote | opening
    · exact layout.quoteNotLineFeed (List.eq_of_mem_replicate quote).symm
    · exact layout.openingUnbroken opening
  rw [openingLine, Text.withReturns_append, Text.withReturns_of_unbroken unbroken]
  rfl

variable (notReturn : layout.quote ≠ '\r') (bare : layout.Bare)

/-- Carriage returns in front of its line feeds make one layout of the other. -/
theorem characters_withReturns :
    (layout.withReturns notReturn bare).characters = layout.characters.withReturns := by
  have parts : layout.characters = layout.openingLine ++ Text.terminated layout.content ++
      (layout.indentation ++ layout.marker) := by
    simp [characters, openingLine, body]
  rw [parts, Text.withReturns_append, Text.withReturns_append, withReturns_openingLine,
    Text.withReturns_terminated layout.contentUnbroken,
    Text.withReturns_of_unbroken layout.closingLine_unbroken]
  simp [characters, body, withReturns, marker]

/-- The lines of the layout are captured as those that correspond. -/
theorem placed_withReturns (shape : text = front ++ layout.characters ++ following) :
    Line.placed ((layout.withReturns notReturn bare).contentStart
        (text.placeWithReturns front.length)) (layout.content.map (· ++ ['\r'])) =
      (Line.placed (layout.contentStart front.length) layout.content).map
        (Line.withReturn text.placeWithReturns) := by
  have start : text.placeWithReturns front.length = front.withReturns.length :=
    Text.placeWithReturns_of_eq_append (shape.trans (List.append_assoc _ _ _))
  refine @Line.placed_map _ _ text.placeWithReturns _ _ _ ?_ ?_
  · intro before after content
    have unbroken : ∀ line ∈ before, '\n' ∉ line := fun line member =>
      layout.contentUnbroken line (by simp [content, member])
    rw [layout.characters_of_content content] at shape
    rw [← length_before_line, Text.placeWithReturns_of_eq_append shape, start,
      Text.withReturns_append, Text.withReturns_append, withReturns_openingLine,
      Text.withReturns_terminated unbroken]
    simp [contentStart, withReturns, marker]
    omega
  · intro raw member place
    have rawBare := bare.content raw member
    rw [Line.ofTerminated_eq, Line.ofTerminated_eq, if_neg rawBare,
      Text.withoutFinalReturn_of_getLast?_ne rawBare, Text.withoutFinalReturn_append_return]
    simp [Line.withReturn, Terminator.withReturn]

/-- A layout that has got carriage returns is captured as the block that corresponds. -/
theorem block_withReturns (shape : text = front ++ layout.characters ++ following) :
    (layout.withReturns notReturn bare).block (text.placeWithReturns front.length) =
      (layout.block front.length).withReturns text.placeWithReturns := by
  have finish : text.placeWithReturns front.length +
      (layout.withReturns notReturn bare).characters.length =
        text.placeWithReturns ((front.length : Int) + layout.characters.length) := by
    have start : text.placeWithReturns front.length = front.withReturns.length :=
      Text.placeWithReturns_of_eq_append (shape.trans (List.append_assoc _ _ _))
    rw [← Int.natCast_add front.length, ← List.length_append,
      Text.placeWithReturns_of_eq_append shape, start, characters_withReturns,
      Text.withReturns_append, List.length_append, Int.natCast_add]
  have trailing : (layout.opening ++ ['\r']).withoutFinalReturn =
      layout.opening.withoutFinalReturn := by
    rw [Text.withoutFinalReturn_append_return, Text.withoutFinalReturn_of_getLast?_ne bare.opening]
  rw [Block.withReturns, block, Block.mk.injEq]
  exact ⟨rfl, trailing, layout.placed_withReturns notReturn bare shape, rfl, rfl, rfl, finish⟩

end Layout

section Reading

variable {dialect : Dialect} {text : Text} {offset : Nat}

/-- Scanning at the place that corresponds finds the block that corresponds, or fails in the
same way. -/
theorem scan_withReturns (noReturn : '\r' ∉ dialect.quotes) (noFeed : '\n' ∉ dialect.quotes)
    (bare : text.BareLineFeeds) :
    scan dialect text.withReturns (text.placeWithReturns offset) =
      ((scan dialect text offset).map (Block.withReturns text.placeWithReturns)).mapError
        (Failure.relocate text.placeWithReturns) := by
  have place := text.placeWithReturns_natCast offset
  rcases scan_verdicts dialect text offset with
    ⟨lacks, _⟩ | ⟨position, stray, scanned⟩ | ⟨unclosed, scanned⟩ | standing
  · obtain ⟨failure, missing⟩ : ∃ failure, Opening.find dialect text offset = .error failure := by
      rcases find_of_lacksMarker lacks with missing | ⟨found, short⟩
      · exact ⟨_, missing⟩
      · exact ⟨_, short⟩
    rw [scan_eq_error_of_find_eq_error missing]
    apply scan_eq_error_of_find_eq_error
    rw [Opening.find_natCast] at missing
    have moved := Opening.measure_withReturns (Dialect.isQuote_of_not_mem noReturn)
      (Dialect.isQuote_of_not_mem noFeed) text.placeWithReturns missing
    rwa [place, Opening.find_natCast, Text.drop_withReturns, ← place]
  · rw [scanned, place, scan_eq_stray_iff.mpr (stray.withReturns noReturn noFeed bare)]
    rfl
  · have whole : text.placeWithReturns text.length = text.withReturns.length :=
      Text.placeWithReturns_of_eq_append (List.append_nil text).symm
    rw [scanned, place, scan_eq_unterminated_iff.mpr
      ⟨unclosed.withReturns noReturn noFeed bare, place, whole⟩]
    rfl
  · obtain ⟨layout, following, shape, boundary, scanned⟩ := standing
    have notReturn := (layout.markerAt shape).quote_ne noReturn
    obtain ⟨front, rfl, whole⟩ := layout.exists_front shape
    have layoutBare := layout.bare_of_text bare whole
    have moved : text.withReturns.drop (front.length + (text.take front.length).count '\n') =
        (layout.withReturns notReturn layoutBare).characters ++ following.withReturns := by
      rw [Text.drop_withReturns, shape, Text.withReturns_append, layout.characters_withReturns]
    rw [scanned, place, (layout.withReturns notReturn layoutBare).scan_eq_ok moved
      (Text.head?_withReturns_ne notReturn boundary), ← place,
      layout.block_withReturns notReturn layoutBare whole]
    rfl

/-- The lines of a scanned block are those whose value is known to correspond. -/
theorem Block.value_withReturns_of_scan {block : Block}
    (scanned : scan dialect text offset = .ok block) (bare : text.BareLineFeeds) :
    (block.withReturns text.placeWithReturns).value =
      (block.value.map Text.withReturns).mapError (Failure.relocate text.placeWithReturns) := by
  have unbroken : ∀ line ∈ block.lines, '\n' ∉ line.text := fun line member =>
    (unbroken_and_ended_of_scan_eq_ok scanned line member).1
  obtain ⟨layout, following, shape, _, rfl⟩ := scan_eq_ok_iff.mp scanned
  apply Block.value_withReturns unbroken
  · obtain ⟨front, _, whole⟩ := layout.exists_front shape
    intro line member
    obtain ⟨index, found⟩ := List.getElem?_of_mem member
    obtain ⟨before, raw, after, content, _, rfl⟩ := Line.exists_of_getElem?_placed found
    rw [Line.terminator_ofTerminated, if_neg]
    exact (layout.bare_of_text bare whole).content raw (by simp [content])
  · intro line member agreed inside
    obtain ⟨place, rest, offset, _, stands⟩ := layout.exists_drop_eq_of_mem_lines shape member
    have within : text.drop place = line.text.take agreed ++
        (line.text.drop agreed ++ line.terminator.characters ++ rest) := by
      rw [stands, Line.characters, ← List.append_assoc, ← List.append_assoc,
        List.take_append_drop]
    have moved := Text.placeWithReturns_add within fun among =>
      unbroken line member (List.mem_of_mem_take among)
    rwa [List.length_take, Nat.min_eq_left inside, ← offset] at moved

theorem readLiteral_withReturns (noReturn : '\r' ∉ dialect.quotes)
    (noFeed : '\n' ∉ dialect.quotes) (bare : text.BareLineFeeds) :
    readLiteral dialect text.withReturns (text.placeWithReturns offset) =
      ((readLiteral dialect text offset).map (Literal.withReturns text.placeWithReturns)).mapError
        (Failure.relocate text.placeWithReturns) := by
  have moved := @scan_withReturns dialect text offset noReturn noFeed bare
  cases scanned : scan dialect text offset with
  | error failure =>
      rw [scanned] at moved
      rw [readLiteral_eq_error_of_scan scanned, readLiteral_eq_error_of_scan moved]
      rfl
  | ok block =>
      rw [scanned] at moved
      have valuedAlike := Block.value_withReturns_of_scan scanned bare
      cases valued : block.value with
      | error failure =>
          rw [valued] at valuedAlike
          rw [readLiteral_eq_error_of_value scanned valued,
            readLiteral_eq_error_of_value moved valuedAlike]
          rfl
      | ok value =>
          rw [valued] at valuedAlike
          rw [readLiteral_eq_ok scanned valued, readLiteral_eq_ok moved valuedAlike]
          rfl

end Reading

/-- A text with a carriage return in front of each line feed is read as the text without
them is: to the literal that corresponds, or to the failure that does. -/
theorem read_withReturns {reader : Reader} {text : Text} (offset : Nat)
    (noReturn : '\r' ∉ reader.dialect.quotes) (noFeed : '\n' ∉ reader.dialect.quotes)
    (bare : text.BareLineFeeds) (accepts : reader.listener.AcceptsIssues)
    (quiet : ∀ observer ∈ reader.observers, observer.ReturnsNormally) :
    (reader.read text.withReturns (text.placeWithReturns offset)).2 =
      ((reader.read text offset).2.map (Literal.withReturns text.placeWithReturns)).mapError
        (Failure.relocate text.placeWithReturns) := by
  rw [Reader.read_eq_readLiteral accepts quiet, Reader.read_eq_readLiteral accepts quiet]
  exact readLiteral_withReturns noReturn noFeed bare

/-- A carriage return inside a line stays as it is, and a line that is too short is
misindented at its new carriage return. -/
theorem read_withReturns_return_inside_and_short_line :
    let text : Text := ['\n', '"', '"', '"', ' ', '\n', ' ', 'a', '\r', 'b', '\n', '\n', ' ',
      'c', '\n', ' ', '"', '"', '"']
    let short : Text := ['"', '"', '"', '\n', ' ', '\n', ' ', '\t', '"', '"', '"']
    let reader : Reader := ⟨.standard, [], .strict⟩
    let moved : Literal :=
      { value := ['a', '\r', 'b', '\r', '\n', '\r', '\n', 'c']
        block :=
          { markerLength := 3
            trailing := [' ']
            lines := [⟨[' ', 'a', '\r', 'b'], .carriageReturnLineFeed, 8⟩,
              ⟨[], .carriageReturnLineFeed, 14⟩, ⟨[' ', 'c'], .carriageReturnLineFeed, 16⟩]
            indentation := [' ']
            quote := '"'
            start := 2
            finish := 24 } }
    text.BareLineFeeds ∧ short.BareLineFeeds ∧
      '\r' ∉ reader.dialect.quotes ∧ '\n' ∉ reader.dialect.quotes ∧
      (reader.read text.withReturns 2).2 = .ok moved ∧
      (reader.read short 0).2 = .error (.malformed (.misindented 0 5)) ∧
      (reader.read short.withReturns 0).2 = .error (.malformed (.misindented 0 6)) ∧
      short.withReturns.charAt? 6 = some '\r' := by
  intro text short reader moved
  have noReturn : '\r' ∉ reader.dialect.quotes := by decide
  have noFeed : '\n' ∉ reader.dialect.quotes := by decide
  have bare : text.BareLineFeeds := by decide +kernel
  have shortBare : short.BareLineFeeds := by decide +kernel
  have accepts : reader.listener.AcceptsIssues := Listener.acceptsIssues_strict
  have quiet : ∀ observer ∈ reader.observers, observer.ReturnsNormally := List.forall_mem_nil _
  have rejected : (reader.read short (0 : Nat)).2 = .error (.malformed (.misindented 0 5)) := by
    decide +kernel
  have read := read_withReturns 1 noReturn noFeed bare accepts quiet
  have shortRead := read_withReturns 0 noReturn noFeed shortBare accepts quiet
  rw [rejected] at shortRead
  refine ⟨bare, shortBare, noReturn, noFeed, ?_, rejected, ?_, by decide +kernel⟩
  · exact read.trans (by decide +kernel)
  · exact shortRead.trans (by decide +kernel)

end Verbatim
