import Verbatim.Proofs.Grammar
import Verbatim.Proofs.FirstMarker
import Verbatim.Proofs.SearchPattern

/-!
# The search pattern for markers

Markers may be found by a search pattern: one of the quote characters, and then the same
character at least twice more, as often as possible.  However special the quotes are in the
notation of patterns, the written pattern is read as that (`parse?_markerNotation`), and
its matches are the markers that counting runs finds (`spansFrom_markerPattern`).

`IsMarker` says which stretches these are: maximal runs of three or more copies of a quote.
A marker can also be measured from any of its characters that has two more behind it, and
from nowhere else.
-/

namespace Verbatim

/-- The pattern for markers as it is written. -/
def markerNotation (quotes : Text) : Text :=
  ['(', '['] ++ (Pattern.escape quotes ++
    ([']', ')', '\\', '1', '\x7b'] ++ Numeral.decimal (minimumMarkerLength - 1) ++ [',', '\x7d']))

/-- One of the quotes, and the same one again at least twice. -/
def markerPattern (quotes : Text) : Pattern :=
  .sequence (.group (.set ⟨false, quotes.map fun quote => (quote, quote)⟩))
    (.atLeast (minimumMarkerLength - 1) .reference)

namespace Pattern

section Notation

/-- The token that an escaped character is. -/
def Token.ofMember (char : Char) : Token :=
  if char ∈ specialCharacters then .escaped char else .plain char

theorem Token.ofMember_ne_plain {special char : Char} (isSpecial : special ∈ specialCharacters) :
    Token.ofMember char ≠ .plain special := by
  unfold Token.ofMember
  split
  · exact fun same => Token.noConfusion same
  · next ordinary =>
      intro same
      cases same
      exact ordinary isSpecial

theorem Token.member?_ofMember (char : Char) : (Token.ofMember char).member? = some char := by
  have apart : specialCharacters.all (fun special => !special.isAlphanum) = true := by decide
  unfold Token.ofMember
  split
  · next special =>
      have noLetter := List.all_eq_true.mp apart char special
      rw [Bool.not_eq_true'] at noLetter
      simp [Token.member?, noLetter]
  · rfl

theorem tokens?_escape_append (text rest : Text) :
    tokens? (escape text ++ rest) = (tokens? rest).map (text.map Token.ofMember ++ ·) := by
  induction text with
  | nil => simp [escape]
  | cons char later induction =>
      have shape : escape (char :: later) ++ rest =
          (if char ∈ specialCharacters then ['\\', char] else [char]) ++
            (escape later ++ rest) := by
        simp [escape]
      rw [shape]
      by_cases special : char ∈ specialCharacters
      · simp only [if_pos special, List.cons_append, List.nil_append, tokens?_escaped,
          induction, List.map_cons, Token.ofMember, Option.map_map, Function.comp_def]
      · have ordinary : char ≠ '\\' := by
          rintro rfl
          exact special (by decide)
        simp only [if_neg special, List.cons_append, List.nil_append, tokens?_plain ordinary,
          induction, List.map_cons, Token.ofMember, Option.map_map, Function.comp_def]

/-- Among the members of a set nothing ends it, and nothing joins two of them into a
stretch. -/
theorem stretches?_members (first : Bool) {text : Text} (present : first = false ∨ text ≠ [])
    (rest : List Token) :
    stretches? first (text.map Token.ofMember ++ .plain ']' :: rest) =
      some (text.map fun char => (char, char), rest) := by
  induction text generalizing first with
  | nil =>
      obtain rfl : first = false := present.resolve_right fun absurd => absurd rfl
      exact stretches?_close rest
  | cons char later induction =>
      have opened : Token.ofMember char ≠ .plain ']' := Token.ofMember_ne_plain (by decide)
      have member := Token.member?_ofMember char
      have onward := induction false (.inl rfl)
      cases later with
      | nil =>
          have apart : Token.plain ']' ≠ .plain '-' := by decide
          exact (stretches?_single opened member apart).trans (by rw [stretches?_close]; rfl)
      | cons next others =>
          have apart : Token.ofMember next ≠ .plain '-' := Token.ofMember_ne_plain (by decide)
          exact (stretches?_single opened member apart).trans (congrArg _ onward)

/-- However special the quotes are in the notation, the written pattern is read as the
pattern for markers. -/
theorem parse?_markerNotation {quotes : Text} (present : quotes ≠ []) :
    parse? (markerNotation quotes) = some (markerPattern quotes) := by
  have tokens : tokens? (markerNotation quotes) =
      some (.plain '(' :: .plain '[' :: (quotes.map Token.ofMember ++
        [.plain ']', .plain ')', .escaped '1', .plain '\x7b', .plain '2', .plain ',',
          .plain '\x7d'])) := by
    have behind : tokens? ([']', ')', '\\', '1', '\x7b'] ++
        Numeral.decimal (minimumMarkerLength - 1) ++ [',', '\x7d']) =
          some [.plain ']', .plain ')', .escaped '1', .plain '\x7b', .plain '2', .plain ',',
            .plain '\x7d'] := by
      decide
    unfold markerNotation
    rw [List.cons_append, List.cons_append, List.nil_append, tokens?_plain (by decide),
      tokens?_plain (by decide), tokens?_escape_append, behind]
    rfl
  have members : set? (quotes.map Token.ofMember ++
      [.plain ']', .plain ')', .escaped '1', .plain '\x7b', .plain '2', .plain ',',
        .plain '\x7d']) =
        some (⟨false, quotes.map fun quote => (quote, quote)⟩,
          [.plain ')', .escaped '1', .plain '\x7b', .plain '2', .plain ',', .plain '\x7d']) := by
    obtain ⟨quote, others, rfl⟩ := List.exists_cons_of_ne_nil present
    have apart : Token.ofMember quote ≠ .plain '^' := Token.ofMember_ne_plain (by decide)
    have found := stretches?_members true (.inr present)
      [.plain ')', .escaped '1', .plain '\x7b', .plain '2', .plain ',', .plain '\x7d']
    rw [List.map_cons, List.cons_append] at found ⊢
    rw [set?_of_ne_caret apart, found]
    rfl
  unfold parse?
  rw [tokens]
  simp only [bind, Option.bind, members]
  rfl

end Notation

section Matching

theorem holds_singletons (members : Text) (char : Char) :
    (⟨false, members.map fun member => (member, member)⟩ : CharacterSet).holds char =
      members.contains char := by
  rw [Bool.eq_iff_iff]
  simp only [CharacterSet.holds, Bool.false_bne, List.any_map, List.any_eq_true,
    Function.comp_apply, Bool.and_eq_true, decide_eq_true_eq, List.contains_iff_mem]
  constructor
  · rintro ⟨member, among, low, high⟩
    rwa [Char.le_antisymm high low]
  · intro among
    exact ⟨char, among, Char.le_refl char, Char.le_refl char⟩

variable {quote char : Char}

theorem leadingRun_cons_self (quote : Char) (rest : Text) :
    leadingRun quote (quote :: rest) = leadingRun quote rest + 1 := by
  simp [leadingRun]

theorem leadingRun_cons_of_ne (different : char ≠ quote) (rest : Text) :
    leadingRun quote (char :: rest) = 0 := by
  simp [leadingRun, different]

theorem ways_reference_cons_self (quote : Char) (rest : Text) :
    ways .reference (some [quote], quote :: rest) = [(some [quote], rest)] := by
  simp [ways]

theorem ways_reference_of_run_eq_zero {text : Text} (none : leadingRun quote text = 0) :
    ways .reference (some [quote], text) = [] := by
  cases text with
  | nil => simp [ways]
  | cons char rest =>
      by_cases same : char = quote
      · subst same
        simp [leadingRun] at none
      · simp [ways, Ne.symm same]

/-- A reference is repeated for as many rounds as there are copies of what was taken. -/
theorem head?_rounds_reference (quote : Char) (text : Text) :
    (rounds (ways .reference) (some [quote], text)).head? =
      some (some [quote], text.drop (leadingRun quote text)) := by
  induction text with
  | nil =>
      rw [rounds, ways_reference_of_run_eq_zero rfl]
      rfl
  | cons char rest induction =>
      rw [rounds]
      by_cases same : char = quote
      · subst same
        simp [ways_reference_cons_self, leadingRun_cons_self, induction]
      · have none := leadingRun_cons_of_ne same rest
        rw [ways_reference_of_run_eq_zero none, none]
        rfl

theorem head?_repeated_reference (quote : Char) (count : Nat) (text : Text) :
    (repeated (ways .reference) count (some [quote], text)).head? =
      if count ≤ leadingRun quote text then
        some (some [quote], text.drop (leadingRun quote text))
      else none := by
  induction count generalizing text with
  | zero => simpa [repeated] using head?_rounds_reference quote text
  | succ count induction =>
      rw [repeated]
      cases text with
      | nil =>
        rw [ways_reference_of_run_eq_zero rfl]
        rfl
      | cons char rest =>
          by_cases same : char = quote
          · subst same
            simp [ways_reference_cons_self, leadingRun_cons_self, induction]
          · have none := leadingRun_cons_of_ne same rest
            simp [ways_reference_of_run_eq_zero none, none]

theorem ways_markerPattern_cons (quotes : Text) (char : Char) (rest : Text) :
    ways (markerPattern quotes) (none, char :: rest) =
      if quotes.contains char then
        repeated (ways .reference) (minimumMarkerLength - 1) (some [char], rest)
      else [] := by
  have taken : ways (.group (.set ⟨false, quotes.map fun quote => (quote, quote)⟩))
      (none, char :: rest) = if quotes.contains char then [(some [char], rest)] else [] := by
    have width : (char :: rest).length - rest.length = 1 := by
      rw [List.length_cons]
      omega
    rw [ways, ways, holds_singletons]
    split
    · rw [List.map_singleton, width]
      rfl
    · rfl
  unfold markerPattern
  rw [ways, taken]
  split
  · rw [List.flatMap_singleton, ways]
  · rfl

/-- At the front of a text the pattern for markers matches the run that stands there, if it
is long enough. -/
theorem length?_markerPattern_cons (quotes : Text) (char : Char) (rest : Text) :
    (markerPattern quotes).length? (char :: rest) =
      if quotes.contains char ∧ minimumMarkerLength ≤ leadingRun char (char :: rest) then
        some (leadingRun char (char :: rest))
      else none := by
  have run := head?_repeated_reference char (minimumMarkerLength - 1) rest
  have enough : minimumMarkerLength - 1 ≤ leadingRun char rest ↔
      minimumMarkerLength ≤ leadingRun char rest + 1 := by
    simp only [minimumMarkerLength]
    omega
  have width : (char :: rest).length - (rest.drop (leadingRun char rest)).length =
      leadingRun char rest + 1 := by
    have within := leadingRun_le_length char rest
    rw [List.length_cons, List.length_drop]
    omega
  simp only [enough] at run
  unfold length?
  rw [leadingRun_cons_self, ways_markerPattern_cons]
  by_cases isQuote : quotes.contains char = true
  · by_cases long : minimumMarkerLength ≤ leadingRun char rest + 1
    · rw [if_pos isQuote, run, if_pos long, if_pos ⟨isQuote, long⟩, Option.map_some, width]
    · rw [if_pos isQuote, run, if_neg long, if_neg fun both => long both.2]
      rfl
  · rw [if_neg isQuote, if_neg fun both => isQuote both.1]
    rfl

theorem length?_markerPattern_nil (quotes : Text) : (markerPattern quotes).length? [] = none := by
  unfold length? markerPattern
  simp [ways]

end Matching

section Searching

/-- The stretch of a text that an opening marker takes up. -/
def extent (opening : Opening) : Nat × Nat :=
  (opening.start.toNat, opening.stop.toNat)

/-- A search for the pattern finds the marker that is found by counting runs. -/
theorem search?_markerPattern (quotes : Text) (offset : Nat) (text : Text) :
    (markerPattern quotes).search? offset text =
      (nextOpening? quotes offset text).map extent := by
  induction text generalizing offset with
  | nil =>
      rw [search?, length?_markerPattern_nil]
      rfl
  | cons char rest induction =>
      rw [search?, nextOpening?, length?_markerPattern_cons]
      by_cases isMarker : quotes.contains char ∧
          minimumMarkerLength ≤ leadingRun char (char :: rest)
      · rw [if_pos isMarker, if_pos isMarker]
        rfl
      · rw [if_neg isMarker, if_neg isMarker]
        exact induction (offset + 1)

theorem spansFrom_markerPattern (quotes text : Text) (offset : Nat) :
    (markerPattern quotes).spansFrom text offset =
      (openingsFrom quotes text offset).map extent := by
  fun_induction openingsFrom quotes text offset with
  | case1 offset none =>
      rw [spansFrom, search?_markerPattern, none]
      rfl
  | case2 offset opening found induction =>
      have bounds := bounds_of_nextOpening?_eq_some found
      simp only [Opening.stop, minimumMarkerLength, List.length_drop] at bounds
      have ahead : offset < opening.stop.toNat ∧ opening.stop.toNat ≤ text.length := by
        simp only [Opening.stop]
        omega
      rw [spansFrom, search?_markerPattern, found]
      simp only [Option.map_some, extent]
      rw [dif_pos ahead, induction]
      rfl

end Searching

end Pattern

/-- A marker takes up a stretch of a text: three or more copies of a quote, with no further
copy on either side. -/
structure IsMarker (quotes text : Text) (quote : Char) (start stop : Nat) : Prop where
  isQuote : quote ∈ quotes
  longEnough : start + minimumMarkerLength ≤ stop
  copies : ∀ position, start ≤ position → position < stop → text[position]? = some quote
  ended : text[stop]? ≠ some quote
  begun : ∀ before, start = before + 1 → text[before]? ≠ some quote

section Markers

variable {quotes text : Text} {quote : Char} {start stop position : Nat}

theorem IsMarker.tripleAt (marker : IsMarker quotes text quote start stop) :
    TripleAt quotes text start := by
  have longEnough := marker.longEnough
  simp only [minimumMarkerLength] at longEnough
  exact ⟨quote, marker.isQuote, marker.copies start (by omega) (by omega),
    marker.copies (start + 1) (by omega) (by omega),
    marker.copies (start + 2) (by omega) (by omega)⟩

/-- What is left of a marker behind some of its characters is a run. -/
theorem IsMarker.runAt (marker : IsMarker quotes text quote start stop)
    (inside : start ≤ position) (ahead : position ≤ stop) :
    RunAt text position quote (stop - position) := by
  refine ⟨?_, ?_⟩
  · intro index within
    exact marker.copies (position + index) (by omega) (by omega)
  · rw [Nat.add_sub_cancel' ahead]
    exact marker.ended

theorem IsMarker.of_runAt {length : Nat} (isQuote : quote ∈ quotes)
    (longEnough : minimumMarkerLength ≤ length) (run : RunAt text start quote length)
    (begun : ∀ before, start = before + 1 → text[before]? ≠ some quote) :
    IsMarker quotes text quote start (start + length) where
  isQuote := isQuote
  longEnough := Nat.add_le_add_left longEnough start
  copies := by
    intro position inside before
    have copy := run.1 (position - start) (by omega)
    rwa [Nat.add_sub_cancel' inside] at copy
  ended := run.2
  begun := begun

theorem RunAt.runBreak {length : Nat} (run : RunAt text start quote length)
    (positive : 0 < length) : RunBreak text (start + length) := by
  intro before place same
  have copy := run.1 (length - 1) (by omega)
  rw [show start + (length - 1) = before by omega, same] at copy
  exact run.2 copy

theorem IsMarker.start_lt_stop (marker : IsMarker quotes text quote start stop) :
    start < stop :=
  Nat.lt_of_lt_of_le (Nat.lt_add_of_pos_right (by decide)) marker.longEnough

/-- A marker overlaps no run of a character but its own, and of its own none but itself. -/
theorem IsMarker.eq_of_runAt {other : Char} {origin length : Nat}
    (marker : IsMarker quotes text quote start stop) (run : RunAt text origin other length)
    (inside : origin ≤ start) (before : start < origin + length) :
    quote = other ∧ start = origin ∧ stop = origin + length := by
  have here := marker.copies start (Nat.le_refl _) marker.start_lt_stop
  have there := run.1 (start - origin) (by omega)
  rw [Nat.add_sub_cancel' inside, here] at there
  obtain rfl : quote = other := Option.some.inj there
  obtain rfl : start = origin := by
    by_contra apart
    have copy := run.1 (start - 1 - origin) (by omega)
    rw [show origin + (start - 1 - origin) = start - 1 by omega] at copy
    exact marker.begun (start - 1) (by omega) copy
  have whole := runAt_iff_leadingRun_eq.mp
    (marker.runAt (Nat.le_refl start) (Nat.le_of_lt marker.start_lt_stop))
  rw [runAt_iff_leadingRun_eq.mp run] at whole
  have ahead := marker.start_lt_stop
  exact ⟨rfl, rfl, by omega⟩

/-- From a break on, the markers that a search finds one after another are all there
are. -/
theorem mem_extents_openingsFrom_iff {offset : Nat} (broken : RunBreak text offset)
    (start stop : Nat) :
    (start, stop) ∈ (openingsFrom quotes text offset).map Pattern.extent ↔
      offset ≤ start ∧ ∃ quote, IsMarker quotes text quote start stop := by
  fun_induction openingsFrom quotes text offset with
  | case1 offset none =>
      have free := not_tripleAt_of_nextOpening?_drop_eq_none none
      constructor
      · intro member
        cases member
      · rintro ⟨behind, quote, marker⟩
        exact absurd marker.tripleAt (free start behind)
  | case2 offset opening found induction =>
      obtain ⟨first, place, ahead, isQuote, longEnough, run, free⟩ :=
        exists_of_nextOpening?_drop_eq_some found
      have positive := positive_of_longEnough longEnough
      have begun : ∀ before, first = before + 1 → text[before]? ≠ some opening.quote := by
        obtain ⟨other, _, length, long, otherRun, apart⟩ :=
          WholeMarkerAt.of_runBreak broken ahead free isQuote longEnough run
        have same := (run.1 0 positive).symm.trans (otherRun.1 0 (positive_of_longEnough long))
        rwa [Option.some.inj same]
      have marker := IsMarker.of_runAt isQuote longEnough run begun
      have extent : Pattern.extent opening = (first, first + opening.length) := by
        simp only [Pattern.extent, Opening.stop, place, Prod.mk.injEq]
        omega
      have stops : opening.stop.toNat = first + opening.length := congrArg Prod.snd extent
      rw [stops] at induction
      rw [List.map_cons, List.mem_cons, stops, extent, induction (run.runBreak positive)]
      constructor
      · rintro (here | ⟨behind, later⟩)
        · cases here
          exact ⟨ahead, _, marker⟩
        · exact ⟨by omega, later⟩
      · rintro ⟨behind, quote, other⟩
        by_cases within : start < first + opening.length
        · have reached : first ≤ start := by
            by_contra earlier
            exact free start behind (by omega) other.tripleAt
          obtain ⟨_, rfl, rfl⟩ := other.eq_of_runAt run reached within
          exact .inl rfl
        · exact .inr ⟨by omega, quote, other⟩

theorem openingsFrom_bounds {offset : Nat} :
    ∀ extent ∈ (openingsFrom quotes text offset).map Pattern.extent, offset ≤ extent.1 := by
  fun_induction openingsFrom quotes text offset with
  | case1 offset none => exact List.forall_mem_nil _
  | case2 offset opening found induction =>
      obtain ⟨start, place, ahead, _⟩ := exists_of_nextOpening?_drop_eq_some found
      have here : (Pattern.extent opening).1 = start := by
        simp only [Pattern.extent, place, Int.toNat_natCast]
      have onward : offset ≤ opening.stop.toNat := by
        simp only [Opening.stop]
        omega
      rw [List.map_cons]
      refine List.forall_mem_cons.mpr ⟨by omega, ?_⟩
      intro extent member
      exact Nat.le_trans onward (induction extent member)

/-- No marker begins before the one found before it has ended. -/
theorem pairwise_extents_openingsFrom (quotes text : Text) (offset : Nat) :
    ((openingsFrom quotes text offset).map Pattern.extent).Pairwise
      fun earlier later => earlier.2 ≤ later.1 := by
  fun_induction openingsFrom quotes text offset with
  | case1 offset none => exact List.Pairwise.nil
  | case2 offset opening found induction =>
      rw [List.map_cons]
      exact List.Pairwise.cons openingsFrom_bounds induction

end Markers

section Measuring

variable {dialect : Dialect} {text : Text} {quote : Char} {start stop position : Nat}

/-- A character belongs to copies of it that none precedes. -/
theorem exists_first_copy (here : text[position]? = some quote) :
    ∃ start ≤ position, (∀ place, start ≤ place → place ≤ position → text[place]? = some quote) ∧
      ∀ before, start = before + 1 → text[before]? ≠ some quote := by
  induction position with
  | zero =>
      refine ⟨0, Nat.le_refl 0, ?_, ?_⟩
      · intro place _ upTo
        obtain rfl := Nat.le_zero.mp upTo
        exact here
      · intro before impossible
        cases impossible
  | succ position induction =>
      by_cases more : text[position]? = some quote
      · obtain ⟨start, upTo, copies, begun⟩ := induction more
        refine ⟨start, Nat.le_succ_of_le upTo, ?_, begun⟩
        intro place inside before
        rcases Nat.le_succ_iff.mp before with earlier | rfl
        · exact copies place inside earlier
        · exact here
      · refine ⟨position + 1, Nat.le_refl _, ?_, ?_⟩
        · intro place inside before
          obtain rfl := Nat.le_antisymm before inside
          exact here
        · rintro before same
          obtain rfl := Nat.succ.inj same
          exact more

/-- Where a marker is measured there is one, which may begin further ahead. -/
theorem MarkerAt.exists_isMarker {length : Nat} {rest : Text}
    (marker : MarkerAt dialect text position quote length rest) :
    ∃ start ≤ position, IsMarker dialect.quotes text quote start (position + length) := by
  have run : RunAt text position quote length :=
    runAt_iff_drop_eq.mpr ⟨rest, marker.shape, marker.boundary⟩
  obtain ⟨start, upTo, copies, begun⟩ := exists_first_copy (run.1 0 marker.positive_length)
  refine ⟨start, upTo, ?_⟩
  constructor
  case isQuote => simpa [Dialect.isQuote] using marker.isQuote
  case longEnough => exact Nat.add_le_add upTo marker.longEnough
  case copies =>
    intro place inside before
    rcases Nat.lt_or_ge place position with ahead | behind
    · exact copies place inside (Nat.le_of_lt ahead)
    · have copy := run.1 (place - position) (by omega)
      rwa [Nat.add_sub_cancel' behind] at copy
  case ended => exact run.2
  case begun => exact begun

/-- A marker is measured from any of its characters that has two more behind it. -/
theorem IsMarker.exists_start_eq_ok (marker : IsMarker dialect.quotes text quote start stop)
    (inside : start ≤ position) (enough : position + minimumMarkerLength ≤ stop) :
    ∃ scanner, Scanner.start dialect text position = .ok scanner ∧
      scanner.opening = ⟨quote, stop - position, position⟩ := by
  have ahead : position ≤ stop := Nat.le_trans (Nat.le_add_right _ _) enough
  have here := markerAt_of_runAt marker.isQuote (marker.runAt inside ahead)
    (Nat.le_sub_of_add_le' enough)
  exact ⟨_, here.start_eq_ok, rfl⟩

theorem exists_start_eq_ok_iff :
    (∃ scanner, Scanner.start dialect text position = .ok scanner) ↔
      ∃ quote start stop, IsMarker dialect.quotes text quote start stop ∧ start ≤ position ∧
        position + minimumMarkerLength ≤ stop := by
  constructor
  · rintro ⟨scanner, started⟩
    rcases lacksMarker_or_exists_markerAt dialect text position with lacks | found
    · rcases find_of_lacksMarker lacks with missing | ⟨found, missing⟩
      · simp [Scanner.start, missing, Except.map] at started
      · simp [Scanner.start, missing, Except.map] at started
    · obtain ⟨quote, length, rest, marker⟩ := found
      obtain ⟨start, upTo, isMarker⟩ := marker.exists_isMarker
      exact ⟨quote, start, _, isMarker, upTo, Nat.add_le_add_left marker.longEnough position⟩
  · rintro ⟨quote, start, stop, marker, inside, enough⟩
    obtain ⟨scanner, started, _⟩ := marker.exists_start_eq_ok inside enough
    exact ⟨scanner, started⟩

end Measuring

/-- Searching and measuring agree.  The written pattern is read as one whose successive
matches are the markers of a text, in order: all stretches of three or more copies of a
quote that can be extended on neither side.  A scanner starts exactly where three or more
characters of a marker are left, and then measures what is left of it. -/
theorem markers_searched_and_measured (dialect : Dialect) (text : Text) :
    ∃ pattern, Pattern.parse? (markerNotation dialect.quotes) = some pattern ∧
      (∀ offset, pattern.search? offset (text.drop offset) =
        (nextOpening? dialect.quotes offset (text.drop offset)).map Pattern.extent) ∧
      pattern.spans text = (openings dialect.quotes text).map Pattern.extent ∧
      (∀ start stop, (start, stop) ∈ pattern.spans text ↔
        ∃ quote, IsMarker dialect.quotes text quote start stop) ∧
      (pattern.spans text).Pairwise (fun earlier later => earlier.2 ≤ later.1) ∧
      ∀ position : Nat,
        ((∃ scanner, Scanner.start dialect text position = .ok scanner) ↔
          ∃ quote start stop, IsMarker dialect.quotes text quote start stop ∧
            start ≤ position ∧ position + minimumMarkerLength ≤ stop) ∧
        ∀ quote start stop, IsMarker dialect.quotes text quote start stop →
          start ≤ position → position + minimumMarkerLength ≤ stop →
          ∃ scanner, Scanner.start dialect text position = .ok scanner ∧
            scanner.opening = ⟨quote, stop - position, position⟩ := by
  have spans : (markerPattern dialect.quotes).spans text =
      (openings dialect.quotes text).map Pattern.extent :=
    Pattern.spansFrom_markerPattern dialect.quotes text 0
  refine ⟨markerPattern dialect.quotes, Pattern.parse?_markerNotation dialect.quotes_ne_nil,
    ?_, spans, ?_, ?_, ?_⟩
  · intro offset
    exact Pattern.search?_markerPattern dialect.quotes offset (text.drop offset)
  · intro start stop
    have among := @mem_extents_openingsFrom_iff dialect.quotes text 0 (runBreak_zero text)
      start stop
    rw [spans, openings, among]
    exact and_iff_right (Nat.zero_le start)
  · rw [spans]
    exact pairwise_extents_openingsFrom dialect.quotes text 0
  · intro position
    refine ⟨exists_start_eq_ok_iff, ?_⟩
    intro quote start stop marker inside enough
    exact marker.exists_start_eq_ok inside enough

/-- Quotes that are special in the notation of patterns, one of them given twice.  Runs of
different quotes touch, a run of two is no marker, and the last marker is measured from its
second character as well. -/
theorem markers_searched_and_measured_special_quotes :
    let dialect : Dialect := ⟨['^', '-', ']', '\\', '"', '"'], .normal, by decide⟩
    let text := "^^^---]]  ^^^^".toList
    IsMarker dialect.quotes text '^' 10 14 ∧
      ∃ pattern, Pattern.parse? (markerNotation dialect.quotes) = some pattern ∧
        pattern.spans text = [(0, 3), (3, 6), (10, 14)] ∧
        ∃ scanner, Scanner.start dialect text (11 : Nat) = .ok scanner ∧
          scanner.opening = ⟨'^', 3, 11⟩ := by
  intro dialect text
  have marker : IsMarker dialect.quotes text '^' 10 14 := by
    have run : RunAt text 10 '^' 4 := runAt_iff_leadingRun_eq.mpr (by decide)
    refine IsMarker.of_runAt (by decide) (by decide) run ?_
    intro before place
    obtain rfl : before = 9 := by omega
    decide
  have extents : (openings dialect.quotes text).map Pattern.extent =
      [(0, 3), (3, 6), (10, 14)] := by
    decide +kernel
  obtain ⟨pattern, parsed, _, spans, _, _, measured⟩ := markers_searched_and_measured dialect text
  refine ⟨marker, pattern, parsed, spans.trans extents, ?_⟩
  exact (measured 11).2 '^' 10 14 marker (by decide) (by decide)

end Verbatim
