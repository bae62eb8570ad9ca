import Verbatim.Proofs.CaptureSteps

/-!
# A scanner in anyone's hands

A host may drive a scanner as it likes: read the opening line twice, capture lines
before the opening line was read or after the closing one, let it run, skip a malformed
line, and go on after any of these has failed.  `Scanner.Sound` says what holds of a
scanner in spite of all that, `Scanner.Advances` that it never takes back what it has,
and `Scanner.CanReport` what it may complain about.

Every operation keeps to the three, and so does any sequence of them: this is
`Scanner.sound_in_any_order`.
-/

namespace Verbatim

/-- The readings of the rest of an opening line, and what each of them rests on. -/
theorem OpeningLine.read_cases (dialect : Dialect) (text : Text) :
    (∃ index, read dialect text = .stray index ∧
        FirstStray dialect text.firstLine.withoutFinalReturn index) ∨
      read dialect text = .cutOff ∨
      ∃ rest, read dialect text = .complete text.firstLine.withoutFinalReturn rest ∧
        text.afterFirstLine? = some rest ∧
        ∀ char ∈ text.firstLine.withoutFinalReturn, dialect.isWhitespace char = true := by
  rcases blank_or_exists_firstStray dialect text.firstLine.withoutFinalReturn with
    blank | ⟨index, first⟩
  · cases follows : text.afterFirstLine? with
    | none => exact .inr (.inl (read_eq_cutOff_of blank follows))
    | some rest =>
        exact .inr (.inr ⟨rest, read_eq_complete_of blank follows, rfl, blank⟩)
  · obtain ⟨⟨char, place, stray⟩, before⟩ := first
    exact .inl ⟨index, read_eq_stray_of place stray before, ⟨char, place, stray⟩, before⟩

/-- A line stands in a text, with its terminator after it. -/
structure Line.StandsIn (line : Line) (text : Text) : Prop where
  slice_text : text.slice line.offset (line.offset + line.text.length) = line.text
  slice_terminator :
    text.slice (line.offset + line.text.length) line.finish = line.terminator.characters
  unbroken : '\n' ∉ line.text
  terminated : line.terminator = .lineFeed ∨ line.terminator = .carriageReturnLineFeed

theorem Line.standsIn_ofTerminated {text raw rest : Text} {place : Nat}
    (unbroken : '\n' ∉ raw) (shape : text.drop place = raw ++ '\n' :: rest) :
    (ofTerminated place raw).StandsIn text := by
  have whole := characters_ofTerminated place raw
  unfold characters at whole
  have onward : text.drop place = (ofTerminated place raw).text ++
      ((ofTerminated place raw).terminator.characters ++ rest) := by
    rw [← List.append_assoc, whole, shape]
    simp
  constructor
  case slice_text =>
    rw [offset_ofTerminated]
    exact Text.slice_of_drop_eq_append onward
  case slice_terminator =>
    have behind : text.drop (place + (ofTerminated place raw).text.length) =
        (ofTerminated place raw).terminator.characters ++ rest := by
      rw [← List.drop_drop, onward, List.drop_left]
    unfold finish
    rw [offset_ofTerminated, ← Int.natCast_add]
    exact Text.slice_of_drop_eq_append behind
  case unbroken => exact unbroken_ofTerminated unbroken
  case terminated => exact terminated_ofTerminated place raw

namespace Scanner

/-- What holds of a scanner whatever was done with it. -/
structure Sound (scanner : Scanner) : Prop where
  nonneg : 0 ≤ scanner.opening.start
  longEnough : minimumMarkerLength ≤ scanner.opening.length
  past : scanner.opening.stop ≤ scanner.position
  within : scanner.position ≤ scanner.text.length
  standing : ∀ line ∈ scanner.lines, line.StandsIn scanner.text
  enclosed : ∀ line ∈ scanner.lines,
    scanner.opening.stop ≤ line.offset ∧ line.finish ≤ scanner.position
  ordered : scanner.lines.Pairwise fun line later => line.finish ≤ later.offset
  trailingBlank : ∀ char ∈ scanner.trailing, scanner.dialect.isWhitespace char = true
  indentationBlank : ∀ indentation, scanner.indentation? = some indentation →
    ∀ char ∈ indentation, scanner.dialect.isWhitespace char = true
  closed : scanner.phase = .done → scanner.indentation?.isSome = true

/-- A sound scanner that has kept what it had and stands no further back. -/
structure Advances (before after : Scanner) : Prop where
  sound : after.Sound
  dialect : after.dialect = before.dialect
  text : after.text = before.text
  opening : after.opening = before.opening
  position : before.position ≤ after.position
  lines : before.lines <+: after.lines

/-- What a scanner may complain about: a character behind its marker that is not
whitespace, or the end of its text. -/
def CanReport (scanner : Scanner) : Malformation → Prop
  | .strayText position =>
      scanner.opening.start < position ∧ scanner.position ≤ position ∧
        position < scanner.text.length ∧
        ∃ char, scanner.text.charAt? position = some char ∧
          scanner.dialect.isWhitespace char = false
  | .unterminated start finish =>
      start = scanner.opening.start ∧ finish = scanner.text.length
  | .misindented _ _ => False

namespace Advances

theorem refl {scanner : Scanner} (sound : scanner.Sound) : scanner.Advances scanner :=
  ⟨sound, rfl, rfl, rfl, Int.le_refl _, List.prefix_rfl⟩

theorem trans {first second third : Scanner} (before : first.Advances second)
    (after : second.Advances third) : first.Advances third where
  sound := after.sound
  dialect := after.dialect.trans before.dialect
  text := after.text.trans before.text
  opening := after.opening.trans before.opening
  position := Int.le_trans before.position after.position
  lines := before.lines.trans after.lines

/-- A scanner may be put into any phase, and is done only with an indentation. -/
theorem inPhase {before after : Scanner} (advances : before.Advances after) {phase : Phase}
    (closed : phase = .done → after.indentation?.isSome = true) :
    before.Advances { after with phase := phase } where
  sound := { advances.sound with closed }
  dialect := advances.dialect
  text := advances.text
  opening := advances.opening
  position := advances.position
  lines := advances.lines

theorem withTrailing {before after : Scanner} (advances : before.Advances after)
    {trailing : Text} (blank : ∀ char ∈ trailing, after.dialect.isWhitespace char = true) :
    before.Advances { after with trailing := trailing } where
  sound := { advances.sound with trailingBlank := blank }
  dialect := advances.dialect
  text := advances.text
  opening := advances.opening
  position := advances.position
  lines := advances.lines

theorem withIndentation {before after : Scanner} (advances : before.Advances after)
    {indentation : Text}
    (blank : ∀ char ∈ indentation, after.dialect.isWhitespace char = true) :
    before.Advances { after with indentation? := some indentation } where
  sound :=
    { advances.sound with
      indentationBlank := fun _ same => Option.some.inj same ▸ blank
      closed := fun _ => rfl }
  dialect := advances.dialect
  text := advances.text
  opening := advances.opening
  position := advances.position
  lines := advances.lines

end Advances

namespace StandsAt

variable {scanner : Scanner} {place : Nat} {rest : Text}

/-- The character at an index of the line that a scanner looks at. -/
theorem charAt?_eq_some (stands : scanner.StandsAt place rest) {index : Nat} {char : Char}
    (found : rest.firstLine.withoutFinalReturn[index]? = some char) :
    scanner.text.charAt? (place + index : Nat) = some char := by
  obtain ⟨carriageReturn, _, ending⟩ := rest.firstLine.eq_withoutFinalReturn_append
  have shape := rest.firstLine_append_dropWhile
  rw [ending, List.append_assoc] at shape
  have inside := (List.getElem?_eq_some_iff.mp found).1
  rw [Text.charAt?_natCast, ← List.getElem?_drop, stands.remaining, ← shape,
    List.getElem?_append_left inside, found]

theorem readOpeningLine_eq (stands : scanner.StandsAt place rest) :
    scanner.readOpeningLine =
      match OpeningLine.read scanner.dialect rest with
      | .stray index => (.error (.strayText (place + index)), scanner)
      | .cutOff => (.error scanner.unterminated, scanner)
      | .complete trailing later =>
          (.ok .content, { scanner.goTo later with trailing := trailing }) := by
  have reading : OpeningLine.read scanner.dialect (scanner.text.suffix place) =
      OpeningLine.read scanner.dialect rest := by
    rw [← stands.position, stands.suffix_eq]
  cases outcome : OpeningLine.read scanner.dialect rest <;>
    simp only [readOpeningLine, stands.position, reading, outcome]

/-- A closing marker ends inside the text. -/
theorem closing_le (stands : scanner.StandsAt place rest) {indentation : Text}
    (closes : closingIndentation? scanner.dialect scanner.opening.quote scanner.opening.length
      rest.firstLine = some indentation) :
    place + indentation.length + scanner.opening.length ≤ scanner.text.length := by
  have blank := eq_takeWhile_of_closingIndentation?_eq_some closes
  have whole := stands.length_eq
  have line := congrArg List.length rest.firstLine_append_dropWhile
  have parts := congrArg List.length
    (List.takeWhile_append_dropWhile (p := scanner.dialect.isWhitespace) (l := rest.firstLine))
  have fits := leadingRun_le_length scanner.opening.quote
    (rest.firstLine.dropWhile scanner.dialect.isWhitespace)
  have counted : leadingRun scanner.opening.quote
      (rest.firstLine.dropWhile scanner.dialect.isWhitespace) = scanner.opening.length := by
    unfold closingIndentation? at closes
    split at closes
    · assumption
    · cases closes
  rw [List.length_append] at line parts
  rw [← blank] at parts
  omega

end StandsAt

namespace Sound

variable {scanner : Scanner}

theorem standsAt (sound : scanner.Sound) :
    scanner.StandsAt scanner.position.toNat (scanner.text.drop scanner.position.toNat) := by
  have nonneg := sound.nonneg
  have past := sound.past
  have within := sound.within
  unfold Opening.stop at past
  constructor
  case position => omega
  case within => omega
  case remaining => rfl

/-- A scanner may be moved onwards inside its text. -/
theorem advances_to (sound : scanner.Sound) {position : Int}
    (onward : scanner.position ≤ position) (within : position ≤ scanner.text.length) :
    scanner.Advances { scanner with position := position } where
  sound :=
    { sound with
      past := Int.le_trans sound.past onward
      within := within
      enclosed := fun line member =>
        ⟨(sound.enclosed line member).1, Int.le_trans (sound.enclosed line member).2 onward⟩ }
  dialect := rfl
  text := rfl
  opening := rfl
  position := onward
  lines := List.prefix_rfl

theorem advances_goTo (sound : scanner.Sound) {later : Text}
    (follows : (scanner.text.suffix scanner.position).afterFirstLine? = some later) :
    scanner.Advances (scanner.goTo later) := by
  have nonneg := sound.standsAt.position
  apply sound.advances_to
  · exact Int.le_of_lt (position_lt_goTo (by omega) follows)
  · omega

/-- A scanner may capture a line that stands where it goes on, or behind that. -/
theorem advances_line (sound : scanner.Sound) {line : Line}
    (stands : line.StandsIn scanner.text) (onward : scanner.position ≤ line.offset)
    (within : line.finish ≤ scanner.text.length) :
    scanner.Advances
      { scanner with lines := scanner.lines ++ [line], position := line.finish } := by
  have forward : line.offset ≤ line.finish := by
    rw [line.finish_eq_offset_add_length]
    omega
  have past := sound.past
  have behind : ∀ earlier ∈ scanner.lines, earlier.finish ≤ line.offset :=
    fun earlier member => Int.le_trans (sound.enclosed earlier member).2 onward
  constructor
  case sound =>
    constructor
    case past => exact Int.le_trans past (Int.le_trans onward forward)
    case within => exact within
    case standing =>
      exact List.forall_mem_append.mpr ⟨sound.standing, List.forall_mem_singleton.mpr stands⟩
    case enclosed =>
      intro captured member
      rcases List.mem_append.mp member with earlier | last
      · exact ⟨(sound.enclosed captured earlier).1,
          Int.le_trans (behind captured earlier) forward⟩
      · rw [List.mem_singleton.mp last]
        exact ⟨Int.le_trans past onward, Int.le_refl _⟩
    case ordered =>
      apply List.pairwise_append.mpr
      refine ⟨sound.ordered, List.pairwise_singleton _ _, ?_⟩
      intro earlier member other single
      rw [List.mem_singleton.mp single]
      exact behind earlier member
    case nonneg => exact sound.nonneg
    case longEnough => exact sound.longEnough
    case trailingBlank => exact sound.trailingBlank
    case indentationBlank => exact sound.indentationBlank
    case closed => exact sound.closed
  case dialect => rfl
  case text => rfl
  case opening => rfl
  case position => exact Int.le_trans onward forward
  case lines => exact List.prefix_append _ _

/-- An opening line is read, or there is something to report and the scanner stays as it
was. -/
theorem readOpeningLine_cases (sound : scanner.Sound) :
    (∃ reached, scanner.readOpeningLine = (.ok .content, reached) ∧
        scanner.Advances reached) ∨
      ∃ malformation, scanner.readOpeningLine = (.error malformation, scanner) ∧
        scanner.CanReport malformation := by
  have stands := sound.standsAt
  rw [stands.readOpeningLine_eq]
  rcases OpeningLine.read_cases scanner.dialect
      (scanner.text.drop scanner.position.toNat) with
    ⟨index, read, ⟨char, found, stray⟩, _⟩ | read | ⟨later, read, follows, blank⟩
  · rw [read]
    refine .inr ⟨_, rfl, ?_⟩
    have here := stands.position
    have past := sound.past
    have long := sound.longEnough
    have place := stands.charAt?_eq_some found
    have inside : scanner.position.toNat + index < scanner.text.length := by
      rw [Text.charAt?_natCast] at place
      exact (List.getElem?_eq_some_iff.mp place).1
    unfold Opening.stop minimumMarkerLength at *
    exact ⟨by omega, by omega, by omega, char, place, stray⟩
  · rw [read]
    exact .inr ⟨_, rfl, rfl, rfl⟩
  · rw [read]
    rw [← stands.suffix_eq] at follows
    exact .inl ⟨_, rfl, (sound.advances_goTo follows).withTrailing blank⟩

/-- A line is captured, or there is something to report and the scanner stays as it
was. -/
theorem captureLine_cases (sound : scanner.Sound) :
    (∃ phase reached, scanner.captureLine = (.ok phase, reached) ∧
        scanner.Advances reached ∧ scanner.position < reached.position ∧
        (phase = .done → reached.indentation?.isSome = true)) ∨
      ∃ malformation, scanner.captureLine = (.error malformation, scanner) ∧
        scanner.CanReport malformation := by
  have stands := sound.standsAt
  have here := stands.position
  rw [stands.captureLine_eq]
  generalize scanner.position.toNat = place at stands here ⊢
  cases closes : closingIndentation? scanner.dialect scanner.opening.quote
      scanner.opening.length (Text.firstLine (scanner.text.drop place)) with
  | some indentation =>
      have inside := stands.closing_le closes
      have advances : scanner.Advances
          { scanner with position := place + indentation.length + scanner.opening.length } :=
        sound.advances_to (by omega) (by omega)
      have blank : ∀ char ∈ indentation, scanner.dialect.isWhitespace char = true := by
        intro char member
        rw [eq_takeWhile_of_closingIndentation?_eq_some closes] at member
        exact List.mem_takeWhile_imp member
      have positive := positive_of_longEnough sound.longEnough
      exact .inl ⟨.done, _, rfl, advances.withIndentation blank, by simp only; omega,
        fun _ => rfl⟩
  | none =>
      cases follows : Text.afterFirstLine? (scanner.text.drop place) with
      | none => exact .inr ⟨_, rfl, rfl, rfl⟩
      | some later =>
          have shape := Text.eq_firstLine_append_of_afterFirstLine?_eq_some follows
          have whole := stands.length_eq_of_follows follows
          have standing := Line.standsIn_ofTerminated (Text.lineFeed_not_mem_firstLine _) shape
          have advances := sound.advances_line standing
            (by rw [Line.offset_ofTerminated]; omega)
            (by rw [Line.finish_ofTerminated]; omega)
          rw [Line.finish_ofTerminated] at advances
          exact .inl ⟨.content, _, rfl, advances, by simp only; omega, nofun⟩

/-- Capturing the content is capturing lines, as long as they lead on. -/
theorem advances_captureContent (sound : scanner.Sound) :
    scanner.Advances scanner.captureContent.2 := by
  induction distance : (scanner.text.length - scanner.position).toNat using
    Nat.strongRecOn generalizing scanner with
  | ind distance induction =>
      rw [sound.standsAt.captureContent_eq]
      rcases sound.captureLine_cases with
        ⟨phase, reached, captured, advances, onward, closed⟩ | ⟨malformation, failed, _⟩
      · rw [captured]
        have within := advances.sound.within
        rw [advances.text] at within
        have later : reached.Advances reached.captureContent.2 :=
          induction _ (by rw [advances.text]; omega) advances.sound rfl
        cases phase with
        | done => exact advances.inPhase closed
        | content => exact advances.trans later
        | openingLine => exact advances.trans later
      · rw [failed]
        exact (Advances.refl sound).inPhase nofun

end Sound

theorem eq_unterminated_of_captureContent {scanner : Scanner} {malformation : Malformation}
    (failed : scanner.captureContent.1 = .error malformation) :
    malformation = scanner.unterminated := by
  unfold captureContent at failed
  simp only at failed
  split at failed
  · cases failed
  · exact (Except.error.inj failed).symm

/-- What a host does with a scanner. -/
inductive Operation where
  | readOpeningLine
  | captureLine
  | step
  | run
  | recover
  deriving DecidableEq, Repr

/-- The operations that deal with no more than one line. -/
def Operation.isSingle : Operation → Bool
  | .readOpeningLine | .captureLine | .step => true
  | .run | .recover => false

/-- The malformation that an answer reports, if any. -/
def malformation? {Answer : Type} : Except Malformation Answer → Option Malformation
  | .ok _ => none
  | .error malformation => some malformation

/-- What is wrong, if anything, and the scanner that an operation leaves. -/
def report {Answer : Type} (performed : Except Malformation Answer × Scanner) :
    Option Malformation × Scanner :=
  (malformation? performed.1, performed.2)

/-- What is wrong after an operation, if anything, and the scanner afterwards. -/
def perform (scanner : Scanner) : Operation → Option Malformation × Scanner
  | .readOpeningLine => report scanner.readOpeningLine
  | .captureLine => report scanner.captureLine
  | .step => report scanner.step
  | .run => report scanner.run
  | .recover => report scanner.recover

/-- The scanner after operations, whatever came of them. -/
def after (scanner : Scanner) : List Operation → Scanner
  | [] => scanner
  | operation :: later => (scanner.perform operation).2.after later

/-- A scanner goes on from where it was, and what is wrong, if anything, it may complain
about. -/
structure Keeps (scanner : Scanner) (performed : Option Malformation × Scanner) : Prop where
  advances : scanner.Advances performed.2
  canReport : ∀ malformation, performed.1 = some malformation → scanner.CanReport malformation

theorem keeps_of_ok {scanner reached : Scanner} (advances : scanner.Advances reached) :
    scanner.Keeps (none, reached) :=
  ⟨advances, nofun⟩

theorem keeps_of_error {scanner : Scanner} (sound : scanner.Sound)
    {malformation : Malformation} (canReport : scanner.CanReport malformation) :
    scanner.Keeps (some malformation, scanner) :=
  ⟨Advances.refl sound, fun _ same => Option.some.inj same ▸ canReport⟩

/-- What a single method comes to: a phase, and a scanner that has gone on, or something
to report, and the scanner as it was. -/
def Responds (scanner : Scanner) (performed : Except Malformation Phase × Scanner) : Prop :=
  (∃ phase reached, performed = (.ok phase, reached) ∧ scanner.Advances reached ∧
      (phase = .done → reached.indentation?.isSome = true)) ∨
    ∃ malformation, performed = (.error malformation, scanner) ∧
      scanner.CanReport malformation

namespace Responds

variable {scanner : Scanner} {performed : Except Malformation Phase × Scanner}

theorem enter (responds : scanner.Responds performed) :
    scanner.Responds (Scanner.enter performed) := by
  rcases responds with
    ⟨phase, reached, rfl, advances, closed⟩ | ⟨malformation, rfl, canReport⟩
  · exact .inl ⟨phase, _, rfl, advances.inPhase closed, closed⟩
  · exact .inr ⟨malformation, rfl, canReport⟩

theorem keeps (responds : scanner.Responds performed) (sound : scanner.Sound) :
    scanner.Keeps (report performed) := by
  rcases responds with ⟨_, reached, rfl, advances, _⟩ | ⟨_, rfl, canReport⟩
  · exact keeps_of_ok advances
  · exact keeps_of_error sound canReport

/-- A method that fails changes nothing. -/
theorem unchanged (responds : scanner.Responds performed) {malformation : Malformation}
    (failed : (report performed).1 = some malformation) :
    (report performed).2 = scanner := by
  rcases responds with ⟨_, _, rfl, _⟩ | ⟨_, rfl, _⟩
  · cases failed
  · rfl

end Responds

@[simp] theorem malformation?_map {Answer Other : Type} (change : Answer → Other)
    (answer : Except Malformation Answer) :
    malformation? (answer.map change) = malformation? answer := by
  cases answer <;> rfl

namespace Sound

variable {scanner : Scanner}

theorem responds_readOpeningLine (sound : scanner.Sound) :
    scanner.Responds scanner.readOpeningLine := by
  rcases sound.readOpeningLine_cases with ⟨reached, read, advances⟩ | failed
  · exact .inl ⟨.content, reached, read, advances, nofun⟩
  · exact .inr failed

theorem responds_captureLine (sound : scanner.Sound) :
    scanner.Responds scanner.captureLine := by
  rcases sound.captureLine_cases with ⟨phase, reached, captured, advances, _, closed⟩ | failed
  · exact .inl ⟨phase, reached, captured, advances, closed⟩
  · exact .inr failed

/-- A step is the method of its phase, and the phase it answers is entered. -/
theorem responds_step (sound : scanner.Sound) : scanner.Responds scanner.step := by
  cases phase : scanner.phase with
  | openingLine =>
      simp only [step, phase]
      exact sound.responds_readOpeningLine.enter
  | content =>
      simp only [step, phase]
      exact sound.responds_captureLine.enter
  | done =>
      simp only [step, phase]
      exact .inl ⟨.done, scanner, rfl, Advances.refl sound, fun _ => sound.closed phase⟩

/-- Whatever is captured further on is captured for the marker the scanner began with. -/
theorem keeps_captureContent {ready : Scanner} (advances : scanner.Advances ready) :
    scanner.Keeps (report ready.captureContent) := by
  constructor
  case advances => exact advances.trans advances.sound.advances_captureContent
  case canReport =>
    intro malformation reported
    unfold report at reported
    cases answered : ready.captureContent.1 with
    | ok block =>
        rw [answered] at reported
        cases reported
    | error found =>
        rw [answered] at reported
        have same : found = malformation := Option.some.inj reported
        rw [← same, eq_unterminated_of_captureContent answered]
        exact ⟨congrArg Opening.start advances.opening,
          congrArg (fun text => (List.length text : Int)) advances.text⟩

theorem keeps_run (sound : scanner.Sound) : scanner.Keeps (report scanner.run) := by
  cases phase : scanner.phase with
  | openingLine =>
      simp only [run, phase]
      rcases sound.readOpeningLine_cases with
        ⟨reached, read, advances⟩ | ⟨malformation, failed, canReport⟩
      · rw [read]
        exact keeps_captureContent advances
      · rw [failed]
        exact keeps_of_error sound canReport
  | content =>
      simp only [run, phase]
      exact keeps_captureContent (Advances.refl sound)
  | done =>
      simp only [run, phase]
      exact keeps_of_ok (Advances.refl sound)

theorem keeps_recover (sound : scanner.Sound) : scanner.Keeps (report scanner.recover) := by
  unfold recover
  split
  · have canReport : scanner.CanReport scanner.unterminated := ⟨rfl, rfl⟩
    exact keeps_of_error sound canReport
  · next later follows =>
      simp only [report, malformation?_map]
      exact keeps_captureContent (sound.advances_goTo follows)

/-- No operation does more than a scanner may. -/
theorem keeps_perform (sound : scanner.Sound) (operation : Operation) :
    scanner.Keeps (scanner.perform operation) := by
  cases operation with
  | readOpeningLine => exact sound.responds_readOpeningLine.keeps sound
  | captureLine => exact sound.responds_captureLine.keeps sound
  | step => exact sound.responds_step.keeps sound
  | run => exact sound.keeps_run
  | recover => exact sound.keeps_recover

/-- An operation on a single line that fails leaves the scanner as it was. -/
theorem perform_snd_eq (sound : scanner.Sound) {operation : Operation}
    {malformation : Malformation} (single : operation.isSingle = true)
    (failed : (scanner.perform operation).1 = some malformation) :
    (scanner.perform operation).2 = scanner := by
  cases operation with
  | readOpeningLine => exact sound.responds_readOpeningLine.unchanged failed
  | captureLine => exact sound.responds_captureLine.unchanged failed
  | step => exact sound.responds_step.unchanged failed
  | run => cases single
  | recover => cases single

theorem advances_after (sound : scanner.Sound) (operations : List Operation) :
    scanner.Advances (scanner.after operations) := by
  induction operations generalizing scanner with
  | nil => exact Advances.refl sound
  | cons operation later induction =>
      have first := (sound.keeps_perform operation).advances
      exact first.trans (induction first.sound)

end Sound

/-- A scanner is sound to begin with. -/
theorem sound_of_start_eq_ok {dialect : Dialect} {text : Text} {offset : Nat}
    {scanner : Scanner} (started : start dialect text offset = .ok scanner) :
    scanner.Sound := by
  rcases lacksMarker_or_exists_markerAt dialect text offset with lacks | found
  · unfold start at started
    rcases find_of_lacksMarker lacks with missing | ⟨found, short⟩
    · rw [missing] at started
      cases started
    · rw [short] at started
      cases started
  · obtain ⟨quote, length, rest, marker⟩ := found
    have width := marker.length_eq
    rw [marker.start_eq_ok] at started
    cases started
    constructor
    case nonneg => exact Int.natCast_nonneg offset
    case longEnough => exact marker.longEnough
    case past => exact Int.le_refl _
    case within => simp only; omega
    case standing => exact nofun
    case enclosed => exact nofun
    case ordered => exact List.Pairwise.nil
    case trailingBlank => exact nofun
    case indentationBlank => exact nofun
    case closed => exact nofun

/-- Whatever was done with a scanner since it was started, it is sound, has kept the
marker it began with, has not gone back and has kept its lines.  So it is after the next
operation too, which fails only with what the scanner can report, and leaves the scanner
alone if it fails on a single line. -/
theorem sound_in_any_order {dialect : Dialect} {text : Text} {offset : Nat}
    {scanner : Scanner} (started : start dialect text offset = .ok scanner)
    (operations : List Operation) :
    let reached := scanner.after operations
    scanner.Advances reached ∧
      ∀ operation, reached.Advances (reached.perform operation).2 ∧
        ∀ malformation, (reached.perform operation).1 = some malformation →
          reached.CanReport malformation ∧
            (operation.isSingle = true → (reached.perform operation).2 = reached) := by
  intro reached
  have advances := (sound_of_start_eq_ok started).advances_after operations
  refine ⟨advances, ?_⟩
  intro operation
  have keeps := advances.sound.keeps_perform operation
  refine ⟨keeps.advances, ?_⟩
  intro malformation failed
  refine ⟨keeps.canReport malformation failed, ?_⟩
  intro single
  exact advances.sound.perform_snd_eq single failed

/-- The opening line is taken for content, the next line for an opening line, and lines
are read on behind the closing marker. -/
theorem sound_in_any_order_behind_closing_marker :
    let text := ['"', '"', '"', ' ', '\n', ' ', ' ', 'a', '\r', '\n', 'b', '\r', '\n',
      ' ', '"', '"', '"', '\n', 'c', '\n', '"', '"', '"', 'x', '\n']
    let scanner : Scanner :=
      ⟨.standard, text, ⟨'"', 3, 0⟩, .openingLine, 3, [], [], none⟩
    let operations : List Operation :=
      [.captureLine, .run, .recover, .readOpeningLine, .captureLine]
    let reached : Scanner :=
      ⟨.standard, text, ⟨'"', 3, 0⟩, .done, 20, [],
        [⟨[' '], .lineFeed, 3⟩, ⟨['b'], .carriageReturnLineFeed, 10⟩, ⟨['c'], .lineFeed, 18⟩],
        some [' ']⟩
    start .standard text 0 = .ok scanner ∧ scanner.after operations = reached ∧
      scanner.Advances reached ∧
      reached.perform .readOpeningLine = (some (.strayText 20), reached) ∧
      reached.CanReport (.strayText 20) ∧
      reached.Advances (reached.perform .recover).2 ∧
      (reached.perform .recover).1 = some (.unterminated 0 25) := by
  intro text scanner operations reached
  have started : start .standard text (0 : Nat) = .ok scanner := by decide +kernel
  have after : scanner.after operations = reached := by decide +kernel
  have failed : (reached.perform .readOpeningLine).1 = some (.strayText 20) := by
    decide +kernel
  obtain ⟨advances, next⟩ := sound_in_any_order started operations
  rw [after] at advances next
  obtain ⟨canReport, unchanged⟩ := (next .readOpeningLine).2 _ failed
  exact ⟨started, after, advances, Prod.ext failed (unchanged rfl), canReport,
    (next .recover).1, by decide +kernel⟩

end Scanner

end Verbatim
