import Verbatim.Capture

/-!
# The scanner

A scanner captures one verbatim string.  It begins just past the opening marker,
awaits the end of the opening line, captures content lines, and is done once it
has found the closing marker.

`scan` drives a scanner to its end.  `skip` does the same without judging the
opening line; it finds where a malformed literal ends, so that the closing marker
of that literal is not mistaken for an opening one.  A host may also drive a
scanner itself, one line at a time and in any order; a step that fails leaves the
scanner as it was.
-/

namespace Verbatim

/-- What a scanner is about to do. -/
inductive Phase where
  | openingLine
  | content
  | done
  deriving DecidableEq, Repr

/-- A scanner and its progress.  `position` is where it goes on reading; the
remaining fields hold what it has captured so far. -/
structure Scanner where
  dialect : Dialect
  text : Text
  opening : Opening
  phase : Phase
  position : Int
  trailing : Text
  lines : List Line
  indentation? : Option Text
  deriving DecidableEq, Repr

namespace Scanner

/-- A scanner for the literal whose opening marker stands at the offset. -/
def start (dialect : Dialect) (text : Text) (offset : Int) : Except Failure Scanner :=
  (Opening.find dialect text offset).map fun opening =>
    { dialect, text, opening
      phase := .openingLine
      position := opening.stop
      trailing := []
      lines := []
      indentation? := none }

/-- The failure to find a closing marker in the whole of the text. -/
def unterminated (scanner : Scanner) : Malformation :=
  .unterminated scanner.opening.start scanner.text.length

/-- The scanner where the given remainder of its text is still to be read. -/
def goTo (scanner : Scanner) (rest : Text) : Scanner :=
  { scanner with position := scanner.text.length - rest.length }

/-- Read the rest of the opening line.  The phase stays as it was; the answer is the
one to enter. -/
def readOpeningLine (scanner : Scanner) : Except Malformation Phase × Scanner :=
  match OpeningLine.read scanner.dialect (scanner.text.suffix scanner.position) with
  | .stray index => (.error (.strayText (scanner.position + index)), scanner)
  | .cutOff => (.error scanner.unterminated, scanner)
  | .complete trailing rest =>
      (.ok .content, { scanner.goTo rest with trailing := trailing })

/-- Read one whole line, and say what is to be done next.  The phase stays as it
was.  From a negative position the line is looked for across the end of the text,
while what is kept of it is cut out of the text; from any other position the two
agree. -/
def captureLine (scanner : Scanner) : Except Malformation Phase × Scanner :=
  let position := scanner.position
  let stop : Int := scanner.text.lineEnd position
  let line := (scanner.text.onward position).take (stop - position).toNat
  match closingIndentation? scanner.dialect scanner.opening.quote scanner.opening.length line with
  | some indentation =>
      let markerStart := position + indentation.length
      (.ok .done,
        { scanner with
          indentation? := some (scanner.text.slice position markerStart)
          position := markerStart + scanner.opening.length })
  | none =>
      if stop = scanner.text.length then (.error scanner.unterminated, scanner)
      else
        let captured : Line :=
          if position < stop ∧ scanner.text.charAt? (stop - 1) = some '\r' then
            ⟨scanner.text.slice position (stop - 1), .carriageReturnLineFeed, position⟩
          else ⟨scanner.text.slice position stop, .lineFeed, position⟩
        (.ok .content,
          { scanner with lines := scanner.lines ++ [captured], position := stop + 1 })

/-- Enter the phase that a method answered, if it answered one. -/
def enter : Except Malformation Phase × Scanner → Except Malformation Phase × Scanner
  | (.ok phase, reached) => (.ok phase, { reached with phase := phase })
  | (.error malformation, reached) => (.error malformation, reached)

/-- Do what the phase asks for and enter the next phase. -/
def step (scanner : Scanner) : Except Malformation Phase × Scanner :=
  match scanner.phase with
  | .openingLine => enter scanner.readOpeningLine
  | .content => enter scanner.captureLine
  | .done => (.ok .done, scanner)

def block (scanner : Scanner) : Block where
  markerLength := scanner.opening.length
  trailing := scanner.trailing
  lines := scanner.lines
  indentation := scanner.indentation?.getD []
  quote := scanner.opening.quote
  start := scanner.opening.start
  finish := scanner.position

/-- Capture content lines until the block is closed. -/
def captureContent (scanner : Scanner) : Except Malformation Block × Scanner :=
  let captured := capture scanner.dialect scanner.opening.quote scanner.opening.length
    scanner.position (scanner.text.suffix scanner.position)
  let reached :=
    { scanner with
      phase := .content
      lines := scanner.lines ++ captured.lines
      position := captured.position }
  match captured.indentation? with
  | some indentation =>
      let closed := { reached with phase := .done, indentation? := some indentation }
      (.ok closed.block, closed)
  | none => (.error scanner.unterminated, reached)

/-- Go on until the scanner is done.  The second component is the scanner
afterwards, which keeps what was captured before a failure. -/
def run (scanner : Scanner) : Except Malformation Block × Scanner :=
  match scanner.phase with
  | .openingLine =>
      match scanner.readOpeningLine with
      | (.ok _, ready) => ready.captureContent
      | (.error malformation, reached) => (.error malformation, reached)
  | .content => scanner.captureContent
  | .done => (.ok scanner.block, scanner)

/-- Skip the rest of the current line without judging it, capture as usual, and
answer where the closing marker ends. -/
def recover (scanner : Scanner) : Except Malformation Int × Scanner :=
  match (scanner.text.suffix scanner.position).afterFirstLine? with
  | none => (.error scanner.unterminated, scanner)
  | some rest =>
      let (result, reached) := (scanner.goTo rest).captureContent
      (result.map Block.finish, reached)

end Scanner

/-- A new scanner stands past its opening marker. -/
theorem Scanner.lt_position_of_start_eq_ok {dialect : Dialect} {text : Text}
    {offset : Int} {scanner : Scanner} (started : start dialect text offset = .ok scanner) :
    scanner.phase = .openingLine ∧ offset < scanner.position := by
  unfold start at started
  cases found : Opening.find dialect text offset with
  | error failure => rw [found] at started; cases started
  | ok opening =>
      rw [found] at started
      cases started
      have measured := Opening.start_eq_of_find_eq_ok found
      refine ⟨rfl, ?_⟩
      simp only [Opening.stop, minimumMarkerLength] at *
      omega

/-- A scanner that has passed the end of a line stands further on. -/
theorem Scanner.position_lt_goTo {scanner : Scanner} {rest : Text}
    (nonneg : 0 ≤ scanner.position)
    (follows : (scanner.text.suffix scanner.position).afterFirstLine? = some rest) :
    scanner.position < (scanner.goTo rest).position := by
  have shorter := Text.length_lt_of_afterFirstLine?_eq_some follows
  rw [Text.suffix_of_nonneg nonneg, List.length_drop] at shorter
  simp only [goTo]
  omega

theorem Scanner.position_lt_of_readOpeningLine_eq_ok {scanner ready : Scanner}
    {phase : Phase} (nonneg : 0 ≤ scanner.position)
    (awaited : scanner.readOpeningLine = (.ok phase, ready)) :
    scanner.position < ready.position := by
  unfold readOpeningLine at awaited
  split at awaited
  · cases awaited
  · cases awaited
  · next trailing rest complete =>
      cases awaited
      exact position_lt_goTo nonneg
        (OpeningLine.afterFirstLine?_of_read_eq_complete complete)

theorem Scanner.position_le_finish_of_captureContent_eq_ok {scanner : Scanner}
    {block : Block} (closed : scanner.captureContent.1 = .ok block) :
    scanner.position ≤ block.finish := by
  have forward := le_position_capture scanner.dialect scanner.opening.quote
    scanner.opening.length scanner.position (scanner.text.suffix scanner.position)
  unfold captureContent at closed
  simp only at closed
  split at closed
  · cases closed
    exact forward
  · cases closed

/-- The block whose opening marker stands at the offset. -/
def scan (dialect : Dialect) (text : Text) (offset : Int) : Except Failure Block := do
  let scanner ← Scanner.start dialect text offset
  scanner.run.1.mapError Failure.malformed

/-- Where the block opened at the offset ends, whatever its opening line holds. -/
def skip (dialect : Dialect) (text : Text) (offset : Int) : Except Failure Int := do
  let scanner ← Scanner.start dialect text offset
  scanner.recover.1.mapError Failure.malformed

theorem lt_finish_of_scan_eq_ok {dialect : Dialect} {text : Text} {offset : Int}
    {block : Block} (nonneg : 0 ≤ offset) (scanned : scan dialect text offset = .ok block) :
    offset < block.finish := by
  unfold scan at scanned
  cases started : Scanner.start dialect text offset with
  | error failure => rw [started] at scanned; cases scanned
  | ok scanner =>
      obtain ⟨phase, ahead⟩ := Scanner.lt_position_of_start_eq_ok started
      rw [started] at scanned
      simp only [bind, Except.bind, Scanner.run, phase] at scanned
      rcases awaited : scanner.readOpeningLine with ⟨answer, ready⟩
      rw [awaited] at scanned
      cases answer with
      | error malformation => cases scanned
      | ok next =>
          cases closed : ready.captureContent.1 with
          | error malformation => simp only [closed] at scanned; cases scanned
          | ok captured =>
              simp only [closed] at scanned
              cases scanned
              have onward :=
                Scanner.position_lt_of_readOpeningLine_eq_ok (by omega) awaited
              have forward := Scanner.position_le_finish_of_captureContent_eq_ok closed
              omega

theorem lt_of_skip_eq_ok {dialect : Dialect} {text : Text} {offset finish : Int}
    (nonneg : 0 ≤ offset) (skipped : skip dialect text offset = .ok finish) :
    offset < finish := by
  unfold skip at skipped
  cases started : Scanner.start dialect text offset with
  | error failure => rw [started] at skipped; cases skipped
  | ok scanner =>
      obtain ⟨_, ahead⟩ := Scanner.lt_position_of_start_eq_ok started
      rw [started] at skipped
      simp only [bind, Except.bind, Scanner.recover] at skipped
      cases follows : (scanner.text.suffix scanner.position).afterFirstLine? with
      | none => rw [follows] at skipped; cases skipped
      | some rest =>
          rw [follows] at skipped
          cases closed : (scanner.goTo rest).captureContent.1 with
          | error malformation => simp only [closed] at skipped; cases skipped
          | ok captured =>
              simp only [closed] at skipped
              cases skipped
              have onward := Scanner.position_lt_goTo (by omega) follows
              have forward := Scanner.position_le_finish_of_captureContent_eq_ok closed
              omega

end Verbatim
