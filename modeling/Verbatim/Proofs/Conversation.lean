import Verbatim.Command.Session
import Verbatim.Proofs.Gathering
import Verbatim.Proofs.Reporting

/-!
# A session answers its lines in groups

Whatever is typed, a session cuts it into groups of lines.  A group is as short as it can
be: it ends with the first line at which reading it no longer finds it unterminated.  What
is said to a group is what reading it comes to, and nothing of it is left over for the next
one.  Only the lines behind the last group may wait for more.  `Answers` and `prompted` spell
out what is printed of this.

The invariant between two lines is `holding`: what is pending are the lines typed since the
last answer, each with its line feed, and the width of the first of them.
-/

namespace Verbatim.Command.Session

/-- What a reader makes of typed lines.  Each gets its line feed back, and the marker is
looked for behind the whitespace of the first. -/
def reading (reader : Reader) (lines : List Text) : List Event × Except Failure Literal :=
  reader.read (Text.terminated lines)
    (PendingInput.indentationWidth reader.dialect (lines.headD []))

/-- More lines could still make a literal of these. -/
def AsksForMore (reader : Reader) (lines : List Text) : Prop :=
  ∃ start finish, (reading reader lines).2 = .error (.malformed (.unterminated start finish))

/-- All of the lines wait for more. -/
def Unfinished (reader : Reader) (lines : List Text) : Prop :=
  ∀ front, front <+: lines → front ≠ [] → AsksForMore reader front

/-- Lines that do not ask for more, with no way to stop before the last of them. -/
structure IsGroup (reader : Reader) (lines : List Text) : Prop where
  nonempty : lines ≠ []
  answered : ¬ AsksForMore reader lines
  shortest : ∀ front, front <+: lines → front ≠ [] → front ≠ lines → AsksForMore reader front

/-- What is said to lines, and what is printed of it as output and as diagnostics: the value of
their literal, quoted so that it can be read back, a picture of what is malformed in them, or
why there is no literal to begin with. -/
inductive Answers (reader : Reader) (lines : List Text) : Utterance → Text → Text → Prop where
  | value {literal : Literal} :
      (reading reader lines).2 = .ok literal →
      Quoted.decode (quoted literal.value) = some (literal.value, []) →
      Answers reader lines (.value literal.value) (quoted literal.value ++ ['\n']) []
  | picture {malformation : Malformation} {complaint : Text} :
      (reading reader lines).2 = .error (.malformed malformation) →
      0 ≤ malformation.position →
      malformation.position < (Text.terminated lines).length →
      complaint = (Source.ofText (Text.terminated lines)).explain malformation →
      (Source.ofText (Text.terminated lines)).Describes malformation complaint →
      Answers reader lines (.diagnostic complaint) [] (complaint ++ ['\n'])
  | noMarker {offset : Int} {message : Text} :
      (reading reader lines).2 = .error (.noMarker offset) →
      message = "No verbatim string marker at offset ".toList ++ Numeral.signed offset →
      Answers reader lines (.diagnostic message) [] (message ++ ['\n'])
  | shortMarker {found : Nat} {offset : Int} {message : Text} :
      (reading reader lines).2 = .error (.shortMarker found offset) →
      message = "A verbatim string marker needs at least 3 quotes; found ".toList ++
        Numeral.decimal found ++ " at offset ".toList ++ Numeral.signed offset →
      Answers reader lines (.diagnostic message) [] (message ++ ['\n'])

/-- The prompts before lines that are typed one after another. -/
def prompts : List Text → List Utterance
  | [] => []
  | _ :: later => .prompt false :: later.map fun _ => .prompt true

/-- What is printed before lines that are typed one after another. -/
def prompted : List Text → Text
  | [] => []
  | _ :: later => ">>> ".toList ++ later.flatMap fun _ => "... ".toList

/-- Lines, what is said to them, and what is printed of that. -/
structure Exchange where
  lines : List Text
  answer : Utterance
  output : Text
  diagnostics : Text

/-- Everything a session says from the first line of an exchange to the answer.  Warnings
come right before it. -/
def Exchange.utterances (reader : Reader) (exchange : Exchange) : List Utterance :=
  prompts exchange.lines ++ (reading reader exchange.lines).1.filterMap warningOf? ++
    [exchange.answer]

/-- What is pending when some lines wait for more. -/
def holding (dialect : Dialect) : List Text → PendingInput
  | [] => .fresh
  | first :: later =>
      ⟨(first :: later).map (· ++ ['\n']), PendingInput.indentationWidth dialect first⟩

section Holding

variable (dialect : Dialect) (held : List Text) (line : Text)

theorem indentationWidth_append_lineFeed :
    PendingInput.indentationWidth dialect (line ++ ['\n']) =
      PendingInput.indentationWidth dialect line := by
  unfold PendingInput.indentationWidth
  induction line with
  | nil => simp [dialect.isWhitespace_lineFeed]
  | cons char rest induction =>
      by_cases blank : dialect.isWhitespace char = true
      · simpa [blank] using induction
      · simp [blank]

theorem text_holding : (holding dialect held).text = Text.terminated held := by
  cases held with
  | nil => rfl
  | cons first later => simp [holding, PendingInput.text, Text.terminated, List.flatMap]

theorem awaitsMore_holding : (holding dialect held).awaitsMore = !held.isEmpty := by
  cases held <;> rfl

theorem offset_holding {held : List Text} (nonempty : held ≠ []) :
    (holding dialect held).offset =
      PendingInput.indentationWidth dialect (held.headD []) := by
  obtain ⟨first, later, rfl⟩ := List.exists_cons_of_ne_nil nonempty
  rfl

theorem gather_holding :
    (holding dialect held).gather dialect (line ++ ['\n']) none =
      holding dialect (held ++ [line]) := by
  cases held with
  | nil =>
      simp [holding, PendingInput.gather, PendingInput.fresh, indentationWidth_append_lineFeed]
  | cons first later => simp [holding, PendingInput.gather]

end Holding

section Printing

theorem flatMap_output_prompts (lines : List Text) :
    (prompts lines).flatMap Utterance.output = prompted lines := by
  cases lines with
  | nil => rfl
  | cons line later =>
      rw [prompts, prompted, List.flatMap_cons, List.flatMap_map]
      rfl

theorem flatMap_diagnostics_prompts (lines : List Text) :
    (prompts lines).flatMap Utterance.diagnostics = [] := by
  cases lines <;> simp [prompts, Utterance.diagnostics]

theorem filterMap_warning?_prompts (lines : List Text) :
    (prompts lines).filterMap Utterance.warning? = [] := by
  cases lines <;> simp [prompts, Utterance.warning?]

theorem message_shortMarker (found : Nat) (offset : Int) :
    (Failure.shortMarker found offset).message =
      "A verbatim string marker needs at least 3 quotes; found ".toList ++
        Numeral.decimal found ++ " at offset ".toList ++ Numeral.signed offset := by
  have least : "A verbatim string marker needs at least ".toList ++
      Numeral.decimal minimumMarkerLength ++ " quotes; found ".toList =
      "A verbatim string marker needs at least 3 quotes; found ".toList := by
    decide +kernel
  exact congrArg (fun beginning => beginning ++ Numeral.decimal found ++
    " at offset ".toList ++ Numeral.signed offset) least

/-- An answer is printed as it should be, and is no warning. -/
theorem Answers.printed {reader : Reader} {lines : List Text} {said : Utterance}
    {output diagnostics : Text} (answers : Answers reader lines said output diagnostics) :
    said.output = output ∧ said.diagnostics = diagnostics ∧ said.warning? = none := by
  cases answers <;> exact ⟨rfl, rfl, rfl⟩

/-- At the end of input there is one more prompt, and the line is ended. -/
theorem flatMap_output_farewell (rest : List Text) :
    [Utterance.prompt !rest.isEmpty, .farewell].flatMap Utterance.output =
      (if rest = [] then ">>> ".toList else "... ".toList) ++ ['\n'] := by
  cases rest with
  | nil => rfl
  | cons line later =>
      rw [if_neg (List.cons_ne_nil line later)]
      rfl

variable {reader : Reader} {exchange : Exchange} {warned : List Text}

/-- What is printed of an exchange: the prompts before its lines, and the answer. -/
theorem Answers.printed_utterances
    (answers : Answers reader exchange.lines exchange.answer exchange.output
      exchange.diagnostics)
    (said : exchange.utterances reader =
      prompts exchange.lines ++ warned.map .warning ++ [exchange.answer]) :
    (exchange.utterances reader).flatMap Utterance.output =
        prompted exchange.lines ++ exchange.output ∧
      (exchange.utterances reader).flatMap Utterance.diagnostics = exchange.diagnostics ∧
      (exchange.utterances reader).filterMap Utterance.warning? = warned := by
  obtain ⟨output, diagnostics, warning⟩ := answers.printed
  have silent : (warned.map Utterance.warning).flatMap Utterance.output = [] := by
    simp [Utterance.output]
  have undiagnosed : (warned.map Utterance.warning).flatMap Utterance.diagnostics = [] := by
    simp [Utterance.diagnostics]
  have all : (warned.map Utterance.warning).filterMap Utterance.warning? = warned := by
    rw [List.filterMap_map]
    exact List.filterMap_some
  rw [said]
  simp [flatMap_output_prompts, flatMap_diagnostics_prompts, filterMap_warning?_prompts, silent,
    undiagnosed, all, output, diagnostics, warning]

end Printing

section Answering

variable {reader : Reader} {lines held : List Text} {line : Text}

theorem unfinished_nil (reader : Reader) : Unfinished reader [] := by
  intro front within nonempty
  exact absurd (List.prefix_nil.mp within) nonempty

theorem Unfinished.concat (unfinished : Unfinished reader held)
    (asks : AsksForMore reader (held ++ [line])) : Unfinished reader (held ++ [line]) := by
  intro front within nonempty
  rcases List.prefix_concat_iff.mp within with rfl | earlier
  · exact asks
  · exact unfinished front earlier nonempty

theorem Unfinished.isGroup (unfinished : Unfinished reader held)
    (answered : ¬ AsksForMore reader (held ++ [line])) : IsGroup reader (held ++ [line]) where
  nonempty := by simp
  answered := answered
  shortest := by
    intro front within nonempty shorter
    rcases List.prefix_concat_iff.mp within with rfl | earlier
    · exact absurd rfl shorter
    · exact unfinished front earlier nonempty

theorem prompts_concat (held : List Text) (line : Text) :
    prompts (held ++ [line]) = prompts held ++ [.prompt !held.isEmpty] := by
  cases held <;> simp [prompts]

theorem reading_eq_readLiteral (accepts : reader.listener.AcceptsIssues)
    (quiet : ∀ observer ∈ reader.observers, observer.ReturnsNormally) (lines : List Text) :
    (reading reader lines).2 = readLiteral reader.dialect (Text.terminated lines)
      (PendingInput.indentationWidth reader.dialect (lines.headD [])) :=
  Reader.read_eq_readLiteral accepts quiet _

/-- What reading comes to can be said, and the lines are to blame for any failure. -/
theorem exists_answers (accepts : reader.listener.AcceptsIssues)
    (quiet : ∀ observer ∈ reader.observers, observer.ReturnsNormally)
    (lines : List Text) :
    ∃ said output diagnostics, Answers reader lines said output diagnostics ∧
      answer (Text.terminated lines) ((reading reader lines).2.map some) = [said] ∧
      ∀ failure, (reading reader lines).2 = .error failure → failure.blamesInput = true := by
  have read := reading_eq_readLiteral accepts quiet lines
  rcases readLiteral_verdicts reader.dialect (Text.terminated lines)
      (PendingInput.indentationWidth reader.dialect (lines.headD [])) with
    ⟨literal, found⟩ | ⟨malformation, failed, behind, inside⟩ | missing | ⟨count, short⟩
  · rw [found] at read
    have decoded := Quoted.decodes_quotedWith Text.isPrintable literal.value [] Text.separated_nil
    rw [List.append_nil] at decoded
    exact ⟨_, _, _, .value read decoded, by rw [read]; rfl, by simp [read]⟩
  · rw [failed] at read
    have position : malformation.position = (malformation.position.toNat : Int) := by omega
    have within : malformation.position.toNat < (Text.terminated lines).length := by omega
    have described := @Source.describes_explain (Source.ofText (Text.terminated lines)) _ _
      position within
    exact ⟨_, _, _, .picture read behind inside rfl described, by rw [read]; rfl,
      by simp [read, Failure.blamesInput]⟩
  · rw [missing] at read
    exact ⟨_, _, _, .noMarker read rfl, by rw [read]; rfl, by simp [read, Failure.blamesInput]⟩
  · rw [short] at read
    exact ⟨_, _, _, .shortMarker read (message_shortMarker _ _), by rw [read]; rfl,
      by simp [read, Failure.blamesInput]⟩

theorem respond_of_asksForMore (accepts : reader.listener.AcceptsIssues)
    (quiet : ∀ observer ∈ reader.observers, observer.ReturnsNormally)
    (asks : AsksForMore reader (held ++ [line])) :
    respond reader (holding reader.dialect held) line =
      ([], holding reader.dialect (held ++ [line])) := by
  obtain ⟨start, finish, asking⟩ := asks
  rw [reading_eq_readLiteral accepts quiet] at asking
  have attempted : PendingInput.attempt reader
      ((holding reader.dialect held).gather reader.dialect (line ++ ['\n']) none) =
        .error (.malformed (.unterminated start finish)) := by
    rw [gather_holding, PendingInput.attempt, text_holding, offset_holding _ (by simp)]
    exact asking
  have fed := PendingInput.feed_of_unterminated attempted
  rw [gather_holding] at fed
  simp only [respond, fed]
  rfl

/-- Once lines are answered, nothing of them is pending. -/
theorem feed_of_answered (accepts : reader.listener.AcceptsIssues)
    (quiet : ∀ observer ∈ reader.observers, observer.ReturnsNormally)
    (answered : ¬ AsksForMore reader (held ++ [line])) :
    (holding reader.dialect held).feed reader (line ++ ['\n']) none =
      ⟨(reading reader (held ++ [line])).1, (reading reader (held ++ [line])).2.map some,
        .fresh⟩ := by
  obtain ⟨_, _, _, _, _, blamed⟩ := exists_answers accepts quiet (held ++ [line])
  have read : reader.read (holding reader.dialect (held ++ [line])).text
      (holding reader.dialect (held ++ [line])).offset = reading reader (held ++ [line]) := by
    rw [text_holding, offset_holding _ (by simp)]
    rfl
  unfold PendingInput.feed
  simp only [gather_holding, read]
  cases result : (reading reader (held ++ [line])).2 with
  | ok literal => rfl
  | error failure =>
      simp only [Except.map]
      split
      · next same => cases same
      · next start finish same => exact absurd ⟨start, finish, result.trans same⟩ answered
      · next same =>
          cases same
          rw [if_pos (blamed _ result)]

theorem respond_of_answered (accepts : reader.listener.AcceptsIssues)
    (quiet : ∀ observer ∈ reader.observers, observer.ReturnsNormally)
    (answered : ¬ AsksForMore reader (held ++ [line])) :
    ∃ said output diagnostics,
      Answers reader (held ++ [line]) said output diagnostics ∧
      respond reader (holding reader.dialect held) line =
        ((reading reader (held ++ [line])).1.filterMap warningOf? ++ [said], .fresh) := by
  obtain ⟨said, output, diagnostics, answers, spoken, _⟩ :=
    exists_answers accepts quiet (held ++ [line])
  have typed : (holding reader.dialect held).text ++ (line ++ ['\n']) =
      Text.terminated (held ++ [line]) := by
    rw [text_holding]
    simp
  refine ⟨said, output, diagnostics, answers, ?_⟩
  simp only [respond, feed_of_answered accepts quiet answered, typed, spoken]

/-- The session from a point at which some lines wait for more. -/
theorem transcript_holding (accepts : reader.listener.AcceptsIssues)
    (quiet : ∀ observer ∈ reader.observers, observer.ReturnsNormally)
    (unfinished : Unfinished reader held) (lines : List Text) :
    ∃ (exchanges : List Exchange) (rest : List Text),
      held ++ lines = exchanges.flatMap Exchange.lines ++ rest ∧
      (∀ exchange ∈ exchanges, IsGroup reader exchange.lines ∧
        Answers reader exchange.lines exchange.answer exchange.output exchange.diagnostics) ∧
      Unfinished reader rest ∧
      prompts held ++ transcript reader (holding reader.dialect held) lines =
        exchanges.flatMap (Exchange.utterances reader) ++ prompts rest ++
          [.prompt !rest.isEmpty, .farewell] := by
  induction lines generalizing held with
  | nil =>
      refine ⟨[], held, by simp, List.forall_mem_nil _, unfinished, ?_⟩
      simp [transcript, awaitsMore_holding]
  | cons line later induction =>
      by_cases asks : AsksForMore reader (held ++ [line])
      · obtain ⟨exchanges, rest, cut, faithful, waiting, said⟩ :=
          induction (unfinished.concat asks)
        refine ⟨exchanges, rest, by simpa using cut, faithful, waiting, ?_⟩
        rw [← said, transcript, respond_of_asksForMore accepts quiet asks, prompts_concat]
        simp [awaitsMore_holding]
      · obtain ⟨said, output, diagnostics, answers, response⟩ :=
          respond_of_answered accepts quiet asks
        obtain ⟨exchanges, rest, cut, faithful, waiting, spoken⟩ :=
          induction (unfinished_nil reader)
        have isGroup := unfinished.isGroup asks
        refine ⟨⟨held ++ [line], said, output, diagnostics⟩ :: exchanges, rest, ?_, ?_, waiting, ?_⟩
        · have laterCut : later = exchanges.flatMap Exchange.lines ++ rest := cut
          rw [laterCut]
          simp
        · exact List.forall_mem_cons.mpr ⟨⟨isGroup, answers⟩, faithful⟩
        · have onward : transcript reader .fresh later = _ := spoken
          rw [transcript, response]
          simp only [onward, List.flatMap_cons, Exchange.utterances, prompts_concat,
            awaitsMore_holding]
          simp

end Answering

section Warning

variable (options : Options) (dialect : Dialect)

/-- The warning that comes before the answer to a literal whose marker used to mean
something else, if it is asked for. -/
def warnings (options : Options) : Except Failure Literal → List Text
  | .ok literal =>
      if options.formerReadings ∧
          FormerReading.defaultThreshold ≤ literal.block.markerLength then
        [(FormerReading.warning .unnamed literal.block).render none]
      else []
  | .error _ => []

theorem quiet_reader :
    ∀ observer ∈ (reader options dialect).observers, observer.ReturnsNormally := by
  have former : (reader options dialect).observers = _ := observers_eq options .unnamed
  rw [former]
  exact FormerReading.returnsNormally_of_mem_observers _

theorem filterMap_warningOf?_reading (lines : List Text) :
    (reading (reader options dialect) lines).1.filterMap warningOf? =
      (warnings options (reading (reader options dialect) lines).2).map .warning := by
  have quiet := quiet_reader options dialect
  have accepts : (reader options dialect).listener.AcceptsIssues :=
    Listener.acceptsIssues_strict
  have read := reading_eq_readLiteral accepts quiet lines
  cases found : readLiteral dialect (Text.terminated lines)
      (PendingInput.indentationWidth dialect (lines.headD [])) with
  | error failure =>
      have failed : reading (reader options dialect) lines = ([], .error failure) :=
        Reader.read_eq_error found
      rw [failed]
      rfl
  | ok literal =>
      have events := @Reader.events_read_eq_observe (reader options dialect) _ _ _ found
      have observed := accepts.hearObservers_eq quiet literal.block
      have issues := issues_observers options .unnamed literal.block
      have sameObservers : (reader options dialect).observers = options.observers .unnamed := rfl
      rw [sameObservers, issues] at observed
      have heard : (reading (reader options dialect) lines).1 = _ :=
        events.trans (congrArg Response.events observed)
      rw [heard, read.trans found]
      simp only [warnings]
      split <;> rfl

end Warning

/-- A session takes in every line, and finishes well.

The lines are cut into groups, each as short as it can be, and lines that still wait when
the input ends.  The prompt tells before each line whether it continues a group.  A group
gets one answer, after the warning that its literal may deserve: the value of the literal,
or a picture of what is malformed in the group, in the text of the group alone, or why there
is no literal.  The lines that wait get no answer.

The output has the prompts, and behind those of a group what its answer puts there.  The
diagnostics are those of the answers, and the warnings have a channel of their own. -/
theorem session_in_groups (options : Options) (dialect : Dialect) (lines : List Text) :
    let reader := Session.reader options dialect
    ∃ (exchanges : List Exchange) (rest : List Text),
      lines = exchanges.flatMap Exchange.lines ++ rest ∧
      (∀ exchange ∈ exchanges, IsGroup reader exchange.lines ∧
        Answers reader exchange.lines exchange.answer exchange.output exchange.diagnostics) ∧
      Unfinished reader rest ∧
      outcome reader lines =
        { output :=
            exchanges.flatMap (fun exchange => prompted exchange.lines ++ exchange.output) ++
              prompted rest ++ (if rest = [] then ">>> ".toList else "... ".toList) ++ ['\n']
          diagnostics := exchanges.flatMap Exchange.diagnostics
          warnings := exchanges.flatMap fun exchange =>
            warnings options (reading reader exchange.lines).2
          completion := .finished 0 } ∧
      let utterances := exchanges.flatMap (Exchange.utterances reader) ++ prompts rest ++
        [.prompt !rest.isEmpty, .farewell]
      transcript reader .fresh lines = utterances ∧
        outcome reader lines =
          { output := utterances.flatMap Utterance.output
            diagnostics := utterances.flatMap Utterance.diagnostics
            warnings := utterances.filterMap Utterance.warning?
            completion := .finished 0 } ∧
        ∀ exchange ∈ exchanges, exchange.utterances reader =
          prompts exchange.lines ++
            (warnings options (reading reader exchange.lines).2).map .warning ++
              [exchange.answer] := by
  intro reader
  have accepts : reader.listener.AcceptsIssues := Listener.acceptsIssues_strict
  obtain ⟨exchanges, rest, cut, faithful, waiting, said⟩ :=
    transcript_holding accepts (quiet_reader options dialect) (unfinished_nil reader) lines
  have spoken : transcript reader .fresh lines = _ := said
  have utterances : ∀ exchange : Exchange, exchange.utterances reader =
      prompts exchange.lines ++
        (warnings options (reading reader exchange.lines).2).map .warning ++
          [exchange.answer] := by
    intro exchange
    rw [Exchange.utterances, filterMap_warningOf?_reading]
  have printed := fun exchange member =>
    (faithful exchange member).2.printed_utterances (utterances exchange)
  have outputs := List.flatMap_congr fun exchange member => (printed exchange member).1
  have diagnostics := List.flatMap_congr fun exchange member => (printed exchange member).2.1
  have warned := List.flatMap_congr fun exchange member => (printed exchange member).2.2
  refine ⟨exchanges, rest, cut, faithful, waiting, ?_, spoken, ?_, fun exchange _ =>
    utterances exchange⟩
  · unfold outcome
    rw [spoken]
    simp only [List.flatMap_append, List.filterMap_append, List.flatMap_assoc,
      List.filterMap_flatMap, outputs, diagnostics, warned, flatMap_output_prompts,
      flatMap_diagnostics_prompts, filterMap_warning?_prompts, flatMap_output_farewell]
    simp [Utterance.diagnostics, Utterance.warning?]
  · unfold outcome
    rw [spoken]

/-- A literal with a warning, a line without a marker, a marker that is too short, stray text
behind a marker, and lines that wait. -/
theorem session_in_groups_with_every_answer :
    let lines := [[' ', '"', '"', '"', '"'], ['a'], ['"', '"', '"', '"'], ['x'], ['"', '"'],
      ['"', '"', '"', '\t', 'x'], ['"', '"', '"'], []]
    let reader := reader .default .standard
    outcome reader lines =
      { output := ">>> ... ... 'a'\n>>> >>> >>> >>> ... ... \n".toList
        diagnostics := "No verbatim string marker at offset 0\n".toList ++
          "A verbatim string marker needs at least ".toList ++
          "3 quotes; found 2 at offset 0\n".toList ++
          "At line 1, column 5: only whitespace ".toList ++
          "may follow the opening marker on its line\n".toList ++
          " >>> \"\"\"\tx\n        \t^ near here\n".toList
        warnings := ["Warning while reading a verbatim string: ".toList ++
          "a 4-quote marker formerly read as ".toList ++ "2 adjacent empty strings; ".toList ++
          "it now begins a verbatim string\n".toList ++
          "  in None: opening marker at offset 1, ".toList ++
          "closing marker at offset 8".toList]
        completion := .finished 0 } ∧
      ∃ (exchanges : List Exchange) (rest : List Text),
        lines = exchanges.flatMap Exchange.lines ++ rest ∧
        (∀ exchange ∈ exchanges, IsGroup reader exchange.lines ∧
          Answers reader exchange.lines exchange.answer exchange.output exchange.diagnostics) ∧
        Unfinished reader rest ∧
        (outcome reader lines).diagnostics = exchanges.flatMap Exchange.diagnostics := by
  intro lines reader
  obtain ⟨exchanges, rest, cut, faithful, waiting, printed, _⟩ :=
    session_in_groups .default .standard lines
  exact ⟨by decide +kernel, exchanges, rest, cut, faithful, waiting,
    congrArg Outcome.diagnostics printed⟩

end Verbatim.Command.Session
