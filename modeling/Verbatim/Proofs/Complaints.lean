import Verbatim.Proofs.Explanations
import Verbatim.Proofs.Extraction
import Verbatim.Proofs.Misindentation
import Verbatim.Proofs.Trouble

/-!
# Complaints about malformations

A malformation is explained by where it lies and a picture of it, and
`explain_points_at_position` says that the caret of the picture stands below the character
that reading complained about.

The character may be a line end, which is not shown.  Then the caret stands right behind
the line.  It stands no further to the right, because no carriage return can stand directly
before it that would be taken off with the line end: before stray text there are blanks and
quotes only, before the place where an indentation ends there is a part of the indentation,
and a marker that is not closed is shown itself.
-/

namespace Verbatim

section Places

variable {dialect : Dialect} {text : Text} {start : Nat} {position : Int}

/-- Quotes and blanks stand before stray text on its line. -/
theorem StrayAt.exists_retained (stray : StrayAt dialect text start position)
    (noReturn : '\r' ∉ dialect.quotes) :
    ∃ place : Nat, position = place ∧ place < text.length ∧ text.Retains place := by
  obtain ⟨place, rfl, _, inside, _⟩ := stray.exists_place
  refine ⟨place, rfl, inside, ?_⟩
  obtain ⟨quote, length, rest, index, marker, ⟨⟨char, here, _⟩, blank⟩, reached⟩ := stray
  have begins : rest.firstLine.withoutFinalReturn <+: rest :=
    (Text.withoutFinalReturn_prefix _).trans (List.takeWhile_prefix _)
  generalize rest.firstLine.withoutFinalReturn = onLine at here blank begins
  obtain ⟨later, rfl⟩ := begins
  have within := (List.getElem?_eq_some_iff.mp here).1
  have parts : text = text.take start ++ (List.replicate length quote ++ onLine.take index) ++
      (onLine.drop index ++ later) := by
    have split := marker.eq_take_append
    rw [← List.take_append_drop index onLine] at split
    refine split.trans ?_
    simp only [List.append_assoc]
  have noReturnBefore : '\r' ∉ List.replicate length quote ++ onLine.take index := by
    intro member
    rcases List.mem_append.mp member with quoted | among
    · exact marker.quote_ne noReturn (List.eq_of_mem_replicate quoted).symm
    · exact carriageReturn_not_mem_of_blank blank among
  have nonempty : List.replicate length quote ++ onLine.take index ≠ [] := by
    simp [Nat.ne_of_gt marker.positive_length]
  have retained := Text.retains_of_eq_append parts nonempty noReturnBefore
  have before : (text.take start ++
      (List.replicate length quote ++ onLine.take index)).length = place := by
    have inText := marker.offset_lt_length
    simp only [List.length_append, List.length_take, List.length_replicate]
    omega
  rwa [before] at retained

/-- A marker that is not closed is shown itself. -/
theorem UnclosedAt.retains (unclosed : UnclosedAt dialect text start)
    (noReturn : '\r' ∉ dialect.quotes) (noFeed : '\n' ∉ dialect.quotes) : text.Retains start := by
  obtain ⟨quote, length, rest, opening, later, marker, _⟩ := unclosed
  right
  exact ⟨quote, marker.getElem?_offset, marker.quote_ne noReturn, marker.quote_ne noFeed⟩

/-- A part of the indentation stands before a misindentation on its line. -/
theorem exists_retained_of_misindented {block : Block} {index : Nat}
    (scanned : scan dialect text start = .ok block)
    (rejected : block.value = .error (.malformed (.misindented index position))) :
    ∃ place : Nat, position = place ∧ place < text.length ∧ text.Retains place := by
  obtain ⟨before, line, after, common, lines, rfl, _, _, longest, rfl⟩ :=
    Block.value_eq_misindented_iff.mp rejected
  have member : line ∈ block.lines := by simp [lines]
  have present := (unbroken_and_ended_of_scan_eq_ok scanned line member).2
  obtain ⟨layout, following, shape, _, rfl⟩ := scan_eq_ok_iff.mp scanned
  obtain ⟨front, rest, whole, lineOffset, _⟩ := layout.exists_eq_append_of_mem_lines shape member
  obtain ⟨onward, agreed⟩ := longest.beginsLeft
  have parts : text = front ++ ('\n' :: common) ++
      (onward ++ line.terminator.characters ++ rest) := by
    rw [whole, Line.characters, ← agreed]
    simp
  have noReturn : '\r' ∉ '\n' :: common := by
    have blank : '\r' ∉ common := fun among =>
      carriageReturn_not_mem_of_blank layout.indentationBlank (longest.beginsRight.subset among)
    simp [blank]
  have retained := Text.retains_of_eq_append parts (List.cons_ne_nil _ _) noReturn
  refine ⟨_, ?_, ?_, retained⟩
  · rw [lineOffset, List.length_append, List.length_cons]
    omega
  · have ended : 0 < line.terminator.characters.length := by
      cases ending : line.terminator with
      | absent => exact absurd ending present
      | lineFeed | carriageReturnLineFeed => simp [Terminator.characters]
    have behind : 0 < (onward ++ line.terminator.characters ++ rest).length := by
      rw [List.length_append, List.length_append]
      omega
    have lengths := (congrArg List.length parts).trans List.length_append
    omega

/-- No carriage return that could be taken for a line end stands before a malformation. -/
theorem exists_retained_of_readLiteral {malformation : Malformation}
    (noReturn : '\r' ∉ dialect.quotes) (noFeed : '\n' ∉ dialect.quotes)
    (failed : readLiteral dialect text start = .error (.malformed malformation)) :
    ∃ place : Nat, malformation.position = place ∧ place < text.length ∧ text.Retains place := by
  cases malformation with
  | strayText position =>
      have stray := scan_eq_stray_iff.mp (scan_eq_error_of_readLiteral failed (by simp))
      exact stray.exists_retained noReturn
  | unterminated begins finish =>
      obtain ⟨unclosed, rfl, _⟩ :=
        scan_eq_unterminated_iff.mp (scan_eq_error_of_readLiteral failed (by simp))
      exact ⟨start, rfl, unclosed.offset_lt_length, unclosed.retains noReturn noFeed⟩
  | misindented line position =>
      obtain ⟨block, scanned, rejected⟩ := readLiteral_eq_misindented_iff.mp failed
      exact exists_retained_of_misindented scanned rejected

end Places

namespace Reader

variable {reader : Reader} {text : Text} {offset : Int} {failure : Failure}

/-- A failure at an issue is one that the listener raises. -/
theorem exists_raisedAt?_of_hearIssues {listener : Listener} {issues : List Issue}
    (failed : (listener.hearIssues issues).failure? = some failure) :
    ∃ issue, listener.raisedAt? issue = some failure := by
  induction issues with
  | nil => cases failed
  | cons issue later induction =>
      rcases Response.failure?_andThen failed with raised | others
      · unfold Listener.hearIssue at raised
        split at raised
        · next other same => exact ⟨issue, same.trans raised⟩
        · cases raised
      · exact induction others

/-- A failure of looking at a block is the failure of an observer, or one that the listener
raises at an issue. -/
theorem exists_of_hearObservers {listener : Listener} {observers : List Observer}
    {block : Block} (failed : (listener.hearObservers block observers).failure? = some failure) :
    (∃ observer ∈ observers, (observer.observe block).failure? = some failure) ∨
      ∃ issue, listener.raisedAt? issue = some failure := by
  induction observers with
  | nil => cases failed
  | cons observer later induction =>
      rcases Response.failure?_andThen failed with first | others
      · rcases Response.failure?_andThen first with raised | own
        · exact .inr (exists_raisedAt?_of_hearIssues raised)
        · exact .inl ⟨observer, List.mem_cons_self, own⟩
      · rcases induction others with ⟨found, member, same⟩ | raised
        · exact .inl ⟨found, List.mem_cons_of_mem _ member, same⟩
        · exact .inr raised

/-- A failure that is none of an observer or of the listener is one of reading the literal. -/
theorem readLiteral_eq_error_of_read
    (apart : ∀ observer ∈ reader.observers, ∀ block,
      (observer.observe block).failure? ≠ some failure)
    (unraised : ∀ issue, reader.listener.raisedAt? issue ≠ some failure)
    (failed : (reader.read text offset).2 = .error failure) :
    readLiteral reader.dialect text offset = .error failure := by
  cases found : readLiteral reader.dialect text offset with
  | error other =>
      rw [read_eq_error found] at failed
      exact failed
  | ok literal =>
      rw [read, found] at failed
      simp only at failed
      split at failed
      · next other raised =>
          cases failed
          rcases exists_of_hearObservers raised with ⟨observer, member, same⟩ | ⟨issue, same⟩
          · exact absurd same (apart observer member literal.block)
          · exact absurd same (unraised issue)
      · cases failed

end Reader

theorem Malformation.unbroken_rule (malformation : Malformation) : '\n' ∉ malformation.rule := by
  cases malformation with
  | strayText | unterminated | misindented => exact of_decide_eq_true rfl

theorem Source.Heads.unbroken {source : Source} {row : Int} {column : Nat} {message header : Text}
    (heads : source.Heads row column message header)
    (fileNameUnbroken : ∀ name, source.fileName? = some name → '\n' ∉ name)
    (messageUnbroken : '\n' ∉ message) : '\n' ∉ header := by
  have rowUnbroken := Numeral.lineFeed_not_mem_signed row
  have columnUnbroken := Numeral.lineFeed_not_mem_decimal (column + 1)
  cases fileName : source.fileName? with
  | none =>
      rw [heads.unnamed fileName]
      simp [rowUnbroken, columnUnbroken, messageUnbroken]
  | some name =>
      rw [heads.named name fileName]
      simp [rowUnbroken, columnUnbroken, messageUnbroken, fileNameUnbroken name fileName]

/-- Whatever malformation reading comes to, it is explained in three lines.

The first says where it lies, the row and the column counted from the first row and from one,
and which rule it breaks.  The second shows the line that it lies on.  In the third there is
one caret.  It stands below the character at the position of the malformation, or right behind
the line if that character is not shown. -/
theorem explain_points_at_position {reader : Reader} {source : Source} {offset : Nat}
    {malformation : Malformation}
    (noReturn : '\r' ∉ reader.dialect.quotes) (noFeed : '\n' ∉ reader.dialect.quotes)
    (apart : ∀ observer ∈ reader.observers, ∀ block,
      (observer.observe block).failure? ≠ some (.malformed malformation))
    (unraised : ∀ issue, reader.listener.raisedAt? issue ≠ some (.malformed malformation))
    (fileNameUnbroken : ∀ name, source.fileName? = some name → '\n' ∉ name)
    (failed : (reader.read source.content offset).2 = .error (.malformed malformation)) :
    ∃ (place column : Nat) (row : Int) (header shown lower : Text),
      malformation.position = place ∧ place < source.content.length ∧
      source.LiesAt place row column ∧ shown.Trims (source.line row) ∧
      (source.explain malformation).splitOn '\n' =
        [header, " >>> ".toList ++ shown, lower] ∧
      (source.fileName? = none →
        header = "At line ".toList ++ Numeral.signed row ++ ", column ".toList ++
          Numeral.decimal (column + 1) ++ ": ".toList ++ malformation.rule) ∧
      (∀ name, source.fileName? = some name →
        header = name ++ ": line ".toList ++ Numeral.signed row ++ ", column ".toList ++
          Numeral.decimal (column + 1) ++ ": ".toList ++ malformation.rule) ∧
      lower.Underlines (" >>> ".toList ++ shown) (5 + column) 1 "near here".toList ∧
      column ≤ shown.length ∧
      (column < shown.length → shown[column]? = source.content[place]?) := by
  obtain ⟨place, position, inside, retains⟩ := exists_retained_of_readLiteral noReturn noFeed
    (Reader.readLiteral_eq_error_of_read apart unraised failed)
  obtain ⟨row, front, located, lies, shown⟩ :=
    Source.exists_shown (Nat.le_of_lt inside) retains
  obtain ⟨header, lower, heads, explained, underlines⟩ :=
    Source.exists_explain_eq position located
  have reached : front.length ≤ (source.line row).withoutLineEnd.length := by
    rw [shown, List.length_append]
    omega
  rw [Nat.min_eq_left reached] at underlines
  refine ⟨place, front.length, row, header, _, lower, position, inside, lies,
    Text.trims_withoutLineEnd _, ?_, heads.unnamed, heads.named, underlines, reached, ?_⟩
  · have shownUnbroken := Text.lineFeed_not_mem_withoutLineEnd lies.oneLine
    have upperUnbroken : '\n' ∉ " >>> ".toList ++ (source.line row).withoutLineEnd := by
      simp [shownUnbroken]
    rw [explained, List.splitOn_append_cons_self_of_not_mem
        (heads.unbroken fileNameUnbroken malformation.unbroken_rule),
      List.splitOn_append_cons_self_of_not_mem upperUnbroken,
      List.splitOn_eq_singleton (underlines.unbroken (by decide))]
  · intro within
    obtain ⟨ending, whole⟩ := (source.line row).withoutLineEnd_isPrefix
    have same := lies.character
    rw [← whole, Int.toNat_natCast, List.getElem?_append_left within] at same
    exact same

/-- The indentation ceases at the carriage return that ends a line, and the caret stands right
behind the tab that is shown of the line. -/
theorem explain_points_at_position_carriage_return :
    let text : Text :=
      ['x', '\n', '"', '"', '"', '\n', '\t', '\r', '\n', '\t', '\t', '"', '"', '"']
    let reader : Reader := ⟨.standard, [.unimplemented], .strict⟩
    let source : Source := ⟨text, some "page".toList, 7⟩
    (reader.read text 2).2 = .error (.malformed (.misindented 0 7)) ∧
      source.explain (.misindented 0 7) =
        "page: line 9, column 2: every non-blank line must begin ".toList ++
          "with the closing marker's indentation".toList ++
          "\n >>> \t\n     \t^ near here".toList ∧
      (Source.ofText text).explain (.misindented 0 7) =
        "At line 3, column 2: every non-blank line must begin ".toList ++
          "with the closing marker's indentation".toList ++
          "\n >>> \t\n     \t^ near here".toList ∧
      ∃ (place column : Nat) (row : Int) (header shown lower : Text),
        (7 : Int) = place ∧ place < text.length ∧
        source.LiesAt place row column ∧ shown.Trims (source.line row) ∧
        (source.explain (.misindented 0 7)).splitOn '\n' =
          [header, " >>> ".toList ++ shown, lower] ∧
        header = "page".toList ++ ": line ".toList ++ Numeral.signed row ++
          ", column ".toList ++ Numeral.decimal (column + 1) ++ ": ".toList ++
            (Malformation.misindented 0 7).rule ∧
        lower.Underlines (" >>> ".toList ++ shown) (5 + column) 1 "near here".toList ∧
        column ≤ shown.length ∧ (column < shown.length → shown[column]? = text[place]?) := by
  intro text reader source
  have noReturn : '\r' ∉ reader.dialect.quotes := by decide
  have noFeed : '\n' ∉ reader.dialect.quotes := by decide
  have apart : ∀ observer ∈ reader.observers, ∀ block,
      (observer.observe block).failure? ≠ some (.malformed (.misindented 0 7)) := by
    intro observer member block same
    rw [List.mem_singleton.mp member] at same
    cases same
  have unraised : ∀ issue,
      reader.listener.raisedAt? issue ≠ some (.malformed (.misindented 0 7)) := by
    rintro issue ⟨⟩
  have fileNameUnbroken : ∀ name, source.fileName? = some name → '\n' ∉ name := by
    rintro name ⟨⟩
    decide
  have failed : (reader.read source.content (2 : Nat)).2 =
      .error (.malformed (.misindented 0 7)) := by
    decide +kernel
  obtain ⟨place, column, row, header, shown, lower, position, inside, lies, trims, lines, _, named,
    underlines⟩ :=
    explain_points_at_position noReturn noFeed apart unraised fileNameUnbroken failed
  exact ⟨failed, by decide +kernel, by decide +kernel, place, column, row, header, shown, lower,
    position, inside, lies, trims, lines, named _ rfl, underlines⟩

end Verbatim
