import Verbatim.Proofs.Gathering
import Verbatim.Proofs.WholeLines

/-!
# Feeding line by line

Input that is fed in chunks of whole lines is read again from its beginning with
every chunk.  `feedings_agree_with_read` says that this comes to the same as reading
the concatenation in one go: every chunk asks for more up to the one that holds the
closing line, and that one gives the answer.

Each chunk sees the input gathered so far, which is a front of the whole text and
ends in a line feed.  What a scan finds in such a front is known, and so it remains to
find the chunk that holds the closing line.
-/

namespace Verbatim

namespace PendingInput

/-- Chunks of whole lines are fed while nothing is pending, and the marker is looked
for at an offset of the first chunk. -/
structure StartsAt (pending : PendingInput) (dialect : Dialect)
    (inputs : List (Text × Option Int)) (offset : Nat) : Prop where
  idle : pending.awaitsMore = false
  whole : ∀ chunk ∈ inputs.map Prod.fst, chunk.EndsLine
  begins : ∃ first offset? later, inputs = (first, offset?) :: later ∧
    offset?.getD (indentationWidth dialect first) = offset ∧ offset < first.length

/-- Of some feedings, as many as counted ask for more and the next one answers. -/
def AnsweredAfter (feedings : List Feeding) (count : Nat) (events : List Event)
    (result : Except Failure (Option Literal)) : Prop :=
  ∃ asking answer rest, feedings = asking ++ answer :: rest ∧ asking.length = count ∧
    (∀ feeding ∈ asking, feeding.AsksForMore) ∧
    answer.events = events ∧ answer.result = result

namespace StartsAt

section Fronts

variable {dialect : Dialect} {pending : PendingInput} {inputs : List (Text × Option Int)}
variable {offset count : Nat}

theorem lines_eq_nil (starts : StartsAt pending dialect inputs offset) :
    pending.lines = [] := by
  simpa [awaitsMore] using starts.idle

/-- What is gathered after some of the chunks. -/
theorem gatherAll_take (starts : StartsAt pending dialect inputs offset)
    (positive : 0 < count) :
    pending.gatherAll dialect (inputs.take count) =
      ⟨(inputs.map Prod.fst).take count, offset⟩ := by
  obtain ⟨first, offset?, later, rfl, begins, _⟩ := starts.begins
  obtain ⟨more, rfl⟩ : ∃ more, count = more + 1 := ⟨count - 1, by omega⟩
  rw [List.take_succ_cons, gatherAll_of_eq_nil starts.lines_eq_nil, begins, List.map_cons,
    List.take_succ_cons, List.map_take]

theorem endsLine_take (starts : StartsAt pending dialect inputs offset)
    (positive : 0 < count) : Text.EndsLine ((inputs.map Prod.fst).take count).flatten := by
  obtain ⟨first, offset?, later, rfl, _⟩ := starts.begins
  obtain ⟨more, rfl⟩ : ∃ more, count = more + 1 := ⟨count - 1, by omega⟩
  apply Text.EndsLine.flatten
  · simp
  · intro chunk member
    exact starts.whole chunk (List.mem_of_mem_take member)

theorem offset_lt_take (starts : StartsAt pending dialect inputs offset)
    (positive : 0 < count) : offset < ((inputs.map Prod.fst).take count).flatten.length := by
  obtain ⟨first, offset?, later, rfl, _, inside⟩ := starts.begins
  obtain ⟨more, rfl⟩ : ∃ more, count = more + 1 := ⟨count - 1, by omega⟩
  rw [List.map_cons, List.take_succ_cons, List.flatten_cons, List.length_append]
  exact Nat.lt_of_lt_of_le inside (Nat.le_add_right _ _)

theorem length_pos (starts : StartsAt pending dialect inputs offset) : 0 < inputs.length := by
  obtain ⟨first, offset?, later, rfl, _⟩ := starts.begins
  exact Nat.zero_lt_succ later.length

/-- Some of the chunks hold a block that all of them hold, or they end before its
closing line. -/
theorem scan_take_of_ok (starts : StartsAt pending dialect inputs offset)
    (noLineFeed : '\n' ∉ dialect.quotes) {block : Block}
    (scanned : scan dialect (inputs.map Prod.fst).flatten offset = .ok block)
    (positive : 0 < count) :
    (block.finish ≤ ((inputs.map Prod.fst).take count).flatten.length ∧
        scan dialect ((inputs.map Prod.fst).take count).flatten offset = .ok block) ∨
      ((inputs.map Prod.fst).take count).flatten.length ≤ block.closingLine ∧
        scan dialect ((inputs.map Prod.fst).take count).flatten offset =
          .error (.malformed (.unterminated offset
            ((inputs.map Prod.fst).take count).flatten.length)) := by
  rw [flatten_eq_take_append_drop (inputs.map Prod.fst) count] at scanned
  exact scan_front_of_ok (starts.endsLine_take positive) noLineFeed
    (starts.offset_lt_take positive) scanned

/-- Of the chunks that hold a block in the end, one holds its closing line, and the
chunks before that one leave the block unclosed. -/
theorem exists_closing_chunk (starts : StartsAt pending dialect inputs offset)
    (noLineFeed : '\n' ∉ dialect.quotes) {block : Block}
    (scanned : scan dialect (inputs.map Prod.fst).flatten offset = .ok block) :
    ∃ count, count < inputs.length ∧
      ((inputs.map Prod.fst).take count).flatten.length ≤ block.closingLine ∧
      block.finish ≤ ((inputs.map Prod.fst).take (count + 1)).flatten.length ∧
      (∀ number, 0 < number → number ≤ count → ∃ start finish,
        scan dialect ((inputs.map Prod.fst).take number).flatten offset =
          .error (.malformed (.unterminated start finish))) ∧
      scan dialect ((inputs.map Prod.fst).take (count + 1)).flatten offset = .ok block := by
  obtain ⟨begins, ends⟩ := closingLine_of_scan_eq_ok scanned
  have fits := finish_le_length_of_scan_eq_ok scanned
  have positive : 0 < block.finish.toNat := by omega
  have reached : block.finish.toNat ≤ (inputs.map Prod.fst).flatten.length := by omega
  obtain ⟨count, inside, before, behind⟩ := exists_take_reaching positive reached
  -- A front that ends before the block does leaves it unclosed, and only such a front.
  have early : ∀ number, 0 < number → number ≤ count →
      ((inputs.map Prod.fst).take number).flatten.length ≤ block.closingLine ∧
        ∃ start finish, scan dialect ((inputs.map Prod.fst).take number).flatten offset =
          .error (.malformed (.unterminated start finish)) := by
    intro number positive fewer
    have shorter := length_flatten_take_le (inputs.map Prod.fst) fewer
    rcases starts.scan_take_of_ok noLineFeed scanned positive with
      ⟨within, _⟩ | ⟨before, unclosed⟩
    · omega
    · exact ⟨before, _, _, unclosed⟩
  refine ⟨count, by simpa using inside, ?_, by omega, ?_, ?_⟩
  · cases count with
    | zero =>
        rw [List.take_zero, List.flatten_nil, List.length_nil]
        omega
    | succ fewer => exact (early (fewer + 1) (Nat.succ_pos fewer) (Nat.le_refl _)).1
  · intro number positive fewer
    exact (early number positive fewer).2
  · have some_chunk : 0 < count + 1 := Nat.succ_pos count
    rcases starts.scan_take_of_ok noLineFeed scanned some_chunk with
      ⟨_, closed⟩ | ⟨beyond, _⟩
    · exact closed
    · omega

end Fronts

section Answers

variable {reader : Reader} {pending : PendingInput} {inputs : List (Text × Option Int)}
variable {offset count : Nat}

/-- If every front of so many chunks leaves a block unclosed, the next chunk is the
first that may get an answer, and it is fed to all of them. -/
theorem exists_answer (starts : StartsAt pending reader.dialect inputs offset)
    (inside : count < inputs.length)
    (awaits : ∀ number, 0 < number → number ≤ count → ∃ start finish,
      scan reader.dialect ((inputs.map Prod.fst).take number).flatten offset =
        .error (.malformed (.unterminated start finish))) :
    ∃ (asking rest : List Feeding) (held : PendingInput) (line : Text) (offset? : Option Int),
      asking.length = count ∧ (∀ feeding ∈ asking, feeding.AsksForMore) ∧
      held.gather reader.dialect line offset? =
        ⟨(inputs.map Prod.fst).take (count + 1), offset⟩ ∧
      pending.feedings reader inputs = asking ++ held.feed reader line offset? :: rest := by
  have fronts : ∀ front, front <+: inputs.take count → front ≠ [] → ∃ start finish,
      attempt reader (pending.gatherAll reader.dialect front) =
        .error (.malformed (.unterminated start finish)) := by
    intro front within nonempty
    have width : front.length ≤ count :=
      Nat.le_trans within.length_le (List.length_take_le count inputs)
    have shape : front = inputs.take front.length := by
      have short := List.prefix_iff_eq_take.mp within
      rwa [List.take_take, Nat.min_eq_left width] at short
    have positive : 0 < front.length := List.length_pos_iff.mpr nonempty
    rw [shape, starts.gatherAll_take positive]
    obtain ⟨start, finish, unterminated⟩ := awaits front.length positive width
    exact ⟨start, finish, readLiteral_eq_error_of_scan unterminated⟩
  obtain ⟨asking, length, asks, rest⟩ := exists_asking fronts (inputs.drop count)
  rw [List.take_append_drop, List.drop_eq_getElem_cons inside] at rest
  refine ⟨asking, _, pending.gatherAll reader.dialect (inputs.take count),
    inputs[count].1, inputs[count].2, ?_, asks, ?_, rest⟩
  · rw [length, List.length_take]
    omega
  · rw [← gatherAll_append_singleton, ← starts.gatherAll_take (Nat.succ_pos count),
      ← List.take_append_getElem inside]

/-- What the first chunk answers that is fed to enough text. -/
theorem answeredAfter {events : List Event}
    {result : Except Failure (Option Literal)}
    (starts : StartsAt pending reader.dialect inputs offset) (inside : count < inputs.length)
    (awaits : ∀ number, 0 < number → number ≤ count → ∃ start finish,
      scan reader.dialect ((inputs.map Prod.fst).take number).flatten offset =
        .error (.malformed (.unterminated start finish)))
    (answers : ∀ (held : PendingInput) (line : Text) (offset? : Option Int),
      attempt reader (held.gather reader.dialect line offset?) =
        readLiteral reader.dialect ((inputs.map Prod.fst).take (count + 1)).flatten offset →
      (held.feed reader line offset?).events = events ∧
        (held.feed reader line offset?).result = result) :
    AnsweredAfter (pending.feedings reader inputs) count events result := by
  obtain ⟨asking, rest, held, line, offset?, length, asks, gathered, fed⟩ :=
    starts.exists_answer inside awaits
  have answered := answers held line offset? (by rw [gathered]; rfl)
  exact ⟨asking, _, rest, fed, length, asks, answered⟩

theorem exists_answeredAfter_of_ok (starts : StartsAt pending reader.dialect inputs offset)
    (noLineFeed : '\n' ∉ reader.dialect.quotes) (accepts : reader.listener.AcceptsIssues)
    (quiet : ∀ observer ∈ reader.observers, observer.ReturnsNormally) {literal : Literal}
    (found : readLiteral reader.dialect (inputs.map Prod.fst).flatten offset = .ok literal) :
    ∃ count,
      ((inputs.map Prod.fst).take count).flatten.length < literal.block.finish ∧
      literal.block.finish ≤ ((inputs.map Prod.fst).take (count + 1)).flatten.length ∧
      AnsweredAfter (pending.feedings reader inputs) count
        (reader.observe literal.block).events (.ok (some literal)) := by
  obtain ⟨scanned, valued⟩ := readLiteral_eq_ok_iff.mp found
  obtain ⟨count, inside, before, behind, awaits, closed⟩ :=
    starts.exists_closing_chunk noLineFeed scanned
  have ends := (closingLine_of_scan_eq_ok scanned).2
  refine ⟨count, by omega, behind, starts.answeredAfter inside awaits ?_⟩
  intro held line offset? attempted
  rw [readLiteral_eq_ok_iff.mpr ⟨closed, valued⟩] at attempted
  rw [feed_of_ok accepts quiet attempted]
  exact ⟨rfl, rfl⟩

theorem exists_answeredAfter_of_misindented
    (starts : StartsAt pending reader.dialect inputs offset)
    (noLineFeed : '\n' ∉ reader.dialect.quotes) {line : Nat} {position : Int}
    (rejected : readLiteral reader.dialect (inputs.map Prod.fst).flatten offset =
      .error (.malformed (.misindented line position))) :
    ∃ block count, scan reader.dialect (inputs.map Prod.fst).flatten offset = .ok block ∧
      ((inputs.map Prod.fst).take count).flatten.length ≤ block.closingLine ∧
      block.finish ≤ ((inputs.map Prod.fst).take (count + 1)).flatten.length ∧
      AnsweredAfter (pending.feedings reader inputs) count []
        (.error (.malformed (.misindented line position))) := by
  obtain ⟨block, scanned, valued⟩ := readLiteral_eq_misindented_iff.mp rejected
  obtain ⟨count, inside, before, behind, awaits, closed⟩ :=
    starts.exists_closing_chunk noLineFeed scanned
  refine ⟨block, count, scanned, before, behind, starts.answeredAfter inside awaits ?_⟩
  intro held chunk offset? attempted
  rw [readLiteral_eq_misindented_iff.mpr ⟨block, closed, valued⟩] at attempted
  exact feed_of_error attempted (by simp)

/-- What keeps a marker from opening a block shows in the first chunk. -/
theorem answeredAfter_zero (starts : StartsAt pending reader.dialect inputs offset)
    (noLineFeed : '\n' ∉ reader.dialect.quotes) {failure : Failure}
    (failed : scan reader.dialect (inputs.map Prod.fst).flatten offset = .error failure)
    (final : ∀ start finish, failure ≠ .malformed (.unterminated start finish)) :
    AnsweredAfter (pending.feedings reader inputs) 0 [] (.error failure) := by
  have early : scan reader.dialect ((inputs.map Prod.fst).take 1).flatten offset =
      .error failure := by
    rw [flatten_eq_take_append_drop (inputs.map Prod.fst) 1] at failed
    rcases scan_append_of_endsLine (starts.endsLine_take Nat.one_pos) noLineFeed
        (starts.offset_lt_take Nat.one_pos) ((inputs.map Prod.fst).drop 1).flatten with
      same | ⟨_, unterminated | ⟨block, closed, _⟩⟩
    · exact same.symm.trans failed
    · rw [unterminated] at failed
      cases failed
      exact absurd rfl (final _ _)
    · rw [closed] at failed
      cases failed
  apply starts.answeredAfter starts.length_pos
  · intro number positive none_left
    omega
  · intro held line offset? attempted
    rw [readLiteral_eq_error_of_scan early] at attempted
    exact feed_of_error attempted final

/-- Without a closing line no chunk gets an answer, and all of them stay pending. -/
theorem asksForMore_of_unterminated (starts : StartsAt pending reader.dialect inputs offset)
    (noLineFeed : '\n' ∉ reader.dialect.quotes) {start finish : Int}
    (unterminated : scan reader.dialect (inputs.map Prod.fst).flatten offset =
      .error (.malformed (.unterminated start finish))) :
    (∀ feeding ∈ pending.feedings reader inputs, feeding.AsksForMore) ∧
      (pending.feedings reader inputs).getLast?.map Feeding.next =
        some ⟨inputs.map Prod.fst, offset⟩ := by
  have some_chunk := starts.length_pos
  have fronts : ∀ number, 0 < number → number ≤ inputs.length - 1 → ∃ start finish,
      scan reader.dialect ((inputs.map Prod.fst).take number).flatten offset =
        .error (.malformed (.unterminated start finish)) := by
    intro number positive _
    rw [flatten_eq_take_append_drop (inputs.map Prod.fst) number] at unterminated
    obtain ⟨stop, early⟩ := scan_front_of_unterminated (starts.endsLine_take positive)
      noLineFeed (starts.offset_lt_take positive) unterminated
    exact ⟨start, stop, early⟩
  obtain ⟨asking, rest, held, line, offset?, length, asks, gathered, fed⟩ :=
    starts.exists_answer (Nat.sub_one_lt_of_lt some_chunk) fronts
  rw [Nat.sub_add_cancel some_chunk, List.take_of_length_le (by simp)] at gathered
  -- The last chunk is fed to all the others, and asks for more as they do.
  have last : held.feed reader line offset? =
      ⟨[], .ok none, ⟨inputs.map Prod.fst, offset⟩⟩ := by
    rw [← gathered]
    apply feed_of_unterminated
    rw [gathered]
    exact readLiteral_eq_error_of_scan unterminated
  have nothing : rest = [] := by
    have lengths := length_feedings reader pending inputs
    rw [fed, List.length_append, List.length_cons, length] at lengths
    exact List.eq_nil_of_length_eq_zero (by omega)
  rw [fed, last, nothing]
  constructor
  · intro feeding member
    rcases List.mem_append.mp member with early | final
    · exact asks feeding early
    · rw [List.mem_singleton.mp final]
      exact ⟨rfl, rfl⟩
  · rw [List.getLast?_concat]
    rfl

end Answers

end StartsAt

end PendingInput

/-- Feeding chunks of whole lines one by one comes to what reading all of them at once
answers.  A literal and a misindented line are answered by the chunk that holds the
closing line, any other failure by the first chunk, and an unterminated block by
none.  The observers are heard where the literal is. -/
theorem feedings_agree_with_read {reader : Reader} {pending : PendingInput}
    {inputs : List (Text × Option Int)} {offset : Nat}
    (starts : pending.StartsAt reader.dialect inputs offset)
    (noLineFeed : '\n' ∉ reader.dialect.quotes) (accepts : reader.listener.AcceptsIssues)
    (quiet : ∀ observer ∈ reader.observers, observer.ReturnsNormally) :
    let chunks := inputs.map Prod.fst
    let reading := reader.read chunks.flatten offset
    let feedings := pending.feedings reader inputs
    (∀ literal, reading.2 = .ok literal → ∃ count,
      (chunks.take count).flatten.length < literal.block.finish ∧
      literal.block.finish ≤ (chunks.take (count + 1)).flatten.length ∧
      PendingInput.AnsweredAfter feedings count reading.1 (.ok (some literal))) ∧
    (∀ line position, reading.2 = .error (.malformed (.misindented line position)) →
      ∃ block count, scan reader.dialect chunks.flatten offset = .ok block ∧
        (chunks.take count).flatten.length ≤ block.closingLine ∧
        block.finish ≤ (chunks.take (count + 1)).flatten.length ∧
        PendingInput.AnsweredAfter feedings count []
          (.error (.malformed (.misindented line position)))) ∧
    (∀ failure, reading.2 = .error failure →
      (∀ line position, failure ≠ .malformed (.misindented line position)) →
      (∀ start finish, failure ≠ .malformed (.unterminated start finish)) →
      PendingInput.AnsweredAfter feedings 0 [] (.error failure)) ∧
    (∀ start finish, reading.2 = .error (.malformed (.unterminated start finish)) →
      feedings.length = inputs.length ∧ (∀ feeding ∈ feedings, feeding.AsksForMore) ∧
        feedings.getLast?.map Feeding.next = some ⟨chunks, offset⟩) := by
  intro chunks reading feedings
  have answer : reading.2 = readLiteral reader.dialect chunks.flatten offset :=
    Reader.read_eq_readLiteral accepts quiet offset
  rw [answer]
  refine ⟨?_, ?_, ?_, ?_⟩
  · intro literal found
    have events : reading.1 = (reader.observe literal.block).events :=
      Reader.events_read_eq_observe found
    rw [events]
    exact starts.exists_answeredAfter_of_ok noLineFeed accepts quiet found
  · intro line position rejected
    exact starts.exists_answeredAfter_of_misindented noLineFeed rejected
  · intro failure failed aligned final
    exact starts.answeredAfter_zero noLineFeed
      (scan_eq_error_of_readLiteral failed aligned) final
  · intro start finish failed
    exact ⟨PendingInput.length_feedings reader pending inputs,
      starts.asksForMore_of_unterminated noLineFeed
        (scan_eq_error_of_readLiteral failed (by simp))⟩

/-- The marker stands behind the whitespace of the first chunk, whatever offset was
left over or comes later, and the third chunk holds the closing line. -/
theorem feedings_agree_with_read_third_chunk :
    let inputs : List (Text × Option Int) :=
      [([' ', ' ', '"', '"', '"', '\n'], none),
        ([' ', ' ', 'a', '\r', '\n', ' ', ' ', 'b', '\n'], some 5),
        ([' ', ' ', '"', '"', '"', ' ', 'x', '\n'], none), (['y', '\n'], none)]
    let reader : Reader := ⟨.standard, [FormerReading.observer .unnamed 3], .tolerant⟩
    let pending : PendingInput := ⟨[], 7⟩
    let literal : Literal :=
      ⟨['a', '\r', '\n', 'b'],
        ⟨3, [], [⟨[' ', ' ', 'a'], .carriageReturnLineFeed, 6⟩, ⟨[' ', ' ', 'b'], .lineFeed, 11⟩],
          [' ', ' '], '"', 2, 20⟩⟩
    pending.StartsAt reader.dialect inputs 2 ∧ '\n' ∉ reader.dialect.quotes ∧
      reader.listener.AcceptsIssues ∧ (∀ observer ∈ reader.observers, observer.ReturnsNormally) ∧
      reader.read (inputs.map Prod.fst).flatten 2 =
        ([.issue (FormerReading.warning .unnamed literal.block)], .ok literal) ∧
      PendingInput.AnsweredAfter (pending.feedings reader inputs) 2
        [.issue (FormerReading.warning .unnamed literal.block)] (.ok (some literal)) := by
  intro inputs reader pending literal
  have starts : pending.StartsAt reader.dialect inputs 2 :=
    { idle := rfl
      whole := by decide
      begins := ⟨_, _, _, rfl, by decide, by decide⟩ }
  have noLineFeed : '\n' ∉ reader.dialect.quotes := by decide
  have accepts : reader.listener.AcceptsIssues := Listener.acceptsIssues_tolerant
  have quiet : ∀ observer ∈ reader.observers, observer.ReturnsNormally := by
    intro observer member
    rw [List.mem_singleton.mp member]
    exact Observer.returnsNormally_reporting _
  have found : readLiteral reader.dialect (inputs.map Prod.fst).flatten 2 = .ok literal := by
    decide +kernel
  have read : reader.read (inputs.map Prod.fst).flatten 2 =
      ([.issue (FormerReading.warning .unnamed literal.block)], .ok literal) :=
    Prod.ext (Reader.events_read_eq_observe found)
      ((Reader.read_eq_readLiteral accepts quiet 2).trans found)
  refine ⟨starts, noLineFeed, accepts, quiet, read, ?_⟩
  obtain ⟨count, before, behind, answered⟩ :=
    (feedings_agree_with_read starts noLineFeed accepts quiet).1 literal (congrArg Prod.snd read)
  have third : count = 2 := by
    by_contra other
    rcases Nat.lt_or_gt_of_ne other with fewer | more
    · have early := length_flatten_take_le (inputs.map Prod.fst)
        (show count + 1 ≤ 2 by omega)
      have two : ((inputs.map Prod.fst).take 2).flatten.length = 15 := rfl
      simp only [literal] at behind
      omega
    · have late := length_flatten_take_le (inputs.map Prod.fst)
        (show 3 ≤ count by omega)
      have three : ((inputs.map Prod.fst).take 3).flatten.length = 23 := rfl
      simp only [literal] at before
      omega
  rw [third, show (reader.read (inputs.map Prod.fst).flatten ((2 : Nat) : Int)).1 = _ from
    congrArg Prod.fst read] at answered
  exact answered

end Verbatim
