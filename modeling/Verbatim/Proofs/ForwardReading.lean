import Verbatim.Proofs.Composition

/-!
# Reading looks forward only

What stands in front of a marker has no say in what is read there.  Behind another text,
scanning, skipping and reading answer as they do without it, with all positions moved by the
length of that text.  Nothing is asked of the text in front: where it ends in quotes, a
marker is still measured from its offset on.

A reader answers alike if its observers and its listener do.  `Observer.IsRelative` says that
of what an observer reports and of how it fails, and `Listener.IsRelative` of what a listener
raises.
-/

namespace Verbatim

section Skipping

theorem skip_eq_error_of_find_eq_error
    {dialect : Dialect} {text : Text} {offset : Int} {failure : Failure}
    (missing : Opening.find dialect text offset = .error failure) :
    skip dialect text offset = .error failure := by
  unfold skip Scanner.start
  rw [missing]
  rfl

/-- A skip behind another text answers the same, moved. -/
theorem skip_prepend (dialect : Dialect) (front text : Text) (offset : Nat) :
    skip dialect (front ++ text) (offset + front.length : Nat) =
      ((skip dialect text offset).map (· + (front.length : Int))).mapError
        (Failure.move front.length) := by
  rcases skip_verdicts dialect text offset with
    ⟨lacks, _⟩ | ⟨_, unterminated⟩ | ⟨finish, _, skipped⟩
  · obtain ⟨failure, missing⟩ : ∃ failure, Opening.find dialect text offset = .error failure := by
      rcases find_of_lacksMarker lacks with missing | ⟨found, short⟩
      · exact ⟨_, missing⟩
      · exact ⟨_, short⟩
    rw [skip_eq_error_of_find_eq_error missing,
      skip_eq_error_of_find_eq_error (Opening.find_prepend front missing)]
    rfl
  · have whole : (((front ++ text).length : Nat) : Int) = text.length + front.length := by
      rw [List.length_append, Nat.add_comm, Int.natCast_add]
    rw [unterminated, skip_prepend_of_unterminated unterminated, whole, Int.natCast_add]
    rfl
  · rw [skipped, skip_prepend_of_ok skipped]
    rfl

end Skipping

/-- A literal behind another text is read as the same, moved. -/
theorem readLiteral_prepend (dialect : Dialect) (front text : Text) (offset : Nat) :
    readLiteral dialect (front ++ text) (offset + front.length : Nat) =
      ((readLiteral dialect text offset).map (Literal.move front.length)).mapError
        (Failure.move front.length) := by
  have behind := scan_prepend dialect front text offset
  cases scanned : scan dialect text offset with
  | error failure =>
      rw [scanned] at behind
      rw [readLiteral_eq_error_of_scan scanned, readLiteral_eq_error_of_scan behind]
      rfl
  | ok block =>
      rw [scanned] at behind
      have moved := block.value_move front.length
      cases valued : block.value with
      | error failure =>
          rw [valued] at moved
          rw [readLiteral_eq_error_of_value scanned valued,
            readLiteral_eq_error_of_value behind moved]
          rfl
      | ok value =>
          rw [valued] at moved
          rw [readLiteral_eq_ok scanned valued, readLiteral_eq_ok behind moved]
          rfl

section Observing

theorem Observer.isRelative_unimplemented : Observer.unimplemented.IsRelative :=
  fun _ _ => rfl

namespace Reader

variable {reader : Reader}

theorem observe_move (fair : reader.listener.IsRelative)
    (relative : ∀ observer ∈ reader.observers, observer.IsRelative)
    (block : Block) (distance : Int) :
    reader.observe (block.move distance) = (reader.observe block).move distance := by
  have same : reader.observers.map (Observer.displaced distance) = reader.observers :=
    congrArg Reader.observers (displaced_of_isRelative relative distance)
  have heard := fair.hearObservers_move block distance reader.observers
  rw [same] at heard
  exact heard

/-- A reader behind another text answers the same, moved. -/
theorem read_prepend (fair : reader.listener.IsRelative)
    (relative : ∀ observer ∈ reader.observers, observer.IsRelative)
    (front text : Text) (offset : Nat) :
    reader.read (front ++ text) (offset + front.length : Nat) =
      ((reader.read text offset).1.map (Event.move front.length),
        ((reader.read text offset).2.map (Literal.move front.length)).mapError
          (Failure.move front.length)) := by
  have behind := readLiteral_prepend reader.dialect front text offset
  unfold read
  cases found : readLiteral reader.dialect text offset with
  | error failure =>
      rw [found] at behind
      rw [behind]
      rfl
  | ok literal =>
      rw [found] at behind
      have heard := observe_move fair relative literal.block front.length
      rw [behind]
      simp only [Except.map, Except.mapError, Literal.move, heard, Response.move]
      cases (reader.observe literal.block).failure? with
      | none => rfl
      | some failure => rfl

end Reader

end Observing

/-- Whatever stands in front of a text, scanning, skipping and reading behind it answer as
in the text alone, with every position moved by the length of what stands in front.
Observers and listeners that do not fail have no say in the literal or the failure, and
those that do not care about places report the same, moved. -/
theorem reading_looks_forward_only (reader : Reader) (front text : Text) (offset : Nat) :
    scan reader.dialect (front ++ text) (offset + front.length : Nat) =
        ((scan reader.dialect text offset).map (Block.move front.length)).mapError
          (Failure.move front.length) ∧
      skip reader.dialect (front ++ text) (offset + front.length : Nat) =
        ((skip reader.dialect text offset).map (· + (front.length : Int))).mapError
          (Failure.move front.length) ∧
      (reader.listener.AcceptsIssues →
        (∀ observer ∈ reader.observers, observer.ReturnsNormally) →
        (reader.read (front ++ text) (offset + front.length : Nat)).2 =
          ((reader.read text offset).2.map (Literal.move front.length)).mapError
            (Failure.move front.length)) ∧
      (reader.listener.IsRelative → (∀ observer ∈ reader.observers, observer.IsRelative) →
        reader.read (front ++ text) (offset + front.length : Nat) =
          ((reader.read text offset).1.map (Event.move front.length),
            ((reader.read text offset).2.map (Literal.move front.length)).mapError
              (Failure.move front.length))) := by
  refine ⟨scan_prepend reader.dialect front text offset,
    skip_prepend reader.dialect front text offset, ?_, ?_⟩
  · intro accepts quiet
    rw [Reader.read_eq_readLiteral accepts quiet, Reader.read_eq_readLiteral accepts quiet]
    exact readLiteral_prepend reader.dialect front text offset
  · intro fair relative
    exact Reader.read_prepend fair relative front text offset

/-- Behind one more quote, at an offset inside the run, a literal is read with its warning,
an observer that is not implemented still fails, and behind a carriage return a stray
character is still found. -/
theorem reading_looks_forward_only_inside_run :
    let text := ['"', '"', '"', '"', '\n', 'a', '\n', '"', '"', '"', '"']
    let stray := ['"', '"', '"', 'x', '\n', '"', '"', '"']
    let former := FormerReading.observer .unnamed 4
    let reader : Reader := ⟨.standard, [former], .tolerant⟩
    let failing : Reader := ⟨.standard, [former, .unimplemented], .tolerant⟩
    let block : Block := ⟨4, [], [⟨['a'], .lineFeed, 6⟩], [], '"', 1, 12⟩
    reader.listener.AcceptsIssues ∧ failing.listener.IsRelative ∧
      (∀ observer ∈ reader.observers, observer.ReturnsNormally) ∧
      (∀ observer ∈ failing.observers, observer.IsRelative) ∧
      scan .standard ('"' :: text) 1 = .ok block ∧
      (reader.read ('"' :: text) 1).2 = .ok ⟨['a'], block⟩ ∧
      failing.read ('"' :: text) 1 =
        ([.issue (FormerReading.warning .unnamed block)], .error .unimplementedObserver) ∧
      failing.read ('\r' :: stray) 1 = ([], .error (.malformed (.strayText 4))) ∧
      skip .standard ('\r' :: stray) 1 = .ok 9 := by
  intro text stray former reader failing block
  have accepts : reader.listener.AcceptsIssues := Listener.acceptsIssues_tolerant
  have fair : failing.listener.IsRelative := Listener.acceptsIssues_tolerant.isRelative
  have quiet : ∀ observer ∈ reader.observers, observer.ReturnsNormally := by
    intro observer member
    rw [List.mem_singleton.mp member]
    exact Observer.returnsNormally_reporting _
  have relative : ∀ observer ∈ failing.observers, observer.IsRelative := by
    intro observer member
    rcases List.mem_cons.mp member with rfl | later
    · exact FormerReading.isRelative_observer .unnamed 4
    · rw [List.mem_singleton.mp later]
      exact Observer.isRelative_unimplemented
  let before : Block := ⟨4, [], [⟨['a'], .lineFeed, 5⟩], [], '"', 0, 11⟩
  have scanAlone : scan reader.dialect text (0 : Nat) = .ok before := by decide +kernel
  have readAlone : (reader.read text (0 : Nat)).2 = .ok ⟨['a'], before⟩ := by decide +kernel
  have failingAlone : failing.read text (0 : Nat) =
      ([.issue (FormerReading.warning .unnamed before)], .error .unimplementedObserver) := by
    decide +kernel
  have strayAlone : failing.read stray (0 : Nat) =
      ([], .error (.malformed (.strayText 3))) := by
    decide +kernel
  have skipAlone : skip reader.dialect stray (0 : Nat) = .ok 8 := by decide +kernel
  obtain ⟨scanned, _, result, _⟩ := reading_looks_forward_only reader ['"'] text 0
  obtain ⟨_, skipped, _, _⟩ := reading_looks_forward_only reader ['\r'] stray 0
  obtain ⟨_, _, _, whole⟩ := reading_looks_forward_only failing ['"'] text 0
  obtain ⟨_, _, _, strayWhole⟩ := reading_looks_forward_only failing ['\r'] stray 0
  rw [scanAlone] at scanned
  rw [readAlone] at result
  rw [failingAlone] at whole
  rw [strayAlone] at strayWhole
  rw [skipAlone] at skipped
  exact ⟨accepts, fair, quiet, relative, scanned, result accepts quiet, whole fair relative,
    strayWhole fair relative, skipped⟩

end Verbatim
