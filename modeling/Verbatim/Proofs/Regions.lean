import Verbatim.Proofs.FirstMarker
import Verbatim.Proofs.Grammar
import Verbatim.Proofs.Lossless
import Verbatim.Proofs.Values
import Verbatim.Listener

/-!
# Regions

A region is the stretch of a text that one attempt takes up.  It begins with the
marker that is attempted, and ends where the search for the next marker goes on.
`Region.Explained` says which event an attempt comes to and where its region
ends, by what scanning and skipping answer at its marker.

A region that is closed ends in its closing marker, and no further quote follows.
This is what `RegionEnd` keeps of it: the text breaks there, so that the search
cannot go on inside a run.  Both ways to find the end, scanning a block and
skipping a malformed one, come to such a place.
-/

namespace Verbatim

/-- The event that an attempt comes to, unless it was aborted. -/
def Attempt.event? : Attempt → Option Event
  | .literal found => some (.literal found)
  | .misindented malformation block => some (.misindented malformation block)
  | .badOpening malformation => some (.badOpening malformation)
  | .unterminated malformation => some (.unterminated malformation)
  | .aborted _ => none

/-- A stretch of a text and the event that reports on it.  Without a stop the
rest of the text cannot be trusted. -/
structure Region where
  start : Nat
  stop? : Option Nat
  event : Event

inductive Region.Explained (dialect : Dialect) (text : Text) : Region → Prop where
  | literal {start stop : Nat} {block : Block} {value : Text} :
      scan dialect text start = .ok block →
      block.value = .ok value →
      block.finish = stop →
      Explained dialect text ⟨start, some stop, .literal ⟨value, block⟩⟩
  | misindented {start stop line : Nat} {block : Block} {position : Int} :
      scan dialect text start = .ok block →
      block.value = .error (.malformed (.misindented line position)) →
      block.finish = stop →
      Explained dialect text ⟨start, some stop, .misindented (.misindented line position) block⟩
  | badOpening {start stop : Nat} {position : Int} :
      scan dialect text start = .error (.malformed (.strayText position)) →
      skip dialect text start = .ok stop →
      Explained dialect text ⟨start, some stop, .badOpening (.strayText position)⟩
  | badOpeningUnclosed {start : Nat} {position : Int} :
      scan dialect text start = .error (.malformed (.strayText position)) →
      skip dialect text start = .error (.malformed (.unterminated start text.length)) →
      Explained dialect text ⟨start, none, .badOpening (.strayText position)⟩
  | unterminated {start : Nat} :
      scan dialect text start = .error (.malformed (.unterminated start text.length)) →
      Explained dialect text ⟨start, none, .unterminated (.unterminated start text.length)⟩

/-- The place where a region that begins at `start` may end. -/
structure RegionEnd (text : Text) (start stop : Nat) : Prop where
  forward : start < stop
  within : stop ≤ text.length
  broken : RunBreak text stop

theorem RegionEnd.of_drop_eq
    {text front following : Text} {quote : Char} {start length : Nat}
    (shape : text.drop start = front ++ List.replicate length quote ++ following)
    (positive : 0 < length)
    (boundary : following.head? ≠ some quote) :
    RegionEnd text start (start + front.length + length) := by
  obtain ⟨more, rfl⟩ : ∃ more, length = more + 1 := ⟨length - 1, by omega⟩
  have lengths := congrArg List.length shape
  simp only [List.length_drop, List.length_append, List.length_replicate] at lengths
  have last : text.drop start =
      (front ++ List.replicate more quote) ++ quote :: following := by
    rw [shape, List.replicate_succ']
    simp
  have broken := runBreak_of_drop_eq last boundary
  rw [List.length_append, List.length_replicate, ← Nat.add_assoc, Nat.add_assoc] at broken
  constructor
  · omega
  · omega
  · exact broken

theorem exists_regionEnd_of_scan_eq_ok
    {dialect : Dialect} {text : Text} {start : Nat} {block : Block}
    (scanned : scan dialect text start = .ok block) :
    ∃ stop : Nat, block.finish = stop ∧ RegionEnd text start stop := by
  obtain ⟨layout, following, shape, boundary, rfl⟩ := scan_eq_ok_iff.mp scanned
  obtain ⟨front, ending⟩ := layout.exists_eq_append_marker
  rw [ending] at shape
  have reached := RegionEnd.of_drop_eq shape layout.positive_length boundary
  refine ⟨start + front.length + layout.length, ?_, reached⟩
  simp only [Layout.block, ending, List.length_append, layout.length_marker]
  omega

namespace MarkerAt

variable {dialect : Dialect} {text : Text} {start : Nat} {quote : Char} {length : Nat}
variable {rest : Text}

theorem skip_cases (marker : MarkerAt dialect text start quote length rest) :
    skip dialect text start = .error (.malformed (.unterminated start text.length)) ∨
      ∃ stop : Nat, skip dialect text start = .ok stop ∧ RegionEnd text start stop := by
  obtain ⟨opening, later, lines⟩ := Text.exists_splitOn_eq_cons rest
  rcases exists_first_closing_or_stays dialect quote length later with stays | found
  · left
    exact marker.skip_of_stays lines stays
  · obtain ⟨before, line, after, indentation, rfl, stays, closes⟩ := found
    obtain ⟨following, ending, boundary, _⟩ := marker.exists_eq_of_closing lines closes
    have shape : text.drop start =
        (List.replicate length quote ++ opening ++ '\n' :: Text.terminated before ++
          indentation) ++ List.replicate length quote ++ following := by
      rw [marker.shape, ending]
      simp
    right
    refine ⟨_, ?_, RegionEnd.of_drop_eq shape marker.positive_length boundary⟩
    rw [marker.skip_of_closing lines stays closes]
    apply congrArg Except.ok
    simp
    omega

end MarkerAt

/-- Scanned lines are terminated, so that nothing but their indentation can keep
a block from having a value. -/
theorem value_of_scan_eq_ok
    {dialect : Dialect} {text : Text} {start : Nat} {block : Block}
    (scanned : scan dialect text start = .ok block) :
    (∃ value, block.value = .ok value) ∨
      ∃ line position, block.value = .error (.malformed (.misindented line position)) := by
  obtain ⟨layout, following, shape, _, rfl⟩ := scan_eq_ok_iff.mp scanned
  apply Block.value_cases
  intro line member
  rcases (layout.mirrors_of_mem_lines shape member).terminated with feed | returned
  · simp [feed]
  · simp [returned]

/-- The attempt at a scanned block is never the last, and its region ends with the
block. -/
theorem exists_event_of_scan_eq_ok
    {dialect : Dialect} {text : Text} {start : Nat} {block : Block}
    (scanned : scan dialect text start = .ok block) :
    ∃ (stop : Nat) (event : Event), block.finish = stop ∧ RegionEnd text start stop ∧
      Region.Explained dialect text ⟨start, some stop, event⟩ ∧
      (Attempt.ofBlock block).event? = some event ∧
      (Attempt.ofBlock block).isLast = false := by
  obtain ⟨stop, finished, reached⟩ := exists_regionEnd_of_scan_eq_ok scanned
  rcases value_of_scan_eq_ok scanned with ⟨value, valued⟩ | ⟨line, position, rejected⟩
  · have attempted : Attempt.ofBlock block = .literal ⟨value, block⟩ := by
      simp only [Attempt.ofBlock, valued]
    rw [attempted]
    exact ⟨stop, .literal ⟨value, block⟩, finished, reached,
      .literal scanned valued finished, rfl, rfl⟩
  · have attempted : Attempt.ofBlock block =
        .misindented (.misindented line position) block := by
      simp only [Attempt.ofBlock, rejected]
    rw [attempted]
    exact ⟨stop, .misindented (.misindented line position) block, finished, reached,
      .misindented scanned rejected finished, rfl, rfl⟩

end Verbatim
