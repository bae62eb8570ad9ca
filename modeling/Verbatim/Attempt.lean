import Verbatim.Scanner
import Verbatim.Value

/-!
# Attempts

To find every literal of a text, each run of three or more quote characters is
taken to open one.  What becomes of it is an attempt, and the next attempt begins
where this one ended: after a closing marker if one was found, even if the
literal was malformed.  Nothing after a block without a closing marker can be
trusted, so such a block is the last attempt.
-/

namespace Verbatim

/-- A literal: its value, and the block it was captured in. -/
structure Literal where
  value : Text
  block : Block
  deriving DecidableEq, Repr

/-- Read the literal whose opening marker stands at the offset. -/
def readLiteral (dialect : Dialect) (text : Text) (offset : Int) :
    Except Failure Literal := do
  let block ← scan dialect text offset
  let value ← block.value
  .ok ⟨value, block⟩

/-- What became of an opening marker. -/
inductive Attempt where
  | literal (literal : Literal)
  | misindented (malformation : Malformation) (block : Block)
  | badOpening (malformation : Malformation)
  | unterminated (malformation : Malformation)
  /-- Reading failed although the literal was not found malformed. -/
  | aborted (failure : Failure)
  deriving DecidableEq, Repr

/-- What became of a block that was captured. -/
def Attempt.ofBlock (block : Block) : Attempt :=
  match block.value with
  | .ok value => .literal ⟨value, block⟩
  | .error (.malformed malformation) => .misindented malformation block
  | .error failure => .aborted failure

def Attempt.isLast : Attempt → Bool
  | .unterminated _ | .aborted _ => true
  | _ => false

/-- An attempt that ends after it began leaves less text than there was. -/
theorem length_sub_toNat_lt {dialect : Dialect} {text : Text} {offset : Nat}
    {opening : Opening} {finish : Int}
    (found : nextOpening? dialect.quotes offset (text.drop offset) = some opening)
    (forward : 0 ≤ opening.start → opening.start < finish) :
    text.length - finish.toNat < text.length - offset := by
  have bounds := bounds_of_nextOpening?_eq_some found
  have moved := forward (by omega)
  simp only [Opening.stop, minimumMarkerLength, List.length_drop] at bounds
  omega

def attemptsFrom (dialect : Dialect) (text : Text) (offset : Nat) : List Attempt :=
  match _found : nextOpening? dialect.quotes offset (text.drop offset) with
  | none => []
  | some opening =>
      match _scanned : scan dialect text opening.start with
      | .ok block =>
          let attempt := Attempt.ofBlock block
          if attempt.isLast then [attempt]
          else attempt :: attemptsFrom dialect text block.finish.toNat
      | .error (.malformed (.strayText position)) =>
          .badOpening (.strayText position) ::
            match _skipped : skip dialect text opening.start with
            | .ok finish => attemptsFrom dialect text finish.toNat
            | .error (.malformed (.unterminated _ _)) => []
            | .error failure => [.aborted failure]
      | .error (.malformed (.unterminated start finish)) =>
          [.unterminated (.unterminated start finish)]
      | .error failure => [.aborted failure]
termination_by text.length - offset
decreasing_by
  · exact length_sub_toNat_lt _found fun nonneg => lt_finish_of_scan_eq_ok nonneg _scanned
  · exact length_sub_toNat_lt _found fun nonneg => lt_of_skip_eq_ok nonneg _skipped

/-- The attempts at all literals of a text, in order. -/
def attempts (dialect : Dialect) (text : Text) : List Attempt :=
  attemptsFrom dialect text 0

end Verbatim
