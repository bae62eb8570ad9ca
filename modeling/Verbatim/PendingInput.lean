import Verbatim.Reader

/-!
# Pending input

At a prompt, running out of text inside a verbatim string only means that there is
more to type.  Lines are gathered until the reader no longer finds the block
unterminated.  Nothing here waits: the caller decides whether to ask for more or
to give up.

After a literal, and after every failure that the input itself is to blame for,
nothing is pending.  A failure of the machinery leaves the lines where they are.
-/

namespace Verbatim

/-- Whether the input is to blame for a failure, rather than a position outside of
it, an observer or a warning. -/
def Failure.blamesInput : Failure → Bool
  | .outOfRange _ | .unimplementedObserver | .raisedWarning _ => false
  | _ => true

/-- The lines that do not yet make a whole literal, and where in them the opening
marker stands. -/
structure PendingInput where
  lines : List Text
  offset : Int
  deriving DecidableEq, Repr

/-- What came of feeding a line.  The result is a literal, or nothing when more
lines are needed. -/
structure Feeding where
  events : List Event
  result : Except Failure (Option Literal)
  next : PendingInput

namespace PendingInput

def fresh : PendingInput where
  lines := []
  offset := 0

/-- Whether some lines wait for more. -/
def awaitsMore (pending : PendingInput) : Bool :=
  !pending.lines.isEmpty

def text (pending : PendingInput) : Text :=
  pending.lines.flatten

/-- The width of the whitespace that a line begins with. -/
def indentationWidth (dialect : Dialect) (line : Text) : Nat :=
  (line.takeWhile dialect.isWhitespace).length

/-- The pending input with one more line.  The offset says where in a first line
the opening marker stands, by default after its whitespace; it means nothing in
later lines. -/
def gather (pending : PendingInput) (dialect : Dialect) (line : Text)
    (offset? : Option Int) : PendingInput where
  lines := pending.lines ++ [line]
  offset :=
    if pending.lines = [] then offset?.getD (indentationWidth dialect line)
    else pending.offset

/-- Feed the next line, with its line break if it has one. -/
def feed (pending : PendingInput) (reader : Reader) (line : Text)
    (offset? : Option Int) : Feeding :=
  let gathered := pending.gather reader.dialect line offset?
  let (events, result) := reader.read gathered.text gathered.offset
  match result with
  | .ok literal => ⟨events, .ok (some literal), fresh⟩
  | .error (.malformed (.unterminated _ _)) => ⟨events, .ok none, gathered⟩
  | .error failure =>
      ⟨events, .error failure, if failure.blamesInput then fresh else gathered⟩

end PendingInput

end Verbatim
