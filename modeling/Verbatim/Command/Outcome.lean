import Verbatim.Command.Folder
import Verbatim.Command.Options
import Verbatim.Failure

/-!
# Outcomes

What a call of the command leaves behind: its output, its diagnostics, the warnings
it issued, and how it ended.
-/

namespace Verbatim.Command

/-- What kept the command from doing its work. -/
inductive Fault where
  /-- There is nothing to read at the path. -/
  | file (fault : FileFault) (path : Text)
  /-- The switch for the whitespace mode was left without a value. -/
  | noWhitespace
  | dialect (fault : DialectFault)
  | reading (failure : Failure)
  deriving DecidableEq, Repr

def Fault.message : Fault → Text
  | .file fault path => fault.message path
  | .noWhitespace => "unhashable type: 'list'".toList
  | .dialect fault => fault.message
  | .reading failure => failure.message

/-- How a call of the command ended. -/
inductive Completion where
  /-- The work was done; the status says how it went. -/
  | finished (status : Nat)
  /-- There was no work to do, because of what the command line says. -/
  | stopped (status : Nat)
  | faulted (fault : Fault)
  deriving DecidableEq, Repr

/-- What a call of the command leaves behind. -/
structure Outcome where
  output : Text
  diagnostics : Text
  warnings : List Text
  completion : Completion
  deriving DecidableEq, Repr

def Outcome.silent (completion : Completion) : Outcome where
  output := []
  diagnostics := []
  warnings := []
  completion := completion

/-- The outcome of a command line that asks for nothing that could be done. -/
def Stop.outcome : Stop → Outcome
  | .help => { Outcome.silent (.stopped 0) with output := helpText }
  | .usageError problem =>
      { Outcome.silent (.stopped 2) with diagnostics := refusal problem }

end Verbatim.Command
