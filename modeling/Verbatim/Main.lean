import Verbatim.Command.Plan

/-!
# The command

Reads the file or the lines that the plan asks for, and prints.
-/

namespace Verbatim.Command

/-- Print an outcome and answer with its status. -/
def Outcome.present (outcome : Outcome) : IO UInt32 := do
  IO.eprint (String.ofList outcome.diagnostics)
  IO.print (String.ofList outcome.output)
  for text in outcome.warnings do
    IO.eprintln (String.ofList text)
  match outcome.completion with
  | .finished status | .stopped status => return status.toUInt32
  | .faulted fault =>
      IO.eprintln (String.ofList fault.message)
      return 1

def Utterance.present (utterance : Utterance) : IO Unit := do
  IO.print (String.ofList utterance.output)
  IO.eprint (String.ofList utterance.diagnostics)
  if let some text := utterance.warning? then
    IO.eprintln (String.ofList text)
  (← IO.getStdout).flush

/-- Hold a session until no more lines are typed. -/
partial def converse (reader : Reader) (pending : PendingInput) : IO Unit := do
  (Utterance.prompt pending.awaitsMore).present
  let typed := (← (← IO.getStdin).getLine).toList
  if typed.isEmpty then
    Utterance.farewell.present
  else
    let line := if typed.getLast? = some '\n' then typed.dropLast else typed
    let (utterances, next) := Session.respond reader pending line
    utterances.forM Utterance.present
    converse reader next

/-- The content of the file at a path, or why there is none. -/
def readAt (path : Text) : IO (Except FileFault Text) := do
  if '\x00' ∈ path then return .error .nullCharacter
  try
    let content ← IO.FS.readFile (String.ofList path)
    return .ok content.toList
  catch
    | .noFileOrDirectory _ _ _ => return .error .missing
    | .inappropriateType none _ _ => return .error .isFolder
    | .inappropriateType (some _) _ _ => return .error .notFolder
    | .invalidArgument _ _ _ => return .error .tooLong
    | other => throw other

/-- Do what the command line asks for and answer with a status. -/
def perform (arguments : List Text) : IO UInt32 := do
  match Plan.ofArguments arguments with
  | .settled outcome => outcome.present
  | .extract options path =>
      (extractionOutcome options path (← readAt path)).present
  | .converse reader =>
      converse reader .fresh
      return 0

end Verbatim.Command

def main (arguments : List String) : IO UInt32 :=
  Verbatim.Command.perform (arguments.map String.toList)
