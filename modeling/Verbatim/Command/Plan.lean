import Verbatim.Command.Session

/-!
# What a command line amounts to

Without a path, or when a session is asked for, the command holds a session;
otherwise it extracts the literals of a file.  A dialect without quotes is refused
before a session begins, but a file that cannot be read is noticed first.
-/

namespace Verbatim.Command

/-- What a command line amounts to. -/
inductive Plan where
  | settled (outcome : Outcome)
  | extract (options : Options) (path : Text)
  | converse (reader : Reader)

/-- The plan for a command line. -/
def Plan.ofArguments (arguments : List Text) : Plan :=
  match Options.ofArguments arguments with
  | .error stop => .settled stop.outcome
  | .ok options =>
      match options.interactive, options.path? with
      | false, some path => .extract options path
      | _, _ =>
          match options.dialect with
          | .ok dialect => .converse (Session.reader options dialect)
          | .error fault => .settled (.silent (.faulted fault))

/-- The outcome of an extraction, given what came of reading the file. -/
def extractionOutcome (options : Options) (path : Text) : Except FileFault Text → Outcome
  | .error fault => .silent (.faulted (.file fault path))
  | .ok document => extraction options path document

/-- The lines of an input without their line feeds.  A last line may lack its line
feed, but an input that ends in one has no further line. -/
def inputLines (input : Text) : List Text :=
  let lines := input.lines
  let typed := if lines.getLast? = some [] then lines.dropLast else lines
  typed.map fun line => if line.getLast? = some '\n' then line.dropLast else line

/-- The outcome of a call, given what comes of reading the file at a path, and what
is typed. -/
def run (readAt : Text → Except FileFault Text) (input : Text) (arguments : List Text) :
    Outcome :=
  match Plan.ofArguments arguments with
  | .settled outcome => outcome
  | .extract options path => extractionOutcome options path (readAt path)
  | .converse reader => Session.outcome reader (inputLines input)

end Verbatim.Command
