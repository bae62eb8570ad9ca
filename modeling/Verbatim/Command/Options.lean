import Verbatim.Command.Usage
import Verbatim.Dialect
import Verbatim.Text.DecimalDigit

/-!
# The command line

Arguments are first told apart, all of them, and then heeded from left to right.

A switch may be abbreviated as long as only one long spelling begins that way.
Its value is the next argument, or is attached with an equals sign; a double dash
is no value, and one that is attached leaves the switch without one.  Short
switches may be written together behind one dash, with or without an equals sign
behind the first.  After a double dash everything is a plain argument; before it,
so is everything that does not begin with a dash, and besides the dash alone, what
looks like a negative number, and what holds a blank without being a switch.

The first plain argument is the path.  The double dash itself is no argument when
it stands before or directly after the path.  Whatever is left over is refused
when all else has been heeded, and asking for help takes effect where it stands.
-/

namespace Verbatim.Command

/-- What the command line asks for.  There are no quotes, or there is no whitespace
mode, when the switch for it was left without a value. -/
structure Options where
  path? : Option Text
  interactive : Bool
  json : Bool
  indent : Bool
  quotes : Text
  whitespace? : Option Whitespace
  formerReadings : Bool
  strict : Bool
  deriving DecidableEq, Repr

/-- What an empty command line asks for. -/
def Options.default : Options where
  path? := none
  interactive := false
  json := false
  indent := false
  quotes := Dialect.standard.quotes
  whitespace? := some Dialect.standard.whitespace
  formerReadings := true
  strict := false

/-- Why there are no options: help was asked for, or the command line is at
fault. -/
inductive Stop where
  | help
  | usageError (problem : Text)
  deriving DecidableEq, Repr

inductive Switch where
  | help
  | interactive
  | json
  | indent
  | quote
  | whitespace
  | noCompat
  | strict
  deriving DecidableEq, Repr

namespace Switch

/-- The spellings of all switches, in the order in which ambiguities list them. -/
def spellings : List (Text × Switch) :=
  [("-h".toList, .help), ("--help".toList, .help), ("-i".toList, .interactive),
    ("--interactive".toList, .interactive), ("--json".toList, .json),
    ("--indent".toList, .indent), ("--quote".toList, .quote),
    ("--whitespace".toList, .whitespace), ("--no-compat".toList, .noCompat),
    ("--strict".toList, .strict)]

def ofSpelling? (spelling : Text) : Option Switch :=
  spellings.lookup spelling

/-- All spellings of a switch, as problems name it. -/
def title (switch : Switch) : Text :=
  ['/'].intercalate ((spellings.filter fun entry => entry.2 = switch).map Prod.fst)

def takesValue : Switch → Bool
  | .quote | .whitespace => true
  | _ => false

def problem (switch : Switch) (text : Text) : Stop :=
  .usageError ("argument ".toList ++ switch.title ++ ": ".toList ++ text)

/-- The problem that a switch without a value has a text attached. -/
def ignored (switch : Switch) (attached : Text) : Stop :=
  switch.problem ("ignored explicit argument ".toList ++ quoted attached)

end Switch

inductive Argument where
  | plain (text : Text)
  | doubleDash
  /-- A switch under its full spelling, and what is attached to it within the
  argument: the text behind an equals sign, or the characters behind a short
  switch. -/
  | switch (switch : Switch) (spelling : Text) (attached? : Option Text)
  /-- Something that begins like a switch and is none. -/
  | unknown (text : Text)
  deriving DecidableEq, Repr

/-- Cut a text at its first equals sign, if it has one. -/
def cutAssignment (text : Text) : Text × Option Text :=
  match text.dropWhile (· ≠ '=') with
  | [] => (text, none)
  | _ :: assigned => (text.takeWhile (· ≠ '='), some assigned)

/-- Digits, or digits around a decimal point with at least one behind it. -/
def isDecimal (text : Text) : Bool :=
  match text.dropWhile Text.isDecimalDigit with
  | [] => !text.isEmpty
  | point :: fraction =>
      point = '.' && !fraction.isEmpty && fraction.all Text.isDecimalDigit

/-- Whether a text that begins with a dash looks like a negative number.  One line
feed may end it. -/
def looksNegative (text : Text) : Bool :=
  let number := text.drop 1
  isDecimal number || (number.getLast? = some '\n' && isDecimal number.dropLast)

/-- The ways to read an argument that begins with a dash as a switch: by
abbreviation when two dashes begin it, and else by a short switch with more
characters behind it. -/
def readings (text : Text) : List (Text × Switch × Option Text) :=
  if ['-', '-'] <+: text then
    let (abbreviation, attached?) := cutAssignment text
    Switch.spellings.filterMap fun (spelling, switch) =>
      if abbreviation <+: spelling then some (spelling, switch, attached?) else none
  else
    Switch.spellings.filterMap fun (spelling, switch) =>
      if spelling = text.take 2 then some (spelling, switch, some (text.drop 2))
      else if text <+: spelling then some (spelling, switch, none)
      else none

/-- Tell what an argument before any double dash is. -/
def Argument.classify (text : Text) : Except Stop Argument :=
  if ¬ ['-'] <+: text then .ok (.plain text)
  else
    match Switch.ofSpelling? text with
    | some named => .ok (.switch named text none)
    | none =>
        if text = ['-'] then .ok (.plain text)
        else
          let (spelling, attached?) := cutAssignment text
          match attached?, Switch.ofSpelling? spelling with
          | some attached, some named => .ok (.switch named spelling (some attached))
          | _, _ =>
              match readings text with
              | [(spelling, named, attached?)] => .ok (.switch named spelling attached?)
              | [] =>
                  if looksNegative text ∨ ' ' ∈ text then .ok (.plain text)
                  else .ok (.unknown text)
              | several =>
                  .error (.usageError ("ambiguous option: ".toList ++ text ++
                    " could match ".toList ++ ", ".toList.intercalate (several.map Prod.fst)))

def classifyAll : List Text → Except Stop (List Argument)
  | [] => .ok []
  | text :: later =>
      if text = ['-', '-'] then .ok (.doubleDash :: later.map .plain)
      else do
        let argument ← Argument.classify text
        let arguments ← classifyAll later
        .ok (argument :: arguments)

/-- The switches that are written together: a short one and what is attached to
it, character by character.  The switch that comes before a character which is no
short switch is the one that refuses it, with all that follows. -/
def cluster (first : Switch) : Text → Except Stop (List Switch)
  | [] => .ok [first]
  | char :: later =>
      match Switch.ofSpelling? ['-', char] with
      | none => .error (first.ignored (char :: later))
      | some next => (cluster next later).map (first :: ·)

/-- Options as far as they have been heeded, and what was left over. -/
structure Draft where
  options : Options
  leftOver : List Text
  deriving DecidableEq, Repr

namespace Draft

/-- Heed a switch without a value. -/
def heed (draft : Draft) : Switch → Except Stop Draft
  | .help => .error .help
  | .interactive => .ok { draft with options.interactive := true }
  | .json => .ok { draft with options.json := true }
  | .indent => .ok { draft with options.indent := true }
  | .noCompat => .ok { draft with options.formerReadings := false }
  | .strict => .ok { draft with options.strict := true }
  | .quote | .whitespace => .ok draft

/-- Heed a switch with its value. -/
def heedValue (draft : Draft) (switch : Switch) (value : Text) : Except Stop Draft :=
  match switch with
  | .quote => .ok { draft with options.quotes := value }
  | .whitespace =>
      match Whitespace.ofName? value with
      | some mode => .ok { draft with options.whitespace? := some mode }
      | none =>
          .error (switch.problem ("invalid choice: ".toList ++ quoted value ++
            " (choose from ".toList ++
            ", ".toList.intercalate (Whitespace.all.map fun mode => quoted mode.name) ++ [')']))
  | _ => .ok draft

/-- Heed a switch that is left without the value it takes. -/
def heedWithout (draft : Draft) : Switch → Draft
  | .quote => { draft with options.quotes := [] }
  | .whitespace => { draft with options.whitespace? := none }
  | _ => draft

def leave (draft : Draft) (text : Text) : Draft :=
  { draft with leftOver := draft.leftOver ++ [text] }

/-- Heed a switch that takes no value and has something attached to it.  An empty
text is refused, and so is whatever is attached to a long spelling.  A short switch
can have others attached, which are all known before the first of them is heeded. -/
def heedTogether (draft : Draft) (switch : Switch) (spelling attached : Text) :
    Except Stop Draft :=
  if attached = [] ∨ ['-', '-'] <+: spelling then .error (switch.ignored attached)
  else cluster switch attached >>= List.foldlM heed draft

def heedAll (draft : Draft) : List Argument → Except Stop Draft
  | [] => .ok draft
  | .plain text :: later =>
      if draft.options.path? = none then
        let found := { draft with options.path? := some text }
        match later with
        | .doubleDash :: rest => found.heedAll rest
        | rest => found.heedAll rest
      else (draft.leave text).heedAll later
  | .doubleDash :: later =>
      if draft.options.path? = none then draft.heedAll later
      else (draft.leave ['-', '-']).heedAll later
  | .unknown text :: later => (draft.leave text).heedAll later
  | .switch switch spelling attached? :: later =>
      match switch.takesValue, attached? with
      | true, some value =>
          if value = ['-', '-'] then (draft.heedWithout switch).heedAll later
          else do (← draft.heedValue switch value).heedAll later
      | true, none =>
          match later with
          | .plain value :: rest => do (← draft.heedValue switch value).heedAll rest
          | _ => .error (switch.problem "expected one argument".toList)
      | false, some attached => do
          (← draft.heedTogether switch spelling attached).heedAll later
      | false, none => do (← draft.heed switch).heedAll later

end Draft

/-- The options that a command line asks for. -/
def Options.ofArguments (arguments : List Text) : Except Stop Options := do
  let told ← classifyAll arguments
  let draft ← (⟨.default, []⟩ : Draft).heedAll told
  if draft.leftOver = [] then .ok draft.options
  else
    .error (.usageError ("unrecognized arguments: ".toList ++
      [' '].intercalate draft.leftOver))

end Verbatim.Command
