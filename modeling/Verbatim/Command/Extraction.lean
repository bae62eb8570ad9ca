import Verbatim.Command.Listing
import Verbatim.Command.Outcome
import Verbatim.FormerReading
import Verbatim.Reader

/-!
# Extraction from a file

All literals of a document are listed.  Malformed literals and issues get a
diagnostic with a picture, in the order in which they come up, and do not keep
later literals from being found.  The options decide how the listing looks,
whether markers that used to mean something else are worth an issue, and whether a
malformed literal shows in the status; they have no other effect on the reading.
-/

namespace Verbatim.Command

/-- The observers that the options ask for.  The key names the source. -/
def Options.observers (options : Options) (key : SourceKey) : List Observer :=
  if options.formerReadings then
    [FormerReading.observer key FormerReading.defaultThreshold]
  else []

/-- The dialect that the options ask for.  A missing whitespace mode is noticed
before missing quotes are. -/
def Options.dialect (options : Options) : Except Fault Dialect :=
  match options.whitespace? with
  | none => .error .noWhitespace
  | some whitespace => (Dialect.ofQuotes options.quotes whitespace).mapError .dialect

def diagnostic (source : Source) : Event → Text
  | .badOpening malformation | .unterminated malformation
  | .misindented malformation _ => source.explain malformation ++ ['\n']
  | .issue issue => issue.render (some fun _ => source) ++ ['\n']
  | .literal _ | .warning _ => []

def tellsOfMalformation : Event → Bool
  | .badOpening _ | .unterminated _ | .misindented _ _ => true
  | .literal _ | .issue _ | .warning _ => false

def literal? : Event → Option Literal
  | .literal literal => some literal
  | _ => none

def Options.listing (options : Options) (found : List Found) : Text :=
  if options.json then
    jsonListing (if options.indent then .indented else .compact) found
  else plainListing found

/-- Extract the literals of the document that the file at the path holds. -/
def extraction (options : Options) (path document : Text) : Outcome :=
  match options.dialect with
  | .error fault => .silent (.faulted fault)
  | .ok dialect =>
      let source : Source := ⟨document, some path, 1⟩
      let reader : Reader := ⟨dialect, options.observers (.named path), .tolerant⟩
      let extracted := reader.extract document none
      let diagnostics := extracted.events.flatMap (diagnostic source)
      match extracted.ending with
      | .failed failure =>
          { Outcome.silent (.faulted (.reading failure)) with diagnostics := diagnostics }
      | .exhausted | .satisfied =>
          { output := options.listing
              ((extracted.events.filterMap literal?).map (Found.ofLiteral source))
            diagnostics := diagnostics
            warnings := []
            completion := .finished
              (if options.strict ∧ extracted.events.any tellsOfMalformation then 1 else 0) }

end Verbatim.Command
