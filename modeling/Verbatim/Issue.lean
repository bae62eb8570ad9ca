import Verbatim.Source

/-!
# Issues

An issue is something worth saying that need not be fatal.  It gathers a
description and evidence in one or more sources.  Without the sources at hand the
evidence is reported by bare positions; with them it is pictured.
-/

namespace Verbatim

inductive Severity where
  | notice
  | warning
  | error
  deriving DecidableEq, Repr

def Severity.name : Severity → Text
  | .notice => "Notice".toList
  | .warning => "Warning".toList
  | .error => "Error".toList

/-- What evidence calls the source that it lies in. -/
inductive SourceKey where
  | named (name : Text)
  | numbered (number : Int)
  | unnamed
  deriving DecidableEq, Repr

def SourceKey.label : SourceKey → Text
  | .named name => name
  | .numbered number => Numeral.signed number
  | .unnamed => "None".toList

structure Exhibit where
  span : Span
  caption : Text
  deriving DecidableEq, Repr

/-- Exhibits by source.  Each source stands once, in the order in which the
sources were first mentioned. -/
abbrev Evidence := List (SourceKey × List Exhibit)

/-- Something worth saying: what was being done, how bad it is, a description, and
the evidence. -/
structure Issue where
  phase : Text
  severity : Severity
  description : Text
  evidence : Evidence
  deriving DecidableEq, Repr

namespace Issue

/-- The evidence in one source by positions. -/
def positionsLine (key : SourceKey) (exhibits : List Exhibit) : Text :=
  "  in ".toList ++ key.label ++ ": ".toList ++
    ", ".toList.intercalate (exhibits.map fun exhibit =>
      exhibit.caption ++ " at offset ".toList ++ Numeral.signed exhibit.span.start)

/-- An exhibit pictured in its source, with the row in the margin. -/
def picture (source : Source) (exhibit : Exhibit) : Text :=
  let (row, column) := source.locate exhibit.span.start
  underlined (source.line row) column exhibit.span.width
    (Numeral.inColumn 6 row ++ " :".toList) exhibit.caption

/-- The evidence in one source by pictures, below the name of its file. -/
def excerpt (source : Source) (exhibits : List Exhibit) : List Text :=
  let heading :=
    match source.fileName? with
    | none | some [] => []
    | some name => ["Excerpt from ".toList ++ name ++ " :".toList]
  heading ++ exhibits.map (picture source)

/-- The issue as a report on a console.  With `fetch?` the evidence is pictured in
the sources that it fetches. -/
def render (issue : Issue) (fetch? : Option (SourceKey → Source)) : Text :=
  let heading :=
    issue.severity.name ++ " while ".toList ++ issue.phase ++ ": ".toList ++
      issue.description
  let details := issue.evidence.flatMap fun (key, exhibits) =>
    match fetch? with
    | none => [positionsLine key exhibits]
    | some fetch => excerpt (fetch key) exhibits
  ['\n'].intercalate (heading :: details)

end Issue

end Verbatim
