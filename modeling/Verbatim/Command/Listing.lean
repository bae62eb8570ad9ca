import Verbatim.Attempt
import Verbatim.Source
import Verbatim.Text.Json
import Verbatim.Text.Quoted

/-!
# Listings

A listing names every literal that was found by the line and the column of its
opening marker, both counted from one, and shows its value.  A plain listing has
exactly one line for each literal, because a quoted value has no line breaks.  A
JSON listing is an array of objects, which also tell the length of the marker.
-/

namespace Verbatim.Command

/-- A literal as a listing shows it. -/
structure Found where
  line : Int
  column : Int
  marker : Int
  value : Text
  deriving DecidableEq, Repr

def Found.ofLiteral (source : Source) (literal : Literal) : Found :=
  let (row, column) := source.locate literal.block.start
  { line := row
    column := column + 1
    marker := literal.block.markerLength
    value := literal.value }

/-- A literal in a plain listing, for a given notion of printable character. -/
def Found.plainLine (printable : Char → Bool) (found : Found) : Text :=
  Numeral.signed found.line ++ ':' :: Numeral.signed found.column ++
    ':' :: ' ' :: Quoted.quotedWith printable found.value

def Found.jsonObject (layout : Json.Layout) (found : Found) : Text :=
  Json.object layout 1
    [("line".toList, Numeral.signed found.line),
      ("column".toList, Numeral.signed found.column),
      ("marker".toList, Numeral.signed found.marker),
      ("value".toList, Json.string found.value)]

/-- The listing with a line for each literal, for a given notion of printable
character. -/
def plainListingWith (printable : Char → Bool) (found : List Found) : Text :=
  found.flatMap fun item => item.plainLine printable ++ ['\n']

def plainListing (found : List Found) : Text :=
  plainListingWith Text.isPrintable found

def jsonListing (layout : Json.Layout) (found : List Found) : Text :=
  Json.array layout 0 (found.map (Found.jsonObject layout)) ++ ['\n']

end Verbatim.Command
