import Verbatim.Observer

/-!
# How markers were formerly read

Before there were verbatim strings, a run of quote characters was a sequence of
ordinary strings: two quotes make an empty string, and adjacent strings
concatenate.  Four quotes were two empty strings side by side, and five were two
empty strings and the start of a third, ordinary, string.  Three quotes opened an
ordinary string that met a line break at once, which was never valid.

The observer here reports markers that used to mean something else.
-/

namespace Verbatim

/-- How the former grammar read a run of quote characters. -/
def formerReading (length : Int) : Text :=
  Numeral.signed (length.fdiv 2) ++ " adjacent empty strings".toList ++
    if length.fmod 2 = 0 then []
    else " followed by the start of an ordinary string".toList

namespace FormerReading

/-- What the machinery does when it notices a marker. -/
def phase : Text := "reading a verbatim string".toList

/-- The warning about a block whose markers used to mean something else. -/
def warning (key : SourceKey) (block : Block) : Issue where
  phase := phase
  severity := .warning
  description :=
    "a ".toList ++ Numeral.signed block.markerLength ++
      "-quote marker formerly read as ".toList ++ formerReading block.markerLength ++
      "; it now begins a verbatim string".toList
  evidence :=
    [(key, [⟨block.openingMarker, "opening marker".toList⟩,
      ⟨block.closingMarker, "closing marker".toList⟩])]

/-- The observer that warns about markers of at least `threshold` quote
characters.  The key names the source in the evidence. -/
def observer (key : SourceKey) (threshold : Int) : Observer :=
  .reporting fun block =>
    if block.markerLength < threshold then [] else [warning key block]

/-- The least length of a marker that used to mean something. -/
def defaultThreshold : Int := 4

end FormerReading

end Verbatim
