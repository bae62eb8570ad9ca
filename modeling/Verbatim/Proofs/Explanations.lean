import Verbatim.Proofs.Pictures

/-!
# What a complaint says

A complaint about a malformation has three lines: where the malformation lies and which rule
it breaks, the line of the source that it lies on, and a caret below that.  `Source.Heads`
spells out the first of them and `Source.Describes` the whole, for any place of a source.

A place may be a line end that is not shown.  The caret stands right behind the line then.
-/

namespace Verbatim.Source

/-- The first line of a complaint.  Behind the name of the file, if there is one, come the row
and the column, the column counted from one, and the message. -/
structure Heads (source : Source) (row : Int) (column : Nat) (message header : Text) :
    Prop where
  unnamed : source.fileName? = none →
    header = "At line ".toList ++ Numeral.signed row ++ ", column ".toList ++
      Numeral.decimal (column + 1) ++ ": ".toList ++ message
  named : ∀ name, source.fileName? = some name →
    header = name ++ ": line ".toList ++ Numeral.signed row ++ ", column ".toList ++
      Numeral.decimal (column + 1) ++ ": ".toList ++ message

/-- The text is a complaint about the malformation, at the place where that lies. -/
def Describes (source : Source) (malformation : Malformation) (text : Text) : Prop :=
  ∃ (place column : Nat) (row : Int) (header shown lower : Text),
    malformation.position = place ∧ place < source.content.length ∧
    source.LiesAt place row column ∧
    source.Heads row column malformation.rule header ∧
    shown.Trims (source.line row) ∧
    text = header ++ '\n' :: (" >>> ".toList ++ shown ++ '\n' :: lower) ∧
    lower.Underlines (" >>> ".toList ++ shown) (5 + min column shown.length) 1
      "near here".toList

variable {source : Source} {malformation : Malformation} {place column : Nat} {row : Int}

theorem heads_heading (source : Source) (row : Int) (column : Nat) (message : Text) :
    source.Heads row column message (source.heading row column message) := by
  have counted : Numeral.signed ((column : Int) + 1) = Numeral.decimal (column + 1) :=
    Numeral.signed_natCast (column + 1)
  constructor
  case unnamed =>
    intro unnamed
    simp [heading, unnamed, counted]
  case named =>
    intro name named
    simp [heading, named, counted]

/-- A malformation is explained by the row and the column that its position is located at. -/
theorem exists_explain_eq (position : malformation.position = place)
    (located : source.locate place = (row, (column : Int))) :
    ∃ header lower : Text,
      source.Heads row column malformation.rule header ∧
      source.explain malformation =
        header ++ '\n' :: (" >>> ".toList ++ (source.line row).withoutLineEnd ++ '\n' :: lower) ∧
      lower.Underlines (" >>> ".toList ++ (source.line row).withoutLineEnd)
        (5 + min column (source.line row).withoutLineEnd.length) 1 "near here".toList := by
  obtain ⟨lower, drawn, underlines⟩ :=
    exists_underlined_eq (source.line row) " >>> ".toList defaultCaption column 1
  have single : max 1 (min 1 ((source.line row).withoutLineEnd.length - column)) = 1 := by
    omega
  have width : Span.width ⟨(place : Int), (place : Int) + 1⟩ = (1 : Nat) :=
    Span.width_add place 1
  rw [single] at underlines
  refine ⟨_, lower, source.heads_heading row column malformation.rule, ?_, underlines⟩
  rw [explain, report, position, located, width]
  simp only [drawn]
  simp

theorem describes_explain (position : malformation.position = place)
    (inside : place < source.content.length) :
    source.Describes malformation (source.explain malformation) := by
  have lies := liesAt_locate (Nat.le_of_lt inside)
  obtain ⟨above, front, _, _, _, _, _, located⟩ := exists_above (Nat.le_of_lt inside)
  obtain ⟨header, lower, heads, explained, underlines⟩ := exists_explain_eq position located
  rw [located] at lies
  exact ⟨place, front.length, _, header, _, lower, position, inside, lies, heads,
    Text.trims_withoutLineEnd _, explained, underlines⟩

end Verbatim.Source
