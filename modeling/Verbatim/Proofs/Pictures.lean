import Mathlib.Data.List.DropRight
import Verbatim.Proofs.Rows

/-!
# Pictures of places

A picture is two lines.  The upper one shows a line of a source without its line end, and
`Text.Trims` says what that is.  In the lower one there are carets below the place that is
meant, and `Text.Underlines` says where they stand.

The carets stand below the right characters only if taking off the line end takes nothing
away from in front of the place.  A lone carriage return in front of it could be lost in this
way, when nothing but line ends stands behind it.  `Text.Retains` excludes that, and
`Source.exists_shown` says what is shown of the line then.
-/

namespace Verbatim

namespace Text

/-- A line without all the carriage returns and line feeds that end it. -/
structure Trims (shown line : Text) : Prop where
  exists_ending : ∃ ending : Text, line = shown ++ ending ∧
    ∀ char ∈ ending, char = '\r' ∨ char = '\n'
  notReturn : shown.getLast? ≠ some '\r'
  notLineFeed : shown.getLast? ≠ some '\n'

/-- The lower line has as many carets as it should, and then a caption.  Before the carets
a tab stands below a tab of the upper line and a blank below anything else. -/
def Underlines (lower upper : Text) (column carets : Nat) (caption : Text) : Prop :=
  ∃ padding : Text, lower = padding ++ List.replicate carets '^' ++ ' ' :: caption ∧
    padding.length = column ∧
    ∀ index < column, padding[index]? = some (if upper[index]? = some '\t' then '\t' else ' ')

/-- Whatever stands before a place on its line is kept when the line end is taken off. -/
def Retains (text : Text) (place : Nat) : Prop :=
  (text.take place).getLast? ≠ some '\r' ∨
    ∃ char, text[place]? = some char ∧ char ≠ '\r' ∧ char ≠ '\n'

theorem Underlines.unbroken {lower upper caption : Text} {column carets : Nat}
    (underlines : lower.Underlines upper column carets caption) (captionUnbroken : '\n' ∉ caption) :
    '\n' ∉ lower := by
  obtain ⟨padding, rfl, length, padded⟩ := underlines
  have paddingUnbroken : '\n' ∉ padding := by
    intro member
    obtain ⟨index, found⟩ := List.getElem?_of_mem member
    have inside := (List.getElem?_eq_some_iff.mp found).1
    rw [padded index (length ▸ inside)] at found
    split at found <;> cases found
  simp [paddingUnbroken, captionUnbroken]

theorem retains_of_eq_append {text front before rest : Text}
    (shape : text = front ++ before ++ rest) (nonempty : before ≠ []) (noReturn : '\r' ∉ before) :
    text.Retains (front ++ before).length := by
  left
  rw [shape, List.take_left, List.getLast?_append_of_ne_nil front nonempty]
  exact fun last => noReturn (List.mem_of_getLast? last)

section LineEnd

/-- Whether a character is one of those that are taken off the end of a line. -/
def isLineEnd (char : Char) : Bool :=
  char = '\n' || char = '\r'

theorem isLineEnd_iff {char : Char} : isLineEnd char = true ↔ char = '\r' ∨ char = '\n' := by
  simp [isLineEnd, or_comm]

theorem withoutLineEnd_eq (line : Text) : line.withoutLineEnd = List.rdropWhile isLineEnd line :=
  rfl

theorem withoutLineEnd_eq_nil_iff {line : Text} :
    line.withoutLineEnd = [] ↔ ∀ char ∈ line, isLineEnd char = true := by
  rw [withoutLineEnd_eq, List.rdropWhile_eq_nil_iff]

theorem withoutLineEnd_isPrefix (line : Text) : line.withoutLineEnd <+: line :=
  List.rdropWhile_prefix isLineEnd line

theorem withoutLineEnd_append_of_ne_nil {rest : Text} (remains : rest.withoutLineEnd ≠ [])
    (front : Text) : withoutLineEnd (front ++ rest) = front ++ rest.withoutLineEnd := by
  have stays : rest.reverse.dropWhile isLineEnd ≠ [] := by
    intro nothing
    exact remains (congrArg List.reverse nothing)
  rw [withoutLineEnd_eq, List.rdropWhile, List.reverse_append, List.dropWhile_append,
    if_neg (by simpa using stays), List.reverse_append, List.reverse_reverse]
  rfl

theorem withoutLineEnd_append_of_eq_nil {rest : Text} (nothing : rest.withoutLineEnd = [])
    (front : Text) : withoutLineEnd (front ++ rest) = front.withoutLineEnd := by
  have gone : rest.reverse.dropWhile isLineEnd = [] := List.reverse_eq_nil_iff.mp nothing
  rw [withoutLineEnd_eq, List.rdropWhile, List.reverse_append, List.dropWhile_append,
    if_pos (by simpa using gone)]
  rfl

theorem withoutLineEnd_of_getLast? {line : Text}
    (stops : ∀ char ∈ line.getLast?, isLineEnd char = false) : line.withoutLineEnd = line := by
  rw [withoutLineEnd_eq, List.rdropWhile_eq_self_iff]
  intro nonempty ends
  rw [stops _ (List.getLast?_eq_some_getLast nonempty)] at ends
  cases ends

theorem withoutLineEnd_append {front : Text}
    (stops : ∀ char ∈ front.getLast?, isLineEnd char = false) (rest : Text) :
    withoutLineEnd (front ++ rest) = front ++ rest.withoutLineEnd := by
  by_cases remains : rest.withoutLineEnd = []
  · rw [withoutLineEnd_append_of_eq_nil remains, withoutLineEnd_of_getLast? stops, remains,
      List.append_nil]
  · exact withoutLineEnd_append_of_ne_nil remains front

theorem lineFeed_not_mem_withoutLineEnd {line : Text} (oneLine : '\n' ∉ line.dropLast) :
    '\n' ∉ line.withoutLineEnd := by
  rcases List.eq_nil_or_concat line with rfl | ⟨most, last, rfl⟩
  · exact List.not_mem_nil
  · rw [List.concat_eq_append, List.dropLast_concat] at oneLine
    rw [List.concat_eq_append, withoutLineEnd_eq, List.rdropWhile_concat]
    split
    · exact fun member => oneLine ((withoutLineEnd_isPrefix most).subset member)
    · next stops =>
        have notLast : last ≠ '\n' := by
          rintro rfl
          exact stops rfl
        simp [oneLine, Ne.symm notLast]

theorem trims_withoutLineEnd (line : Text) : line.withoutLineEnd.Trims line := by
  have stops : ∀ char ∈ line.withoutLineEnd.getLast?, ¬ isLineEnd char = true := by
    intro char last
    have nonempty : line.withoutLineEnd ≠ [] := by
      intro nothing
      rw [nothing] at last
      cases last
    rw [List.getLast?_eq_some_getLast nonempty] at last
    cases last
    exact List.rdropWhile_last_not isLineEnd line nonempty
  refine ⟨⟨List.rtakeWhile isLineEnd line, ?_, ?_⟩, ?_, ?_⟩
  · exact List.rdropWhile_append_rtakeWhile.symm
  · exact fun char member => isLineEnd_iff.mp (List.mem_rtakeWhile_imp member)
  · exact fun last => stops '\r' last rfl
  · exact fun last => stops '\n' last rfl

end LineEnd

end Text

section Drawing

theorem Span.width_add (start : Int) (length : Nat) :
    Span.width ⟨start, start + length⟩ = length := by
  simp only [Span.width]
  omega

/-- There are as many carets as fit below what is shown behind the place, and at least one. -/
theorem caretCount_natCast (line : Text) (column width : Nat) :
    caretCount line column width =
      max 1 (min width (line.withoutLineEnd.length - column)) := by
  simp only [caretCount]
  omega

/-- The picture of a place on a line.  The carets stand below the place, or right behind the
line if the place is not shown. -/
theorem exists_underlined_eq (line margin caption : Text) (column width : Nat) :
    ∃ lower : Text,
      underlined line column width margin caption =
        margin ++ line.withoutLineEnd ++ '\n' :: lower ∧
      lower.Underlines (margin ++ line.withoutLineEnd)
        (margin.length + min column line.withoutLineEnd.length)
        (max 1 (min width (line.withoutLineEnd.length - column))) caption := by
  have clipped : line.withoutLineEnd.take (line.withoutLineEnd.index column) =
      line.withoutLineEnd.take column := by
    rw [Text.index_natCast, ← List.take_eq_take_min]
  refine ⟨(margin ++ line.withoutLineEnd.take column).map
      (fun char => if char = '\t' then '\t' else ' ') ++
    List.replicate (max 1 (min width (line.withoutLineEnd.length - column))) '^' ++
      ' ' :: caption, ?_, _, rfl, ?_, ?_⟩
  · simp [underlined, clipped, caretCount_natCast]
  · simp
  · intro index inside
    have within : index < (margin ++ line.withoutLineEnd.take column).length := by
      simpa using inside
    obtain ⟨beyond, whole⟩ := List.take_prefix column line.withoutLineEnd
    have shown : (margin ++ line.withoutLineEnd)[index]? =
        (margin ++ line.withoutLineEnd.take column)[index]? := by
      rw [← whole, ← List.append_assoc, whole]
      exact List.getElem?_append_left within
    rw [shown, List.getElem?_map, List.getElem?_eq_getElem within]
    simp

end Drawing

namespace Numeral

theorem lineFeed_not_mem_decimal (number : Nat) : '\n' ∉ decimal number := by
  intro member
  have digit := Nat.isDigit_of_mem_toDigits (by decide) (by decide) member
  cases digit

theorem lineFeed_not_mem_signed (number : Int) : '\n' ∉ signed number := by
  unfold signed
  split <;> simp [lineFeed_not_mem_decimal]

end Numeral

namespace Source

variable {source : Source} {place : Nat}

/-- What is shown of a line is what stands before the place, and what stands behind it up to
the line end. -/
theorem exists_shown (inside : place ≤ source.content.length)
    (retains : source.content.Retains place) :
    ∃ (row : Int) (front : Text),
      source.locate place = (row, (front.length : Int)) ∧
      source.LiesAt place row front.length ∧
      (source.line row).withoutLineEnd =
        front ++ (Text.restOfLine (source.content.drop place)).withoutLineEnd := by
  have lies := liesAt_locate inside
  obtain ⟨above, front, before, content, aboveUnbroken, frontUnbroken, _, located⟩ :=
    exists_above inside
  rw [located] at lies
  refine ⟨_, front, located, lies, ?_⟩
  rw [line_of_eq_append content aboveUnbroken frontUnbroken]
  rcases retains with notReturn | ⟨next, here, notReturn, notLineFeed⟩
  · apply Text.withoutLineEnd_append
    intro char last
    have member : char ∈ front := List.mem_of_getLast? last
    rw [before, List.getLast?_append_of_ne_nil _ (List.ne_nil_of_mem member), last] at notReturn
    have notLineFeed : char ≠ '\n' := by
      rintro rfl
      exact frontUnbroken member
    simpa [Text.isLineEnd, notLineFeed] using notReturn
  · apply Text.withoutLineEnd_append_of_ne_nil
    intro nothing
    rw [← List.head?_drop, ← Text.head?_restOfLine] at here
    have ended := Text.withoutLineEnd_eq_nil_iff.mp nothing next (List.mem_of_head? here)
    simp [Text.isLineEnd, notReturn, notLineFeed] at ended

end Source

end Verbatim
