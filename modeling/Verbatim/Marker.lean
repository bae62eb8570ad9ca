import Verbatim.Dialect
import Verbatim.Failure

/-!
# Markers

A marker is a run of at least three equal quote characters.  `nextOpening?` finds
the first marker of a text and measures it; `Opening.find` measures the marker
that is said to stand at a position, and refuses when there is none.
-/

namespace Verbatim

/-- How many copies of a character a text begins with. -/
def leadingRun (char : Char) (text : Text) : Nat :=
  (text.takeWhile (· = char)).length

/-- How many copies of a character follow one another from a position on, looking
no further than `stop`.  The character is given as a text of its own; a text of any
other length has no copies.  It is a failure when the count has to look outside the
text. -/
def Text.runWithin (text : Text) (position : Int) (wanted : Text) (stop : Int) :
    Except Failure Nat :=
  let room := (stop - position).toNat
  let found := (((text.onward position).take room).takeWhile ([·] = wanted)).length
  if room = 0 then .ok 0
  else if position < -(text.length : Int) then .error (.outOfRange position)
  else if found < room ∧ found = (text.onward position).length then
    .error (.outOfRange (position + found))
  else .ok found

/-- Inside the text, the copies are those that the reader meets first, as far as it may
look. -/
theorem Text.runWithin_eq_leadingRun {text : Text} {position stop : Int} (char : Char)
    (inside : -(text.length : Int) ≤ position) (within : stop ≤ text.length) :
    text.runWithin position [char] stop =
      .ok (leadingRun char ((text.onward position).take (stop - position).toNat)) := by
  have whole := text.length_onward inside
  have sameTest : (fun other => decide ([other] = [char])) =
      fun other => decide (other = char) := by
    simp
  unfold Text.runWithin leadingRun
  simp only [sameTest]
  split
  · next empty => simp [empty]
  · next room =>
      rw [if_neg (by omega), if_neg (by omega)]

/-- An opening marker: `length` copies of `quote` from `start` on. -/
structure Opening where
  quote : Char
  length : Nat
  start : Int
  deriving DecidableEq, Repr

namespace Opening

def stop (opening : Opening) : Int :=
  opening.start + opening.length

/-- Measure the marker that the characters from `start` on begin with. -/
def measure (dialect : Dialect) (start : Int) (onward : Text) : Except Failure Opening :=
  match onward with
  | [] => .error (.noMarker start)
  | quote :: _ =>
      if dialect.isQuote quote = false then .error (.noMarker start)
      else if leadingRun quote onward < minimumMarkerLength then
        .error (.shortMarker (leadingRun quote onward) start)
      else .ok ⟨quote, leadingRun quote onward, start⟩

/-- Measure the marker at a position of a text.  A negative position counts from
the end, and a marker there may go on at the beginning of the text. -/
def find (dialect : Dialect) (text : Text) (offset : Int) : Except Failure Opening :=
  if offset < -(text.length : Int) then .error (.outOfRange offset)
  else measure dialect offset (text.onward offset)

/-- A measured marker begins where it was measured and is long enough. -/
theorem start_eq_of_measure_eq_ok {dialect : Dialect} {start : Int} {onward : Text}
    {opening : Opening} (measured : measure dialect start onward = .ok opening) :
    opening.start = start ∧ minimumMarkerLength ≤ opening.length := by
  unfold measure at measured
  split at measured
  · cases measured
  · split at measured
    · cases measured
    · split at measured
      · cases measured
      · next longEnough =>
          cases measured
          exact ⟨rfl, Nat.le_of_not_lt longEnough⟩

theorem length_eq_of_measure_eq_ok {dialect : Dialect} {start : Int} {onward : Text}
    {opening : Opening} (measured : measure dialect start onward = .ok opening) :
    opening.length = leadingRun opening.quote onward := by
  unfold measure at measured
  split at measured
  · cases measured
  · split at measured
    · cases measured
    · split at measured
      · cases measured
      · cases measured
        rfl

theorem start_eq_of_find_eq_ok {dialect : Dialect} {text : Text} {offset : Int}
    {opening : Opening} (found : find dialect text offset = .ok opening) :
    opening.start = offset ∧ minimumMarkerLength ≤ opening.length := by
  unfold find at found
  split at found
  · cases found
  · exact start_eq_of_measure_eq_ok found

end Opening

/-- The first marker of a text whose first character stands at `position`. -/
def nextOpening? (quotes : Text) (position : Nat) : Text → Option Opening
  | [] => none
  | char :: rest =>
      if quotes.contains char ∧ minimumMarkerLength ≤ leadingRun char (char :: rest) then
        some ⟨char, leadingRun char (char :: rest), position⟩
      else nextOpening? quotes (position + 1) rest

theorem leadingRun_le_length (char : Char) (text : Text) :
    leadingRun char text ≤ text.length :=
  (List.takeWhile_sublist _).length_le

/-- The first marker stands where the search began or later, is long enough and
lies within the text. -/
theorem bounds_of_nextOpening?_eq_some {quotes text : Text} {position : Nat}
    {opening : Opening} (found : nextOpening? quotes position text = some opening) :
    (position : Int) ≤ opening.start ∧ minimumMarkerLength ≤ opening.length ∧
      opening.stop ≤ position + text.length := by
  induction text generalizing position with
  | nil => simp [nextOpening?] at found
  | cons char rest induction =>
      unfold nextOpening? at found
      split at found
      · next isMarker =>
          cases found
          have fits := leadingRun_le_length char (char :: rest)
          refine ⟨Int.le_refl _, isMarker.2, ?_⟩
          simp only [Opening.stop]
          omega
      · obtain ⟨later, longEnough, fits⟩ := induction found
        refine ⟨by omega, longEnough, ?_⟩
        simp only [List.length_cons]
        omega

theorem length_sub_stop_lt_of_nextOpening?_eq_some {quotes text : Text} {offset : Nat}
    {opening : Opening}
    (found : nextOpening? quotes offset (text.drop offset) = some opening) :
    text.length - opening.stop.toNat < text.length - offset := by
  have bounds := bounds_of_nextOpening?_eq_some found
  simp only [Opening.stop, minimumMarkerLength, List.length_drop] at bounds ⊢
  omega

/-- The markers of a text from an offset on, each search beginning where the
marker before ended. -/
def openingsFrom (quotes text : Text) (offset : Nat) : List Opening :=
  match _found : nextOpening? quotes offset (text.drop offset) with
  | none => []
  | some opening => opening :: openingsFrom quotes text opening.stop.toNat
termination_by text.length - offset
decreasing_by exact length_sub_stop_lt_of_nextOpening?_eq_some _found

/-- All markers of a text, in order and without overlap. -/
def openings (quotes text : Text) : List Opening :=
  openingsFrom quotes text 0

end Verbatim
