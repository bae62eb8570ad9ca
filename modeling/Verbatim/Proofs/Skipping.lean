import Verbatim.Proofs.WholeLines

/-!
# Where a malformed literal ends

Skipping judges no opening line.  It looks for the first line that closes the marker,
and answers where the closing marker on it ends, or that there is none.
`skip_eq_ok_iff` and `skip_eq_unterminated_iff` say this for every text and offset.

Behind whole lines the text may go on, and a closing line that was found is still the
first.
-/

namespace Verbatim

/-- A line closes the marker at an offset, the first one that does, and the closing
marker on it ends at `finish`. -/
def ClosesAt (dialect : Dialect) (text : Text) (offset : Nat) (finish : Int) : Prop :=
  ∃ (quote : Char) (length : Nat) (rest opening line indentation : Text)
    (before after : List Text),
    MarkerAt dialect text offset quote length rest ∧
    rest.splitOn '\n' = opening :: before ++ line :: after ∧
    (∀ earlier ∈ before, ¬ Closes dialect quote length earlier) ∧
    ClosesWith dialect quote length line indentation ∧
    finish = offset + length + opening.length + 1 + (Text.terminated before).length +
      indentation.length + length

/-- No line closes the marker at an offset. -/
def StaysOpenAt (dialect : Dialect) (text : Text) (offset : Nat) : Prop :=
  ∃ (quote : Char) (length : Nat) (rest opening : Text) (later : List Text),
    MarkerAt dialect text offset quote length rest ∧
    rest.splitOn '\n' = opening :: later ∧
    ∀ line ∈ later, ¬ Closes dialect quote length line

section Outcomes

variable {dialect : Dialect} {text : Text} {offset : Nat}

theorem ClosesAt.skip_eq_ok {finish : Int} (closes : ClosesAt dialect text offset finish) :
    skip dialect text offset = .ok finish := by
  obtain ⟨quote, length, rest, opening, line, indentation, before, after, marker, lines,
    stays, closing, rfl⟩ := closes
  exact marker.skip_of_closing lines stays closing

theorem StaysOpenAt.skip_eq_unterminated (stays : StaysOpenAt dialect text offset) :
    skip dialect text offset = .error (.malformed (.unterminated offset text.length)) := by
  obtain ⟨quote, length, rest, opening, later, marker, lines, never⟩ := stays
  exact marker.skip_of_stays lines never

theorem skip_of_lacksMarker (lacks : LacksMarker dialect text offset) :
    skip dialect text offset = .error (.noMarker offset) ∨
      ∃ found, skip dialect text offset = .error (.shortMarker found offset) := by
  rcases find_of_lacksMarker lacks with missing | ⟨found, short⟩
  · left
    unfold skip Scanner.start
    rw [missing]
    rfl
  · right
    refine ⟨found, ?_⟩
    unfold skip Scanner.start
    rw [short]
    rfl

/-- Every skip comes to one of three outcomes. -/
theorem skip_verdicts (dialect : Dialect) (text : Text) (offset : Nat) :
    (LacksMarker dialect text offset ∧
      (skip dialect text offset = .error (.noMarker offset) ∨
        ∃ found, skip dialect text offset = .error (.shortMarker found offset))) ∨
    (StaysOpenAt dialect text offset ∧
      skip dialect text offset = .error (.malformed (.unterminated offset text.length))) ∨
    ∃ finish, ClosesAt dialect text offset finish ∧ skip dialect text offset = .ok finish := by
  rcases lacksMarker_or_exists_markerAt dialect text offset with lacks | found
  · exact .inl ⟨lacks, skip_of_lacksMarker lacks⟩
  · obtain ⟨quote, length, rest, marker⟩ := found
    obtain ⟨opening, later, lines⟩ := Text.exists_splitOn_eq_cons rest
    rcases exists_first_closing_or_stays dialect quote length later with stays | first
    · have never : StaysOpenAt dialect text offset :=
        ⟨quote, length, rest, opening, later, marker, lines, stays⟩
      exact .inr (.inl ⟨never, never.skip_eq_unterminated⟩)
    · obtain ⟨before, line, after, indentation, rfl, stays, closing⟩ := first
      have closes : ClosesAt dialect text offset _ :=
        ⟨quote, length, rest, opening, line, indentation, before, after, marker, lines, stays,
          closing, rfl⟩
      exact .inr (.inr ⟨_, closes, closes.skip_eq_ok⟩)

theorem skip_eq_ok_iff {finish : Int} :
    skip dialect text offset = .ok finish ↔ ClosesAt dialect text offset finish := by
  refine ⟨?_, ClosesAt.skip_eq_ok⟩
  intro skipped
  rcases skip_verdicts dialect text offset with
    ⟨_, missing | ⟨found, short⟩⟩ | ⟨_, unterminated⟩ | ⟨other, closes, same⟩
  · simp [missing] at skipped
  · simp [short] at skipped
  · simp [unterminated] at skipped
  · obtain rfl : other = finish := by simpa [same] using skipped
    exact closes

theorem skip_eq_unterminated_iff {start finish : Int} :
    skip dialect text offset = .error (.malformed (.unterminated start finish)) ↔
      StaysOpenAt dialect text offset ∧ start = offset ∧ finish = text.length := by
  constructor
  · intro skipped
    rcases skip_verdicts dialect text offset with
      ⟨_, missing | ⟨found, short⟩⟩ | ⟨stays, unterminated⟩ | ⟨finish, _, closed⟩
    · simp [missing] at skipped
    · simp [short] at skipped
    · rw [unterminated] at skipped
      cases skipped
      exact ⟨stays, rfl, rfl⟩
    · simp [closed] at skipped
  · rintro ⟨stays, rfl, rfl⟩
    exact stays.skip_eq_unterminated

end Outcomes

/-- Whole lines have nothing on their last line, and the text that follows begins
there. -/
theorem Text.EndsLine.exists_splitOn_append {text : Text} (ends : text.EndsLine) :
    ∃ lines, text.splitOn '\n' = lines ++ [[]] ∧
      ∀ more : Text, (text ++ more).splitOn '\n' = lines ++ more.splitOn '\n' := by
  obtain ⟨front, rfl⟩ := List.getLast?_eq_some_iff.mp ends
  refine ⟨front.splitOn '\n', ?_, ?_⟩
  · rw [List.splitOn_append_cons_self, List.splitOn_nil]
  · intro more
    rw [List.append_assoc, List.singleton_append, List.splitOn_append_cons_self]

theorem ClosesAt.append {dialect : Dialect} {text : Text} {offset : Nat} {finish : Int}
    (closes : ClosesAt dialect text offset finish) (ends : text.EndsLine)
    (noLineFeed : '\n' ∉ dialect.quotes) (more : Text) :
    ClosesAt dialect (text ++ more) offset finish := by
  obtain ⟨quote, length, rest, opening, line, indentation, before, after, marker, lines,
    stays, closing, rfl⟩ := closes
  have restEnds := marker.endsLine_rest ends noLineFeed
  obtain ⟨whole, split, longerLines⟩ := restEnds.exists_splitOn_append
  rw [lines] at split
  rcases List.eq_nil_or_concat after with rfl | ⟨most, last, rfl⟩
  · -- The closing line would be the last line, which is empty.
    obtain rfl : line = [] := List.singleton_inj.mp (List.append_inj' split rfl).2
    obtain ⟨following, shape, _⟩ := closing.eq_append
    have nothing := congrArg List.length shape
    have positive := marker.positive_length
    simp at nothing
    omega
  · have front : opening :: before ++ line :: most = whole := by
      have parts : (opening :: before ++ line :: most) ++ [last] = whole ++ [[]] := by
        rw [← split]
        simp
      exact (List.append_inj' parts rfl).1
    refine ⟨quote, length, rest ++ more, opening, line, indentation, before,
      most ++ more.splitOn '\n', marker.append more ?_, ?_, stays, closing, rfl⟩
    · intro empty
      exact absurd empty restEnds.ne_nil
    · rw [longerLines, ← front]
      simp

end Verbatim
