import Verbatim.Proofs.Reporting

/-!
# Listings can be read back

A plain listing has exactly one line for each literal, and a JSON listing is in ASCII.  What
they tell of the literals is read back from them, and the output of an extraction is such a
listing.
-/

namespace Verbatim

namespace Command

/-- The literals that an extraction lists. -/
def foundIn (dialect : Dialect) (path document : Text) : List Found :=
  ((plainEvents dialect document).filterMap literal?).map
    (Found.ofLiteral ⟨document, some path, 1⟩)

/-- A listing loses nothing.

A plain listing is as many lines as there are literals, each ended by a line feed and with no
other line break in it, whichever other characters are printable.  The line, the column and
the value of each literal are read back from it, so listings that are the same are about the
same.  A JSON listing is in ASCII, and in either layout everything is read back from it.

The output of an extraction is such a listing of what it found. -/
theorem listing_loses_nothing :
    (∀ (printable : Char → Bool) (found : List Found),
      (plainListingWith printable found).splitOn '\n' =
        found.map (Found.plainLine printable) ++ [[]] ∧
      (∀ item ∈ found, '\n' ∉ item.plainLine printable ∧ '\r' ∉ item.plainLine printable) ∧
      readPlain? (plainListingWith printable found) = some (found.map Found.plain) ∧
      ∀ others, plainListingWith printable found = plainListingWith printable others →
        found.map Found.plain = others.map Found.plain) ∧
    (∀ (layout : Json.Layout) (found : List Found),
      Text.IsAscii (jsonListing layout found) ∧
      readJson? (jsonListing layout found) = some found) ∧
    ∀ (options : Options) (path document : Text) (dialect : Dialect),
      options.dialect = .ok dialect →
      let found := foundIn dialect path document
      let output := (extraction options path document).output
      output = options.listing found ∧
      (options.json = true → output.IsAscii ∧ readJson? output = some found) ∧
      (options.json = false →
        output.count '\n' = ((plainEvents dialect document).filterMap literal?).length ∧
        readPlain? output = some (found.map Found.plain)) := by
  refine ⟨?_, ?_, ?_⟩
  · intro printable found
    refine ⟨splitOn_plainListingWith printable found, ?_,
      readPlain?_plainListingWith printable found, ?_⟩
    · intro item _
      exact ⟨lineBreak_not_mem_plainLine printable (.inl rfl) item,
        lineBreak_not_mem_plainLine printable (.inr rfl) item⟩
    · intro others same
      have read := readPlain?_plainListingWith printable found
      rw [same, readPlain?_plainListingWith] at read
      exact (Option.some.inj read).symm
  · intro layout found
    exact ⟨isAscii_jsonListing layout found, readJson?_jsonListing layout found⟩
  · intro options path document dialect valid found output
    have listed : output = options.listing found :=
      congrArg Outcome.output (extraction_eq valid path document)
    refine ⟨listed, ?_, ?_⟩
    · intro structured
      rw [listed, Options.listing, if_pos structured]
      exact ⟨isAscii_jsonListing _ found, readJson?_jsonListing _ found⟩
    · intro plain
      rw [listed, Options.listing, if_neg (by simp [plain])]
      refine ⟨?_, readPlain?_plainListingWith _ found⟩
      rw [plainListing, count_lineFeed_plainListingWith]
      exact List.length_map _

/-- A value with both quotes, a backslash, a tab, a line separator, a character that takes a
pair of surrogates, and a line feed. -/
theorem listing_loses_nothing_of_escaped_characters :
    let value := ['\'', '"', '\\', '\t', '\u2028', Char.ofNat 0x1f600, '\n']
    let document := ['y', ' ', '"', '"', '"', '\n'] ++ value ++ ['\n', '"', '"', '"']
    let found : Found := ⟨1, 3, 3, value⟩
    let options : Options := { Options.default with json := true, indent := true }
    let output := (extraction options ['f'] document).output
    let plainOutput := (extraction Options.default ['f'] document).output
    foundIn .standard ['f'] document = [found] ∧
      output.IsAscii ∧ readJson? output = some [found] ∧
      plainOutput.count '\n' = 1 ∧ readPlain? plainOutput = some [found.plain] := by
  intro value document found options output plainOutput
  have events : plainEvents .standard document =
      [.literal ⟨value, ⟨3, [], [⟨value.dropLast, .lineFeed, 6⟩, ⟨[], .lineFeed, 13⟩], [], '"', 2,
        17⟩⟩] := by
    decide +kernel
  have one : foundIn .standard ['f'] document = [found] := by
    rw [foundIn, events]
    decide +kernel
  obtain ⟨_, _, listed⟩ := listing_loses_nothing
  obtain ⟨_, structured, _⟩ := listed options ['f'] document .standard (by decide +kernel)
  obtain ⟨_, _, plain⟩ := listed Options.default ['f'] document .standard (by decide +kernel)
  obtain ⟨ascii, read⟩ := structured rfl
  obtain ⟨lines, readPlain⟩ := plain rfl
  rw [one] at read readPlain
  rw [events] at lines
  exact ⟨one, ascii, read, lines, readPlain⟩

end Command

end Verbatim
