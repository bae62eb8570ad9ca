import Verbatim.Command.Listing
import Verbatim.Proofs.JsonReading
import Verbatim.Proofs.Places

/-!
# Readers of listings

From each line of a plain listing the place and the value of its literal are found again
(`readPlain?_plainListingWith`), because what breaks lines is escaped in a value.

A JSON listing is in ASCII in either layout.  It is read as an array of objects, which tell
everything there is in it about the literals (`readJson?_jsonListing`).
-/

namespace Verbatim.Command

section Plain

/-- What a plain listing tells about a literal: its line, its column and its value. -/
def Found.plain (found : Found) : Int × Int × Text :=
  (found.line, found.column, found.value)

/-- Two numbers, each with a colon behind it, a blank and a quoted text. -/
def decodePlainEntry : Decoder (Int × Int × Text) := fun text =>
  match Numeral.decodeSigned text with
  | some (line, ':' :: rest) =>
      match Numeral.decodeSigned rest with
      | some (column, ':' :: ' ' :: rest) =>
          (Quoted.decode rest).map fun (value, rest) => ((line, column, value), rest)
      | _ => none
  | _ => none

/-- The entry that a line consists of. -/
def readPlainEntry? (line : Text) : Option (Int × Int × Text) :=
  match decodePlainEntry line with
  | some (entry, []) => some entry
  | _ => none

/-- Read a plain listing, line by line. -/
def readPlain? (listing : Text) : Option (List (Int × Int × Text)) :=
  (listing.splitOn '\n').dropLast.mapM readPlainEntry?

theorem readPlainEntry?_plainLine (printable : Char → Bool) (found : Found) :
    readPlainEntry? (found.plainLine printable) = some found.plain := by
  have separated := Text.separated_cons (show ':'.isDigit = false by decide)
  have value := Quoted.decodes_quotedWith printable found.value [] Text.separated_nil
  have column := Numeral.decodes_signed found.column _
    (separated (' ' :: Quoted.quotedWith printable found.value))
  have line := Numeral.decodes_signed found.line _ (separated (Numeral.signed found.column ++
    ':' :: ' ' :: Quoted.quotedWith printable found.value))
  have shape : found.plainLine printable = Numeral.signed found.line ++
      ':' :: (Numeral.signed found.column ++
        ':' :: ' ' :: Quoted.quotedWith printable found.value) := by
    simp only [Found.plainLine, List.append_assoc, List.cons_append]
  rw [List.append_nil] at value
  unfold readPlainEntry? decodePlainEntry
  rw [shape]
  simp only [line, column, value, Option.map_some]
  rfl

theorem lineBreak_not_mem_plainLine (printable : Char → Bool) {lineBreak : Char}
    (isBreak : lineBreak = '\n' ∨ lineBreak = '\r') (found : Found) :
    lineBreak ∉ found.plainLine printable := by
  have below := Text.lineBreak_lt_blank isBreak
  have noColon : lineBreak ≠ ':' := by
    rcases isBreak with rfl | rfl <;> decide
  unfold Found.plainLine
  simp only [List.mem_append, List.mem_cons, not_or]
  refine ⟨⟨?_, noColon, ?_⟩, noColon, Char.ne_of_lt below, ?_⟩
  · exact (Numeral.printed_signed found.line).not_mem below
  · exact (Numeral.printed_signed found.column).not_mem below
  · exact Quoted.lineBreak_not_mem_quotedWith printable isBreak found.value

theorem plainListingWith_eq_terminated (printable : Char → Bool) (found : List Found) :
    plainListingWith printable found =
      Text.terminated (found.map (Found.plainLine printable)) := by
  rw [Text.terminated, List.flatMap_map]
  rfl

theorem lineFeed_not_mem_entries (printable : Char → Bool) (found : List Found) :
    ∀ line ∈ found.map (Found.plainLine printable), '\n' ∉ line := by
  intro line member
  obtain ⟨item, _, rfl⟩ := List.mem_map.mp member
  exact lineBreak_not_mem_plainLine printable (.inl rfl) item

theorem count_lineFeed_plainListingWith (printable : Char → Bool) (found : List Found) :
    (plainListingWith printable found).count '\n' = found.length := by
  rw [plainListingWith_eq_terminated,
    Text.count_lineFeed_terminated (lineFeed_not_mem_entries printable found), List.length_map]

/-- The lines of a plain listing are its entries. -/
theorem splitOn_plainListingWith (printable : Char → Bool) (found : List Found) :
    (plainListingWith printable found).splitOn '\n' =
      found.map (Found.plainLine printable) ++ [[]] := by
  have split := Text.splitOn_terminated_append (lineFeed_not_mem_entries printable found) []
  rw [List.append_nil] at split
  rw [plainListingWith_eq_terminated, split]
  rfl

theorem readPlain?_plainListingWith (printable : Char → Bool) (found : List Found) :
    readPlain? (plainListingWith printable found) = some (found.map Found.plain) := by
  rw [readPlain?, splitOn_plainListingWith, List.dropLast_concat]
  exact mapM_map_eq_some fun item _ => readPlainEntry?_plainLine printable item

end Plain

section Structured

/-- What a JSON listing says of a literal. -/
def Found.toJson (found : Found) : Json.Value :=
  .object
    [("line".toList, .number found.line), ("column".toList, .number found.column),
      ("marker".toList, .number found.marker), ("value".toList, .string found.value)]

/-- The literal that an object with three numbers and a string is about. -/
def Found.ofJson? : Json.Value → Option Found
  | .object members =>
      match members.lookup "line".toList, members.lookup "column".toList,
        members.lookup "marker".toList, members.lookup "value".toList with
      | some (.number line), some (.number column), some (.number marker),
        some (.string value) => some ⟨line, column, marker, value⟩
      | _, _, _, _ => none
  | _ => none

/-- Read a JSON listing. -/
def readJson? (listing : Text) : Option (List Found) :=
  match Json.read? listing with
  | some (.array items) => items.mapM Found.ofJson?
  | _ => none

theorem Found.ofJson?_toJson (found : Found) : ofJson? found.toJson = some found := by
  rfl

theorem Found.writes_jsonObject (depth : Nat) (layout : Json.Layout) (found : Found) :
    Json.Writes (Json.decodeValue (depth + 2)) (found.jsonObject layout) found.toJson := by
  refine Json.writes_object layout 1 ?_
  exact .cons ⟨rfl, Json.writes_number depth found.line⟩
    (.cons ⟨rfl, Json.writes_number depth found.column⟩
      (.cons ⟨rfl, Json.writes_number depth found.marker⟩
        (.cons ⟨rfl, Json.writes_string depth found.value⟩ .nil)))

theorem read?_jsonListing (layout : Json.Layout) (found : List Found) :
    Json.read? (jsonListing layout found) = some (.array (found.map Found.toJson)) := by
  -- The listing nests values two brackets deep, and the text is at least that long.
  have long : 3 ≤ (jsonListing layout found).length := by
    have brackets := Json.two_le_length_bracketed layout 0 '[' ']'
      (found.map (Found.jsonObject layout))
    rw [jsonListing, List.length_append, Json.array]
    exact Nat.add_le_add_right brackets 1
  obtain ⟨depth, deep⟩ := Nat.exists_eq_add_of_le' long
  have each : List.Forall₂ (Json.Writes (Json.decodeValue (depth + 2)))
      (found.map (Found.jsonObject layout)) (found.map Found.toJson) := by
    rw [List.forall₂_map_left_iff, List.forall₂_map_right_iff, List.forall₂_same]
    exact fun item _ => item.writes_jsonObject depth layout
  refine Json.read?_append ?_ (List.forall_mem_singleton.mpr rfl)
  have written := Json.writes_array layout 0 each
  rwa [← jsonListing, deep]

theorem readJson?_jsonListing (layout : Json.Layout) (found : List Found) :
    readJson? (jsonListing layout found) = some found := by
  have each : (found.map Found.toJson).mapM Found.ofJson? = some (found.map fun item => item) :=
    mapM_map_eq_some fun item _ => item.ofJson?_toJson
  rw [List.map_id'] at each
  rw [readJson?, read?_jsonListing]
  exact each

theorem isAscii_jsonListing (layout : Json.Layout) (found : List Found) :
    Text.IsAscii (jsonListing layout found) := by
  have number : ∀ value, Text.IsAscii (Numeral.signed value) := fun value =>
    (Numeral.printed_signed value).isAscii
  refine .append (Json.isAscii_bracketed layout 0 (by decide) (by decide) ?_)
    (.cons (by decide) Text.isAscii_nil)
  intro item among
  obtain ⟨entry, _, rfl⟩ := List.mem_map.mp among
  refine Json.isAscii_object layout 1 ?_
  simp only [List.forall_mem_cons]
  exact ⟨number _, number _, number _, (Json.printed_string entry.value).isAscii,
    List.forall_mem_nil _⟩

end Structured

end Verbatim.Command
