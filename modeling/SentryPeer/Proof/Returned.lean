import SentryPeer.Proof.Listing

/-!
# What a listing route returns

The answer has every text of its column or none at all: one group that cannot be packed makes the
whole answer a 404.
-/

namespace SentryPeer.Proof
open Lib

theorem regexMatch_whole {literal text : List UInt8} {group : List UInt8 → Bool} {string : CStr}
    (isText : string.bytes = literal ++ text) (accepted : group text = true) :
    regexMatch literal group string = some (.ofMemory text) := by
  have whole : (literal.isPrefixOf string.bytes &&
      group (string.bytes.drop literal.length)) = true := by
    rw [isText, List.drop_left, Bool.and_eq_true]
    exact ⟨by simp, accepted⟩
  have first : string.bytes.tails.find? (fun suffix =>
      literal.isPrefixOf suffix && group (suffix.drop literal.length)) = some string.bytes := by
    cases bytes : string.bytes with
    | nil =>
        rw [bytes] at whole
        exact List.find?_cons_of_pos whole
    | cons b rest =>
        rw [bytes] at whole
        exact List.find?_cons_of_pos whole
  rw [regexMatch, first, Option.map_some, isText, List.drop_left]

theorem selectDistinct_eq (column : HoneyRow → Option CStr) (text : CStr) (honey : List HoneyRow) :
    selectDistinct column (fun _ => true) text honey =
      if some text ∈ honey.map column then some text else none := by
  simp only [selectDistinct, List.all_cons, List.all_nil, Bool.and_self, ↓reduceIte]
  split
  · rename_i stored
    obtain ⟨row, isRow, same⟩ := List.mem_map.mp stored
    cases found : honey.find? fun row => column row == some text with
    | none =>
        have absent := List.find?_eq_none.mp found row isRow
        rw [same, beq_self_eq_true] at absent
        exact absurd rfl absent
    | some other =>
        have matching := List.find?_some found
        exact beq_iff_eq.mp matching
  · rename_i absent
    rw [List.find?_eq_none.mpr, Option.bind_none]
    intro row isRow same
    rw [beq_iff_eq] at same
    exact absent (same ▸ List.mem_map_of_mem isRow)

theorem foundResponse_utf8 (key : String) (notFound : CStr) {text : CStr}
    (utf8 : validUtf8 text.bytes = true) :
    foundResponse key notFound (some text) =
      .ok ⟨200, contentTypeJson, .json (flatObject [(key, text.bytes)])⟩ := by
  simp only [foundResponse, jsonPack, List.all_cons, List.all_nil, utf8, Bool.and_self, ↓reduceIte]
  rfl

/-- The texts under `key` in the array `list` of the answer; a 404 has none. -/
def returnedTexts (key list : String) : Except Abort Response → List (List UInt8)
  | .ok ⟨200, _, .json json⟩ =>
      match json.get? list with
      | some (.array entries) => entries.filterMap fun entry =>
          match entry.get? key with
          | some (.string text) => some text
          | _ => none
      | _ => []
  | _ => []

def Utf8Text (text : Option CStr) : Prop := ∃ t, text = some t ∧ validUtf8 t.bytes = true

/-- Each text of the column is UTF-8, and so is the greatest timestamp of its rows. -/
def Packable (listing : Listing) (honey : List HoneyRow) : Prop :=
  ∀ row ∈ listing.rows honey, Utf8Text (listing.column row) ∧
    Utf8Text (maxText ((keyRows listing honey (listing.column row)).map HoneyRow.eventTimestamp))

section Returned
variable {listing : Listing} {honey : List HoneyRow}

theorem packable_iff_groups :
    Packable listing honey ↔
      ∀ group ∈ listing.groups honey, Utf8Text group.key ∧ Utf8Text group.seenLast := by
  constructor
  · intro packable group member
    obtain ⟨row, isRow, rfl⟩ := mem_groups.mp member
    exact packable row isRow
  · intro all row isRow
    exact all _ (mem_groups.mpr ⟨row, isRow, rfl⟩)

def entryJson (key : String) (group : SeenGroup) : Json :=
  flatObject [(key, (orEmpty group.key).bytes), ("seen_last", (orEmpty group.seenLast).bytes),
    ("seen_count", decimal group.seenTotal)]

theorem seenEntryJson_eq (key : String) (group : SeenGroup) :
    seenEntryJson key (entryOf group) =
      if validUtf8 (orEmpty group.key).bytes && validUtf8 (orEmpty group.seenLast).bytes then
        some (entryJson key group)
      else none := by
  have count : validUtf8 (decimal group.seenTotal) = true := (decimal_plain _).validUtf8
  have bytes : (CStr.ofMemory (decimal group.seenTotal)).bytes = decimal group.seenTotal :=
    CStr.bytes_ofMemory (decimal_plain _).noNul
  simp only [seenEntryJson, entryOf, jsonPack, bytes, List.all_cons, List.all_nil, count,
    Bool.and_true, entryJson, List.map_cons, List.map_nil]

def answer (listing : Listing) (key total list : String) (notFound : CStr)
    (honey : List HoneyRow) : Except Abort Response :=
  (listing.select (fun _ => true) honey honey).map (listingResponse key total list notFound)

variable {key total list : String} {notFound : CStr}

theorem answer_of_packable (packable : Packable listing honey) :
    answer listing key total list notFound honey =
      if (listing.groups honey).length = 0 then .ok ⟨404, contentTypeJson, .text notFound⟩
      else .ok ⟨200, contentTypeJson, .json (.object
        [(total, .number (intText (listing.groups honey).length)),
          (list, .array ((listing.groups honey).map (entryJson key)))])⟩ := by
  have keyed : Keyed listing honey := by
    intro row isRow
    obtain ⟨text, isText, -⟩ := (packable row isRow).1
    exact Option.isSome_iff_exists.mpr ⟨text, isText⟩
  have groups := packable_iff_groups.mp packable
  have selected := select_eq (List.Subset.refl honey) fun group member => by
    obtain ⟨⟨text, isText, -⟩, last, isLast, -⟩ := groups group (List.mem_of_mem_take member)
    exact readGroup_eq isText isLast
  rw [keyed.rowCount, List.take_length] at selected
  have printed : ((listing.groups honey).map entryOf).mapM (seenEntryJson key) =
      some ((listing.groups honey).map (entryJson key)) := by
    rw [List.mapM_map]
    apply mapM_eq_pure
    intro group member
    obtain ⟨⟨text, isText, utf8⟩, last, isLast, utf8'⟩ := groups group member
    have both : (validUtf8 (orEmpty group.key).bytes &&
        validUtf8 (orEmpty group.seenLast).bytes) = true := by
      rw [isText, isLast]
      exact Bool.and_eq_true_iff.mpr ⟨utf8, utf8'⟩
    rw [Function.comp_apply, seenEntryJson_eq, if_pos both]
    rfl
  simp only [answer, selected, Except.map, listingResponse, printed]
  split <;> rfl

theorem stamped_of_select (keyed : Keyed listing honey) {result : Option (Nat × List SeenEntry)}
    (selected : listing.select (fun _ => true) honey honey = .ok result) {group : SeenGroup}
    (member : group ∈ listing.groups honey) : ∃ last, group.seenLast = some last := by
  simp only [Listing.select, List.all_cons, List.all_nil, Bool.and_self, ↓reduceIte] at selected
  obtain ⟨entries, read, -⟩ := bind_eq_ok.mp selected
  rw [keyed.rowCount, List.take_length] at read
  obtain ⟨entry, readEntry⟩ := mapM_ok_each read group member
  exact readGroup_seenLast readEntry

theorem utf8_of_returned {rowCount : Nat} {groups : List SeenGroup} {text : List UInt8}
    (returned : text ∈ returnedTexts key list
      (.ok (listingResponse key total list notFound (some (rowCount, groups.map entryOf)))))
    {group : SeenGroup} (member : group ∈ groups) :
    validUtf8 (orEmpty group.key).bytes = true ∧
      validUtf8 (orEmpty group.seenLast).bytes = true := by
  unfold listingResponse at returned
  simp only at returned
  split at returned
  · cases returned
  split at returned
  · cases returned
  rename_i jsonArr printed
  obtain ⟨json, packed⟩ := mapM_some_each printed (entryOf group) (List.mem_map_of_mem member)
  rw [seenEntryJson_eq] at packed
  split_ifs at packed with both
  exact Bool.and_eq_true_iff.mp both

theorem packable_of_returned (keyed : Keyed listing honey) {text : List UInt8}
    (returned : text ∈ returnedTexts key list (answer listing key total list notFound honey)) :
    Packable listing honey := by
  rw [packable_iff_groups]
  cases ran : listing.select (fun _ => true) honey honey with
  | error abort =>
      rw [answer, ran] at returned
      cases returned
  | ok result =>
      have stamped {group : SeenGroup} (member : group ∈ listing.groups honey) :=
        stamped_of_select keyed ran member
      have selected := select_eq (List.Subset.refl honey) fun group member => by
        have isGroup := List.mem_of_mem_take member
        obtain ⟨key, isKey⟩ := keyed.group isGroup
        obtain ⟨last, isLast⟩ := stamped isGroup
        exact readGroup_eq isKey isLast
      rw [keyed.rowCount, List.take_length] at selected
      rw [answer, selected] at returned
      intro group member
      obtain ⟨key, isKey⟩ := keyed.group member
      obtain ⟨last, isLast⟩ := stamped member
      have utf8 := utf8_of_returned returned member
      rw [isKey, isLast] at utf8 ⊢
      exact ⟨⟨key, rfl, utf8.1⟩, last, rfl, utf8.2⟩

theorem entryJson_get? (key : String) (group : SeenGroup) :
    (entryJson key group).get? key = some (.string (orEmpty group.key).bytes) := by
  rw [entryJson, flatObject_get?, List.lookup_cons_self]
  rfl

theorem returnedTexts_of_packable (packable : Packable listing honey) (apart : list ≠ total) :
    returnedTexts key list (answer listing key total list notFound honey) =
      (listing.groups honey).map fun group => (orEmpty group.key).bytes := by
  rw [answer_of_packable packable]
  split
  · rename_i empty
    rw [List.length_eq_zero_iff.mp empty]
    rfl
  · have found : (Json.object [(total, .number (intText (listing.groups honey).length)),
        (list, .array ((listing.groups honey).map (entryJson key)))]).get? list =
        some (.array ((listing.groups honey).map (entryJson key))) := by
      rw [Json.get?, List.lookup_cons, beq_false_of_ne apart, List.lookup_cons_self]
    simp only [returnedTexts, found, List.filterMap_map, Function.comp_def, entryJson_get?,
      List.filterMap_eq_map']

theorem mem_returnedTexts (keyed : Keyed listing honey) (apart : list ≠ total)
    {text : List UInt8} :
    text ∈ returnedTexts key list (answer listing key total list notFound honey) ↔
      Packable listing honey ∧
        ∃ value : CStr, some value ∈ (listing.rows honey).map listing.column ∧ value.bytes = text := by
  have texts (packable : Packable listing honey) :
      text ∈ returnedTexts key list (answer listing key total list notFound honey) ↔
        ∃ value : CStr, some value ∈ (listing.rows honey).map listing.column ∧
          value.bytes = text := by
    rw [returnedTexts_of_packable packable apart, List.mem_map]
    constructor
    · rintro ⟨group, member, same⟩
      obtain ⟨value, isKey⟩ := keyed.group member
      rw [isKey] at same
      exact ⟨value, mem_groups_keys.mp (List.mem_map.mpr ⟨group, member, isKey⟩), same⟩
    · rintro ⟨value, selected, same⟩
      obtain ⟨group, member, isKey⟩ := List.mem_map.mp (mem_groups_keys.mpr selected)
      refine ⟨group, member, ?_⟩
      rw [isKey]
      exact same
  constructor
  · intro returned
    have packable := packable_of_returned keyed returned
    exact ⟨packable, (texts packable).mp returned⟩
  · rintro ⟨packable, selected⟩
    exact (texts packable).mpr selected

end Returned

end SentryPeer.Proof
