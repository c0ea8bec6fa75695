import SentryPeer.Proof.JsonLogger
import SentryPeer.Source.Http

/-!
# The listings

The count query and the group query agree on a table whose rows have a key, and the count of an
earlier table never exceeds the groups of a later one.
-/

namespace SentryPeer.Proof
open Lib

/-! ## The order of text -/

theorem bytesLe_total (a b : List UInt8) : bytesLe a b = true ∨ bytesLe b a = true := by
  induction a generalizing b with
  | nil => exact .inl rfl
  | cons x a ih =>
      cases b with
      | nil => exact .inr rfl
      | cons y b =>
          simp only [bytesLe, Bool.or_eq_true, Bool.and_eq_true, decide_eq_true_eq, beq_iff_eq]
          rcases Nat.lt_trichotomy x.toNat y.toNat with less | same | more
          · exact .inl (.inl (UInt8.lt_iff_toNat_lt.mpr less))
          · have same := UInt8.toNat_inj.mp same
            exact (ih b).imp (fun below => .inr ⟨same, below⟩) fun above => .inr ⟨same.symm, above⟩
          · exact .inr (.inl (UInt8.lt_iff_toNat_lt.mpr more))

theorem bytesLe_trans (a b c : List UInt8) (first : bytesLe a b = true)
    (second : bytesLe b c = true) : bytesLe a c = true := by
  induction a generalizing b c with
  | nil => rfl
  | cons x a ih =>
      cases b with
      | nil => cases first
      | cons y b =>
          cases c with
          | nil => cases second
          | cons z c =>
              simp only [bytesLe, Bool.or_eq_true, Bool.and_eq_true, decide_eq_true_eq,
                beq_iff_eq] at first second ⊢
              rcases first with less | ⟨rfl, first⟩
              · rcases second with less' | ⟨rfl, -⟩
                · exact .inl (UInt8.lt_trans less less')
                · exact .inl less
              · rcases second with less | ⟨rfl, second⟩
                · exact .inl less
                · exact .inr ⟨rfl, ih b c first second⟩

theorem textLe_order : TotalPreorder textLe where
  total a b := by
    cases a with
    | none => exact .inl rfl
    | some a =>
        cases b with
        | none => exact .inr rfl
        | some b => exact bytesLe_total a.bytes b.bytes
  trans a b c first second := by
    cases a with
    | none => rfl
    | some a =>
        cases b with
        | none => cases first
        | some b =>
            cases c with
            | none => cases second
            | some c => exact bytesLe_trans a.bytes b.bytes c.bytes first second

theorem maxText_mem {texts : List (Option CStr)} (nonempty : texts ≠ []) : maxText texts ∈ texts :=
  greatest_mem (fun _ => rfl) nonempty

theorem le_maxText {texts : List (Option CStr)} {text : Option CStr} (member : text ∈ texts) :
    textLe text (maxText texts) = true :=
  textLe_order.le_greatest none texts text (List.mem_cons_of_mem _ member)

/-! ## Groups -/

section Groups
variable {listing : Listing} {honey : List HoneyRow}

def keyRows (listing : Listing) (honey : List HoneyRow) (key : Option CStr) :
    List HoneyRow :=
  (listing.rows honey).filter fun row => listing.column row = key

theorem mem_groups {group : SeenGroup} :
    group ∈ listing.groups honey ↔ ∃ row ∈ listing.rows honey,
      listing.group (listing.column row) (keyRows listing honey (listing.column row)) = group := by
  rw [Listing.groups, (sortDown_perm _ _ _).mem_iff, mem_groupedBy]
  rfl

theorem groups_keys (listing : Listing) (honey : List HoneyRow) :
    ((listing.groups honey).map SeenGroup.key).Perm
      ((listing.rows honey).map listing.column).dedup := by
  have own : ∀ key rows, SeenGroup.key (listing.group key rows) = key := fun _ _ => rfl
  rw [← map_groupedBy listing.column (listing.rows honey) SeenGroup.key own]
  exact (sortDown_perm textLe SeenGroup.seenLast _).map SeenGroup.key

theorem groups_nodup (listing : Listing) (honey : List HoneyRow) :
    ((listing.groups honey).map SeenGroup.key).Nodup :=
  (groups_keys listing honey).nodup_iff.mpr (List.nodup_dedup _)

theorem mem_groups_keys {key : Option CStr} :
    key ∈ (listing.groups honey).map SeenGroup.key ↔
      key ∈ (listing.rows honey).map listing.column := by
  rw [(groups_keys listing honey).mem_iff, List.mem_dedup]

theorem groups_sorted (listing : Listing) (honey : List HoneyRow) :
    (listing.groups honey).Pairwise fun a b => textLe b.seenLast a.seenLast = true :=
  textLe_order.sortDown_pairwise SeenGroup.seenLast _

theorem groups_rows {group : SeenGroup} (member : group ∈ listing.groups honey) :
    keyRows listing honey group.key ≠ [] ∧
      group = listing.group group.key (keyRows listing honey group.key) := by
  obtain ⟨row, isRow, rfl⟩ := mem_groups.mp member
  refine ⟨List.ne_nil_of_mem (List.mem_filter.mpr ⟨isRow, decide_eq_true rfl⟩), rfl⟩

theorem mem_keyRows {key : Option CStr} {row : HoneyRow} :
    row ∈ keyRows listing honey key ↔ row ∈ listing.rows honey ∧ listing.column row = key := by
  rw [keyRows, List.mem_filter, decide_eq_true_eq]

theorem groups_seenLast {group : SeenGroup} (member : group ∈ listing.groups honey) :
    (∃ row ∈ keyRows listing honey group.key, row.eventTimestamp = group.seenLast) ∧
      ∀ row ∈ keyRows listing honey group.key,
        textLe row.eventTimestamp group.seenLast = true := by
  obtain ⟨nonempty, own⟩ := groups_rows member
  have last : group.seenLast =
      maxText ((keyRows listing honey group.key).map HoneyRow.eventTimestamp) :=
    congrArg SeenGroup.seenLast own
  rw [last]
  constructor
  · have stamps : (keyRows listing honey group.key).map HoneyRow.eventTimestamp ≠ [] := by
      simpa using nonempty
    exact List.mem_map.mp (maxText_mem stamps)
  · intro row isRow
    exact le_maxText (List.mem_map_of_mem isRow)

theorem groups_condition {group : SeenGroup} (member : group ∈ listing.groups honey) :
    listing.condition group.key = true := by
  obtain ⟨row, isRow, rfl⟩ := mem_groups.mp member
  exact (List.mem_filter.mp isRow).2

theorem mem_keyRows_of_group {group : SeenGroup} (member : group ∈ listing.groups honey)
    {row : HoneyRow} (isRow : row ∈ honey) (isKey : listing.column row = group.key) :
    row ∈ keyRows listing honey group.key := by
  refine mem_keyRows.mpr ⟨List.mem_filter.mpr ⟨isRow, ?_⟩, isKey⟩
  rw [isKey]
  exact groups_condition member

theorem groups_seenTotal {group : SeenGroup} (member : group ∈ listing.groups honey) {key : CStr}
    (isKey : group.key = some key) :
    group.seenTotal = honey.countP fun row => listing.column row = some key := by
  have admitted := groups_condition member
  have own := (groups_rows member).2
  rw [isKey] at admitted own
  have total : group.seenTotal =
      (keyRows listing honey (some key)).countP fun row => (listing.column row).isSome :=
    congrArg SeenGroup.seenTotal own
  rw [total, keyRows, Listing.rows, List.countP_filter, List.countP_filter]
  apply List.countP_congr
  intro row _
  simp only [Bool.and_eq_true, decide_eq_true_eq]
  constructor
  · exact fun given => given.1.2
  · intro same
    rw [same]
    exact ⟨⟨rfl, rfl⟩, admitted⟩

/-! ## What the two queries return -/

def Keyed (listing : Listing) (honey : List HoneyRow) : Prop :=
  ∀ row ∈ listing.rows honey, (listing.column row).isSome = true

theorem Keyed.group (keyed : Keyed listing honey) {group : SeenGroup}
    (member : group ∈ listing.groups honey) : ∃ key, group.key = some key := by
  obtain ⟨row, isRow, rfl⟩ := mem_groups.mp member
  exact Option.isSome_iff_exists.mp (keyed row isRow)

theorem map_some_filterMap {α β : Type} {f : α → Option β} {rows : List α}
    (all : ∀ row ∈ rows, (f row).isSome = true) : (rows.filterMap f).map some = rows.map f := by
  induction rows with
  | nil => rfl
  | cons row rest ih =>
      obtain ⟨value, isValue⟩ := Option.isSome_iff_exists.mp (all row List.mem_cons_self)
      rw [List.filterMap_cons_some isValue, List.map_cons, List.map_cons, isValue,
        ih fun other member => all other (List.mem_cons_of_mem row member)]

theorem Keyed.rowCount (keyed : Keyed listing honey) :
    listing.rowCount honey = (listing.groups honey).length := by
  have lengths := (groups_keys listing honey).length_eq
  rw [← map_some_filterMap keyed, List.dedup_map_of_injective (Option.some_injective _),
    List.length_map, List.length_map] at lengths
  exact lengths.symm

theorem rowCount_le {counted listed : List HoneyRow} (earlier : counted ⊆ listed) :
    listing.rowCount counted ≤ (listing.groups listed).length := by
  have nodup : (((listing.rows counted).filterMap listing.column).dedup.map some).Nodup :=
    (List.nodup_dedup _).map (Option.some_injective _)
  have included : (((listing.rows counted).filterMap listing.column).dedup.map some) ⊆
      (listing.groups listed).map SeenGroup.key := by
    intro key member
    obtain ⟨text, isText, rfl⟩ := List.mem_map.mp member
    obtain ⟨row, isRow, isKey⟩ := List.mem_filterMap.mp (List.mem_dedup.mp isText)
    obtain ⟨isCounted, admitted⟩ := List.mem_filter.mp isRow
    rw [mem_groups_keys, ← isKey]
    exact List.mem_map_of_mem (List.mem_filter.mpr ⟨earlier isCounted, admitted⟩)
  have bound := (List.subperm_of_subset nodup included).length_le
  rwa [List.length_map, List.length_map] at bound

def entryOf (group : SeenGroup) : SeenEntry :=
  ⟨orEmpty group.key, orEmpty group.seenLast, .ofMemory (decimal group.seenTotal)⟩

theorem readGroup_eq {group : SeenGroup} {key last : CStr} (isKey : group.key = some key)
    (isLast : group.seenLast = some last) : readGroup group = .ok (entryOf group) := by
  simp only [readGroup, entryOf, isKey, isLast, utilDuplicateString_some]
  rfl

theorem readGroup_seenLast {group : SeenGroup} {entry : SeenEntry}
    (read : readGroup group = .ok entry) : ∃ last, group.seenLast = some last := by
  obtain ⟨key, -, read⟩ := bind_eq_ok.mp read
  obtain ⟨last, isLast, -⟩ := bind_eq_ok.mp read
  cases seenLast : group.seenLast with
  | none =>
      rw [seenLast] at isLast
      cases isLast
  | some last => exact ⟨last, rfl⟩

theorem select_eq {counted listed : List HoneyRow} (earlier : counted ⊆ listed)
    (read : ∀ group ∈ (listing.groups listed).take (listing.rowCount counted),
      readGroup group = .ok (entryOf group)) :
    listing.select (fun _ => true) counted listed = .ok (some (listing.rowCount counted,
      ((listing.groups listed).take (listing.rowCount counted)).map entryOf)) := by
  have enough : ¬ (listing.groups listed).length < listing.rowCount counted :=
    not_lt.mpr (rowCount_le earlier)
  have entries : ((listing.groups listed).take (listing.rowCount counted)).mapM readGroup =
      .ok (((listing.groups listed).take (listing.rowCount counted)).map entryOf) :=
    mapM_eq_pure read
  simp only [Listing.select, List.all_cons, List.all_nil, Bool.and_self, ↓reduceIte, entries]
  show Except.ok (if _ then _ else _) = _
  rw [if_neg enough]

structure Complete (listing : Listing) (honey : List HoneyRow) : Prop where
  keyed : Keyed listing honey
  stamped : ∀ row ∈ listing.rows honey, row.eventTimestamp.isSome = true

theorem Complete.group (complete : Complete listing honey) {group : SeenGroup}
    (member : group ∈ listing.groups honey) :
    ∃ key last, group.key = some key ∧ group.seenLast = some last := by
  obtain ⟨key, isKey⟩ := complete.keyed.group member
  obtain ⟨row, isRow, isLast⟩ := (groups_seenLast member).1
  have stamped := complete.stamped row (mem_keyRows.mp isRow).1
  rw [isLast] at stamped
  obtain ⟨last, isSome⟩ := Option.isSome_iff_exists.mp stamped
  exact ⟨key, last, isKey, isSome⟩

theorem Complete.select {counted listed : List HoneyRow} (complete : Complete listing listed)
    (earlier : counted ⊆ listed) :
    listing.select (fun _ => true) counted listed = .ok (some (listing.rowCount counted,
      ((listing.groups listed).take (listing.rowCount counted)).map entryOf)) := by
  apply select_eq earlier
  intro group member
  obtain ⟨key, last, isKey, isLast⟩ := complete.group (List.mem_of_mem_take member)
  exact readGroup_eq isKey isLast

theorem Complete.entry_key (complete : Complete listing honey) {group : SeenGroup}
    (member : group ∈ listing.groups honey) : some (entryOf group).key = group.key := by
  obtain ⟨key, -, isKey, -⟩ := complete.group member
  rw [entryOf, isKey]
  rfl

theorem Complete.entry_last (complete : Complete listing honey) {group : SeenGroup}
    (member : group ∈ listing.groups honey) : some (entryOf group).seenLast = group.seenLast := by
  obtain ⟨-, last, -, isLast⟩ := complete.group member
  rw [entryOf, isLast]
  rfl

theorem Complete.entry_keys (complete : Complete listing honey) {groups : List SeenGroup}
    (included : groups ⊆ listing.groups honey) :
    ((groups.map entryOf).map SeenEntry.key).map some = groups.map SeenGroup.key := by
  rw [List.map_map, List.map_map]
  apply List.map_congr_left
  intro group member
  exact complete.entry_key (included member)

theorem Complete.nodup (complete : Complete listing honey) (n : Nat) :
    ((((listing.groups honey).take n).map entryOf).map SeenEntry.key).Nodup := by
  have keys := complete.entry_keys (List.take_subset n (listing.groups honey))
  apply List.Nodup.of_map some
  rw [keys]
  exact (groups_nodup listing honey).sublist ((List.take_sublist _ _).map _)

end Groups

/-! ## Tables of inserted events -/

def insertAll (events : List BadActor) : List HoneyRow :=
  events.foldl (fun honey event => (dbInsertBadActor (fun _ => true) event honey).2) []

theorem insertAll_eq (events : List BadActor) : insertAll events = events.map honeyRow := by
  have general (honey : List HoneyRow) :
      events.foldl (fun honey event => (dbInsertBadActor (fun _ => true) event honey).2) honey =
        honey ++ events.map honeyRow := by
    induction events generalizing honey with
    | nil => simp
    | cons event rest ih =>
        rw [List.foldl_cons, ih]
        simp [dbInsertBadActor, insertCallsBeforeStep]
  exact general []

/-- The entries are those of the table: one for each key, with its greatest timestamp and the number
of its rows, the latest first. -/
structure Lists (listing : Listing) (honey : List HoneyRow) (rowCount : Nat)
    (entries : List SeenEntry) : Prop where
  count : rowCount = entries.length
  distinct : (entries.map SeenEntry.key).Nodup
  keys : ∀ key, key ∈ entries.map SeenEntry.key ↔
    ∃ row ∈ honey, listing.column row = some key ∧ listing.condition (some key) = true
  seenLast : ∀ entry ∈ entries,
    (∃ row ∈ honey, listing.column row = some entry.key ∧
      row.eventTimestamp = some entry.seenLast) ∧
    ∀ row ∈ honey, listing.column row = some entry.key →
      textLe row.eventTimestamp (some entry.seenLast) = true
  seenCount : ∀ entry ∈ entries,
    entry.seenCount.bytes = decimal (honey.countP fun row => listing.column row = some entry.key)
  latestFirst : entries.Pairwise fun a b => bytesLe b.seenLast.bytes a.seenLast.bytes = true

section Tables
variable {listing : Listing} {honey : List HoneyRow}

theorem Complete.lists (complete : Complete listing honey) :
    Lists listing honey (listing.groups honey).length ((listing.groups honey).map entryOf) where
  count := by rw [List.length_map]
  distinct := by
    have nodup := complete.nodup (listing.groups honey).length
    rwa [List.take_length] at nodup
  keys key := by
    have keys := complete.entry_keys (List.Subset.refl (listing.groups honey))
    rw [← List.mem_map_of_injective (Option.some_injective _), keys, mem_groups_keys, List.mem_map]
    constructor
    · rintro ⟨row, isRow, isKey⟩
      obtain ⟨member, admitted⟩ := List.mem_filter.mp isRow
      rw [isKey] at admitted
      exact ⟨row, member, isKey, admitted⟩
    · rintro ⟨row, member, isKey, admitted⟩
      exact ⟨row, List.mem_filter.mpr ⟨member, by rw [isKey]; exact admitted⟩, isKey⟩
  seenLast entry isEntry := by
    obtain ⟨group, member, rfl⟩ := List.mem_map.mp isEntry
    obtain ⟨attained, bound⟩ := groups_seenLast member
    rw [complete.entry_key member, complete.entry_last member]
    constructor
    · obtain ⟨row, isRow, isLast⟩ := attained
      obtain ⟨inRows, isKey⟩ := mem_keyRows.mp isRow
      exact ⟨row, List.mem_of_mem_filter inRows, isKey, isLast⟩
    · intro row isRow isKey
      exact bound row (mem_keyRows_of_group member isRow isKey)
  seenCount entry isEntry := by
    obtain ⟨group, member, rfl⟩ := List.mem_map.mp isEntry
    have bytes : (entryOf group).seenCount.bytes = decimal group.seenTotal :=
      CStr.bytes_ofMemory (decimal_plain _).noNul
    rw [bytes, groups_seenTotal member (complete.entry_key member).symm]
  latestFirst := by
    rw [List.pairwise_map]
    apply (groups_sorted listing honey).imp_of_mem
    intro a b isA isB sorted
    rw [← complete.entry_last isA, ← complete.entry_last isB] at sorted
    exact sorted

/-! ## The two functions -/

/-- What the collectors promise of an event. -/
def Addressable (events : List BadActor) : Prop :=
  ∀ event ∈ events, event.sourceIp.isSome = true ∧ event.eventTimestamp.isSome = true

@[simp] theorem sourceIps_rows (honey : List HoneyRow) : sourceIps.rows honey = honey := by
  simp [Listing.rows, sourceIps]

theorem mem_rows_insertAll {events : List BadActor} {row : HoneyRow}
    (isRow : row ∈ listing.rows (insertAll events)) : ∃ event ∈ events, honeyRow event = row := by
  have member := List.mem_of_mem_filter isRow
  rw [insertAll_eq] at member
  exact List.mem_map.mp member

theorem Addressable.stamped {events : List BadActor} (given : Addressable events) :
    ∀ row ∈ listing.rows (insertAll events), row.eventTimestamp.isSome = true := by
  intro row isRow
  obtain ⟨event, isEvent, rfl⟩ := mem_rows_insertAll isRow
  exact (given event isEvent).2

theorem sourceIps_complete {events : List BadActor} (given : Addressable events) :
    Complete sourceIps (insertAll events) where
  keyed row isRow := by
    obtain ⟨event, isEvent, rfl⟩ := mem_rows_insertAll isRow
    exact (given event isEvent).1
  stamped := given.stamped

theorem calledNumbers_keyed (honey : List HoneyRow) : Keyed calledNumbers honey := by
  intro row isRow
  have admitted := (List.mem_filter.mp isRow).2
  cases number : calledNumbers.column row with
  | none =>
      rw [number] at admitted
      cases admitted
  | some text => rfl

theorem calledNumbers_complete {events : List BadActor} (given : Addressable events) :
    Complete calledNumbers (insertAll events) where
  keyed := calledNumbers_keyed _
  stamped := given.stamped

/-- With the same table for both queries the result is its listing; with rows inserted in between it
is as long as the count, without a duplicate. -/
def SelectsWell (listing : Listing)
    (select : List HoneyRow → List HoneyRow → Except Abort (Option (Nat × List SeenEntry)))
    (events more : List BadActor) : Prop :=
  (∃ rowCount entries,
    select (insertAll events) (insertAll events) = .ok (some (rowCount, entries)) ∧
      Lists listing (insertAll events) rowCount entries) ∧
  ∃ rowCount entries,
    select (insertAll events) (insertAll (events ++ more)) = .ok (some (rowCount, entries)) ∧
      rowCount = entries.length ∧ (entries.map SeenEntry.key).Nodup

theorem Complete.selectsWell {events more : List BadActor}
    (complete : Complete listing (insertAll events))
    (later : Complete listing (insertAll (events ++ more))) :
    SelectsWell listing (listing.select fun _ => true) events more := by
  have earlier : insertAll events ⊆ insertAll (events ++ more) := by
    rw [insertAll_eq, insertAll_eq, List.map_append]
    exact List.subset_append_left _ _
  constructor
  · refine ⟨_, _, complete.select (List.Subset.refl _), ?_⟩
    rw [complete.keyed.rowCount, List.take_length]
    exact complete.lists
  · refine ⟨_, _, later.select earlier, ?_, later.nodup _⟩
    rw [List.length_map, List.length_take, min_eq_left (rowCount_le earlier)]

theorem dbSelect_lists (events more : List BadActor) (given : Addressable (events ++ more)) :
    SelectsWell sourceIps (dbSelectBadActors fun _ => true) events more ∧
      SelectsWell calledNumbers (dbSelectCalledNumbers fun _ => true) events more := by
  have first : Addressable events := fun event member =>
    given event (List.mem_append_left _ member)
  constructor
  · exact (sourceIps_complete first).selectsWell (sourceIps_complete given)
  · exact (calledNumbers_complete first).selectsWell (calledNumbers_complete given)

end Tables

theorem dbSelect_lists_one_between :
    SelectsWell sourceIps (dbSelectBadActors fun _ => true) [inviteActor (.lit "100")]
        [inviteActor (.lit "+441234567890")] ∧
      SelectsWell calledNumbers (dbSelectCalledNumbers fun _ => true) [inviteActor (.lit "100")]
        [inviteActor (.lit "+441234567890")] :=
  dbSelect_lists _ _ (by simp [Addressable, inviteActor])

end SentryPeer.Proof
