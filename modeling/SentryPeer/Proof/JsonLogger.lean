import SentryPeer.Source.JsonLogger

/-!
# The two encoders

On text both encoders write the same object. On anything else `json_pack` returns null, which the
callers of `bad_actor_to_json` report, and the `unwrap` of `bad_actor_to_json_rs` panics.
-/

namespace SentryPeer.Proof
open Lib

def Utf8Fields (badActor : BadActor) : Prop :=
  ∀ field ∈ badActorFields badActor, validUtf8 (orEmpty field.2).bytes = true

instance (badActor : BadActor) : Decidable (Utf8Fields badActor) :=
  inferInstanceAs (Decidable (∀ field ∈ badActorFields badActor, _))

def badActorMembers (badActor : BadActor) : List (String × List UInt8) :=
  ("app_name", packageName.bytes) :: ("app_version", packageVersion.bytes) ::
    (badActorFields badActor).map fun field => (field.1, (orEmpty field.2).bytes)

theorem badActorJson_eq (badActor : BadActor) :
    badActorJson badActor =
      if Utf8Fields badActor then some (flatObject (badActorMembers badActor)) else none := by
  have own : validUtf8 packageName.bytes = true ∧ validUtf8 packageVersion.bytes = true := by decide
  simp only [badActorJson, jsonPack, List.all_cons, List.all_map, List.map_cons, List.map_map,
    own.1, own.2, Bool.true_and, List.all_eq_true, Function.comp_apply, Utf8Fields]
  rfl

theorem strOrEmpty_eq (site : Function) (string : Option CStr) :
    strOrEmpty site string = if validUtf8 (orEmpty string).bytes then .ok (orEmpty string).bytes
      else .error (.panic site) := by
  cases string <;> rfl

theorem strFields_eq (site : Function) (fields : List (String × Option CStr)) :
    strFields site fields =
      if ∀ field ∈ fields, validUtf8 (orEmpty field.2).bytes = true then
        .ok (fields.map fun field => (field.1, (orEmpty field.2).bytes))
      else .error (.panic site) := by
  induction fields with
  | nil => rfl
  | cons field rest ih =>
      unfold strFields at ih ⊢
      rw [List.mapM_cons, strOrEmpty_eq, ih]
      by_cases first : validUtf8 (orEmpty field.2).bytes = true
      · by_cases others : ∀ field ∈ rest, validUtf8 (orEmpty field.2).bytes = true
        · have all : ∀ entry ∈ field :: rest, validUtf8 (orEmpty entry.2).bytes = true :=
            List.forall_mem_cons.mpr ⟨first, others⟩
          rw [if_pos first, if_pos others, if_pos all]
          rfl
        · have notAll : ¬ ∀ entry ∈ field :: rest, validUtf8 (orEmpty entry.2).bytes = true :=
            fun all => others fun entry member => all entry (List.mem_cons_of_mem _ member)
          rw [if_pos first, if_neg others, if_neg notAll]
          rfl
      · have notAll : ¬ ∀ entry ∈ field :: rest, validUtf8 (orEmpty entry.2).bytes = true :=
          fun all => first (all field List.mem_cons_self)
        rw [if_neg first, if_neg notAll]
        rfl

theorem badActorJsonRs_eq (badActor : BadActor) :
    badActorJsonRs badActor =
      if Utf8Fields badActor then .ok (serdeMap (badActorMembers badActor))
      else .error (.panic .badActorToJsonRs) := by
  rw [badActorJsonRs, strFields_eq]
  change (ite (Utf8Fields badActor) _ _ >>= _) = _
  by_cases utf8 : Utf8Fields badActor
  · rw [if_pos utf8, if_pos utf8]
    rfl
  · rw [if_neg utf8, if_neg utf8]
    rfl

theorem badActorMembers_keys (badActor : BadActor) :
    (badActorMembers badActor).map Prod.fst = badActorKeys := rfl

theorem badActorMembers_flat {badActor : BadActor} (utf8 : Utf8Fields badActor) :
    FlatMembers (badActorMembers badActor) where
  nonempty := List.cons_ne_nil _ _
  distinct := by rw [badActorMembers_keys]; decide
  keys := by
    have small : ∀ key ∈ badActorKeys, isAscii key = true := by decide
    intro member isMember
    apply small
    rw [← badActorMembers_keys badActor]
    exact List.mem_map_of_mem isMember
  values := by
    intro member isMember
    rcases List.mem_cons.mp isMember with rfl | isMember
    · decide
    rcases List.mem_cons.mp isMember with rfl | isMember
    · decide
    obtain ⟨field, isField, rfl⟩ := List.mem_map.mp isMember
    exact ⟨utf8 field isField, (orEmpty field.2).noNul⟩

/-! ## Decoding -/

def decodedActor (json : Json) : BadActor where
  eventTimestamp := jsonStringValue (json.get? "event_timestamp")
  eventUuid := jsonStringValue (json.get? "event_uuid")
  collectedMethod := jsonStringValue (json.get? "collected_method")
  createdByNodeId := jsonStringValue (json.get? "created_by_node_id")
  sipMessage := jsonStringValue (json.get? "sip_message")
  sourceIp := jsonStringValue (json.get? "source_ip")
  destinationIp := jsonStringValue (json.get? "destination_ip")
  calledNumber := jsonStringValue (json.get? "called_number")
  method := jsonStringValue (json.get? "sip_method")
  transportType := jsonStringValue (json.get? "transport_type")
  userAgent := jsonStringValue (json.get? "sip_user_agent")
  seenLast := none
  seenCount := none

theorem jsonValidates_iff {json : Json} {keys : List String} :
    jsonValidates json keys = true ↔ ∀ key ∈ keys, ∃ text, json.get? key = some (.string text) := by
  simp only [jsonValidates, List.all_eq_true]
  constructor
  · intro all key member
    have holds := all key member
    cases found : json.get? key with
    | none => simp [found] at holds
    | some value =>
        rw [found, Option.any_some] at holds
        cases value with
        | string text => exact ⟨text, rfl⟩
        | _ => cases holds
  · intro all key member
    obtain ⟨text, found⟩ := all key member
    rw [found]
    rfl

theorem badActorOfJson_eq (config : Config) (fresh : Fresh) (json : Json) :
    badActorOfJson config fresh json =
      .ok (if jsonValidates json badActorKeys then some (decodedActor json) else none) := by
  by_cases valid : jsonValidates json badActorKeys = true
  · have field (key : String) (member : key ∈ badActorKeys) :
        ∃ value, jsonStringValue (json.get? key) = some value := by
      obtain ⟨text, found⟩ := jsonValidates_iff.mp valid key member
      exact ⟨.ofMemory text, by rw [found, jsonStringValue]⟩
    obtain ⟨eventTimestamp, h1⟩ := field "event_timestamp" (by decide)
    obtain ⟨eventUuid, h2⟩ := field "event_uuid" (by decide)
    obtain ⟨createdByNodeId, h3⟩ := field "created_by_node_id" (by decide)
    obtain ⟨collectedMethod, h4⟩ := field "collected_method" (by decide)
    obtain ⟨transportType, h5⟩ := field "transport_type" (by decide)
    obtain ⟨sourceIp, h6⟩ := field "source_ip" (by decide)
    obtain ⟨destinationIp, h7⟩ := field "destination_ip" (by decide)
    obtain ⟨calledNumber, h8⟩ := field "called_number" (by decide)
    obtain ⟨method, h9⟩ := field "sip_method" (by decide)
    obtain ⟨userAgent, h10⟩ := field "sip_user_agent" (by decide)
    obtain ⟨sipMessage, h11⟩ := field "sip_message" (by decide)
    simp only [badActorOfJson, valid, jsonField, decodedActor, h1, h2, h3, h4, h5, h6, h7, h8, h9,
      h10, h11]
    rfl
  · simp only [badActorOfJson, valid]
    rfl

theorem jsonValidates_congr {a b : Json} (same : a.SameObject b) (keys : List String) :
    jsonValidates a keys = jsonValidates b keys := by
  unfold jsonValidates
  congr 1
  funext key
  rw [same key]

theorem decodedActor_congr {a b : Json} (same : a.SameObject b) :
    decodedActor a = decodedActor b := by
  simp only [decodedActor, same _]

def readBack (badActor : BadActor) : BadActor where
  eventTimestamp := some (orEmpty badActor.eventTimestamp)
  eventUuid := some (orEmpty badActor.eventUuid)
  collectedMethod := some (orEmpty badActor.collectedMethod)
  createdByNodeId := some (orEmpty badActor.createdByNodeId)
  sipMessage := some (orEmpty badActor.sipMessage)
  sourceIp := some (orEmpty badActor.sourceIp)
  destinationIp := some (orEmpty badActor.destinationIp)
  calledNumber := some (orEmpty badActor.calledNumber)
  method := some (orEmpty badActor.method)
  transportType := some (orEmpty badActor.transportType)
  userAgent := some (orEmpty badActor.userAgent)
  seenLast := none
  seenCount := none

theorem utf8Fields_readBack {badActor : BadActor} (utf8 : Utf8Fields badActor) :
    Utf8Fields (readBack badActor) := by
  have fields : badActorFields (readBack badActor) =
      (badActorFields badActor).map fun field => (field.1, some (orEmpty field.2)) := rfl
  intro field member
  rw [fields] at member
  obtain ⟨given, isField, rfl⟩ := List.mem_map.mp member
  exact utf8 given isField

theorem badActorMembers_distinct (badActor : BadActor) :
    ((badActorMembers badActor).map Prod.fst).Nodup := by
  rw [badActorMembers_keys]
  decide

theorem badActorMembers_get? {badActor : BadActor} {field : String × Option CStr}
    (member : field ∈ badActorFields badActor) :
    (flatObject (badActorMembers badActor)).get? field.1 =
      some (.string (orEmpty field.2).bytes) := by
  have found : (badActorMembers badActor).lookup field.1 = some (orEmpty field.2).bytes := by
    apply lookup_eq_some_of_mem (badActorMembers_distinct badActor)
    apply List.mem_cons_of_mem
    apply List.mem_cons_of_mem
    exact List.mem_map_of_mem (f := fun field => (field.1, (orEmpty field.2).bytes)) member
  rw [flatObject_get?, found]
  rfl

theorem jsonStringValue_badActorMembers {badActor : BadActor} {field : String × Option CStr}
    (member : field ∈ badActorFields badActor) :
    jsonStringValue ((flatObject (badActorMembers badActor)).get? field.1) =
      some (orEmpty field.2) := by
  rw [badActorMembers_get? member, jsonStringValue, CStr.ofMemory_bytes]

theorem decodedActor_badActorMembers (badActor : BadActor) :
    decodedActor (flatObject (badActorMembers badActor)) = readBack badActor := by
  have field (key : String) (value : Option CStr) (member : (key, value) ∈ badActorFields badActor) :
      jsonStringValue ((flatObject (badActorMembers badActor)).get? key) = some (orEmpty value) :=
    jsonStringValue_badActorMembers member
  simp only [decodedActor, readBack,
    field "event_timestamp" badActor.eventTimestamp (by simp [badActorFields]),
    field "event_uuid" badActor.eventUuid (by simp [badActorFields]),
    field "created_by_node_id" badActor.createdByNodeId (by simp [badActorFields]),
    field "collected_method" badActor.collectedMethod (by simp [badActorFields]),
    field "transport_type" badActor.transportType (by simp [badActorFields]),
    field "source_ip" badActor.sourceIp (by simp [badActorFields]),
    field "destination_ip" badActor.destinationIp (by simp [badActorFields]),
    field "called_number" badActor.calledNumber (by simp [badActorFields]),
    field "sip_method" badActor.method (by simp [badActorFields]),
    field "sip_user_agent" badActor.userAgent (by simp [badActorFields]),
    field "sip_message" badActor.sipMessage (by simp [badActorFields])]

theorem jsonValidates_badActorMembers (badActor : BadActor) :
    jsonValidates (flatObject (badActorMembers badActor)) badActorKeys = true := by
  rw [jsonValidates_iff]
  intro key member
  rw [← badActorMembers_keys badActor] at member
  obtain ⟨entry, isEntry, rfl⟩ := List.mem_map.mp member
  refine ⟨entry.2, ?_⟩
  rw [flatObject_get?, lookup_eq_some_of_mem (badActorMembers_distinct badActor) isEntry]
  rfl

theorem jsonToBadActor_members {jansson : Jansson} {text : CStr} {json : Json}
    {badActor : BadActor} (config : Config) (fresh : Fresh)
    (loaded : jansson.loadb text.bytes = some json)
    (same : json.SameObject (flatObject (badActorMembers badActor))) :
    jsonToBadActor jansson config fresh text = .ok (some (readBack badActor)) := by
  rw [jsonToBadActor, loaded]
  simp only
  rw [badActorOfJson_eq, jsonValidates_congr same, jsonValidates_badActorMembers,
    decodedActor_congr same, decodedActor_badActorMembers]
  rfl

/-! ## Reading the texts back -/

/-- jansson reads back the flat objects it has printed. -/
def JanssonDecodes (jansson : Jansson) : Prop :=
  ∀ members, FlatMembers members →
    jansson.loadb (jansson.dumps (flatObject members)).bytes = some (flatObject members)

/-- serde_json does too, up to the order of the keys. -/
def SerdeDecodes (serde : Serde) : Prop :=
  ∀ members, FlatMembers members → ∃ back,
    serde.fromText (serde.toText (flatObject members)).bytes = some back ∧
      back.SameObject (flatObject members)

def Describes (json : Json) (badActor : BadActor) : Prop :=
  ∀ key, json.get? key = ((badActorMembers badActor).lookup key).map .string

def SameEncoding (jansson : Jansson) (serde : Serde) (badActor : BadActor) : Prop :=
  ∃ rs, badActorToJsonRs serde badActor = .ok rs ∧
    match badActorToJson jansson badActor, rs with
    | some c, some rs => ∃ a b, jansson.loadb c.bytes = some a ∧ serde.fromText rs.bytes = some b ∧
        a.SameObject b ∧ Describes a badActor
    | none, none => True
    | _, _ => False

theorem badActorToJson_same_iff (jansson : Jansson) (serde : Serde) (decodes : JanssonDecodes jansson)
    (decodesRs : SerdeDecodes serde) (badActor : BadActor) :
    SameEncoding jansson serde badActor ↔ Utf8Fields badActor := by
  constructor
  · rintro ⟨rs, ran, -⟩
    by_contra invalid
    rw [badActorToJsonRs, badActorJsonRs_eq, if_neg invalid] at ran
    cases ran
  · intro utf8
    have flat := badActorMembers_flat utf8
    have sorted := List.perm_insertionSort (fun a b : String × List UInt8 => a.1 ≤ b.1)
      (badActorMembers badActor)
    obtain ⟨back, read, same⟩ := decodesRs _ (flat.perm sorted.symm)
    refine ⟨some (serde.toText (serdeMap (badActorMembers badActor))), ?_, ?_⟩
    · rw [badActorToJsonRs, badActorJsonRs_eq, if_pos utf8]
      rfl
    · simp only [badActorToJson, badActorJson_eq, if_pos utf8, Option.map_some]
      refine ⟨_, back, decodes _ flat, read, fun key => ?_, flatObject_get? _⟩
      rw [same key]
      exact flatObject_same_of_perm sorted.symm flat.distinct key

def compactJansson : Jansson where
  dumps json := printFlat true (stringMembers json)
  loadb := readFlat

def compactSerde : Serde where
  toText json := printFlat false (stringMembers json)
  fromText := readFlat

theorem compactJansson_decodes : JanssonDecodes compactJansson := by
  intro members flat
  simp only [compactJansson, stringMembers_flatObject]
  exact readFlat_printFlat true flat

theorem compactSerde_decodes : SerdeDecodes compactSerde := by
  intro members flat
  refine ⟨flatObject members, ?_, fun _ => rfl⟩
  simp only [compactSerde, stringMembers_flatObject]
  exact readFlat_printFlat false flat

def inviteActor (calledNumber : CStr) : BadActor where
  eventTimestamp := some (.lit "2026-07-27 10:00:00.000000000")
  eventUuid := some (.lit "460f30e4-3b3b-4b3b-8b3b-0123456789ab")
  collectedMethod := some (.lit "passive")
  createdByNodeId := some (.lit "e1d4")
  sipMessage := some (.lit "INVITE sip:x SIP/2.0\r\n")
  sourceIp := some (.lit "192.0.2.1")
  destinationIp := some (.lit "192.0.2.2")
  calledNumber := some calledNumber
  method := some (.lit "INVITE")
  transportType := some (.lit "UDP")
  userAgent := none
  seenLast := none
  seenCount := none

theorem inviteActor_utf8 : Utf8Fields (inviteActor (.lit "100")) := by decide

theorem badActorToJson_same_called_100 :
    SameEncoding compactJansson compactSerde (inviteActor (.lit "100")) :=
  (badActorToJson_same_iff _ _ compactJansson_decodes compactSerde_decodes _).mpr inviteActor_utf8

/-- `sip:%FF@host` unescapes to one byte that is not UTF-8. -/
theorem badActorToJsonRs_invalid_called_number_panics :
    badActorToJson compactJansson (inviteActor ⟨[0xFF], by decide⟩) = none ∧
    badActorToJsonRs compactSerde (inviteActor ⟨[0xFF], by decide⟩) =
      .error (.panic .badActorToJsonRs) ∧
    ¬ SameEncoding compactJansson compactSerde (inviteActor ⟨[0xFF], by decide⟩) := by
  have panics : badActorToJsonRs compactSerde (inviteActor ⟨[0xFF], by decide⟩) =
      .error (.panic .badActorToJsonRs) := by
    rw [badActorToJsonRs, badActorJsonRs_eq, if_neg (by decide)]
    rfl
  refine ⟨?_, panics, ?_⟩
  · rw [badActorToJson, badActorJson_eq, if_neg (by decide)]
    rfl
  · rintro ⟨rs, ran, -⟩
    rw [panics] at ran
    cases ran

end SentryPeer.Proof
