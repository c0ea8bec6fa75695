import SentryPeer.Proof.DhtValue

/-!
# The two decoders

`json_to_bad_actor` reports a text that it cannot use and takes the timestamp and the UUID of the
event from it. `json_to_bad_actor_rs` panics on such a text, does not look at four of the keys, and
keeps the timestamp and the UUID that `bad_actor_new` generates.
-/

namespace SentryPeer.Proof
open Lib

/-- Where both libraries read a text, they find the same strings in it. -/
def SameStrings (jansson : Jansson) (serde : Serde) : Prop :=
  ∀ text a b, jansson.loadb text = some a → serde.fromText text = some b →
    ∀ key value, a.get? key = some (.string value) ↔ b.get? key = some (.string value)

/-- Both calls return, both null or both an event with the same eleven fields. -/
def DecodersAlike (jansson : Jansson) (serde : Serde) (config : Config) (fresh freshRs : Fresh)
    (text : CStr) : Prop :=
  ∃ c rs, jsonToBadActor jansson config fresh text = .ok c ∧
    jsonToBadActorRs serde freshRs text = .ok rs ∧
    c.map badActorFields = rs.map badActorFields

/-! ## The Rust decoder -/

def rustKeys : List String :=
  ["sip_message", "source_ip", "destination_ip", "called_number", "sip_method", "transport_type",
    "sip_user_agent", "collected_method", "created_by_node_id"]

section Rust
variable {jansson : Jansson} {serde : Serde} {config : Config} {fresh freshRs : Fresh} {text : CStr}

theorem cStringOf_eq_ok {site : Function} {v : Json} {key : String} {value : CStr} :
    cStringOf site v key = .ok value ↔ v.get? key = some (.string value.bytes) := by
  unfold cStringOf
  constructor
  · intro ran
    split at ran
    · rename_i bytes found
      split_ifs at ran with zero
      cases ran
      rw [found, CStr.bytes_ofMemory zero]
    · cases ran
  · intro found
    simp only [found, if_neg value.noNul, CStr.ofMemory_bytes]

theorem jsonStringValue_eq_some {value : CStr} {child : Option Json}
    (found : child = some (.string value.bytes)) : jsonStringValue child = some value := by
  rw [found, jsonStringValue, CStr.ofMemory_bytes]

theorem badActorOfValueRs_eq {v : Json}
    (strings : ∀ key ∈ rustKeys, ∃ value : CStr, v.get? key = some (.string value.bytes)) :
    badActorOfValueRs freshRs v = .ok { decodedActor v with
      eventTimestamp := some freshRs.timestamp
      eventUuid := some freshRs.uuid } := by
  obtain ⟨sipMessage, h1⟩ := strings "sip_message" (by decide)
  obtain ⟨sourceIp, h2⟩ := strings "source_ip" (by decide)
  obtain ⟨destinationIp, h3⟩ := strings "destination_ip" (by decide)
  obtain ⟨calledNumber, h4⟩ := strings "called_number" (by decide)
  obtain ⟨method, h5⟩ := strings "sip_method" (by decide)
  obtain ⟨transportType, h6⟩ := strings "transport_type" (by decide)
  obtain ⟨userAgent, h7⟩ := strings "sip_user_agent" (by decide)
  obtain ⟨collectedMethod, h8⟩ := strings "collected_method" (by decide)
  obtain ⟨createdByNodeId, h9⟩ := strings "created_by_node_id" (by decide)
  simp only [badActorOfValueRs, cStringOf_eq_ok.mpr h1, cStringOf_eq_ok.mpr h2,
    cStringOf_eq_ok.mpr h3, cStringOf_eq_ok.mpr h4, cStringOf_eq_ok.mpr h5, cStringOf_eq_ok.mpr h6,
    cStringOf_eq_ok.mpr h7, cStringOf_eq_ok.mpr h8, cStringOf_eq_ok.mpr h9, decodedActor,
    jsonStringValue_eq_some h1, jsonStringValue_eq_some h2, jsonStringValue_eq_some h3,
    jsonStringValue_eq_some h4, jsonStringValue_eq_some h5, jsonStringValue_eq_some h6,
    jsonStringValue_eq_some h7, jsonStringValue_eq_some h8, jsonStringValue_eq_some h9]
  rfl

theorem badActorOfValueRs_strings {v : Json} {badActor : BadActor}
    (ran : badActorOfValueRs freshRs v = .ok badActor) :
    ∀ key ∈ rustKeys, ∃ value : CStr, v.get? key = some (.string value.bytes) := by
  obtain ⟨sipMessage, h1, ran⟩ := bind_eq_ok.mp ran
  obtain ⟨sourceIp, h2, ran⟩ := bind_eq_ok.mp ran
  obtain ⟨destinationIp, h3, ran⟩ := bind_eq_ok.mp ran
  obtain ⟨calledNumber, h4, ran⟩ := bind_eq_ok.mp ran
  obtain ⟨method, h5, ran⟩ := bind_eq_ok.mp ran
  obtain ⟨transportType, h6, ran⟩ := bind_eq_ok.mp ran
  obtain ⟨userAgent, h7, ran⟩ := bind_eq_ok.mp ran
  obtain ⟨collectedMethod, h8, ran⟩ := bind_eq_ok.mp ran
  obtain ⟨createdByNodeId, h9, -⟩ := bind_eq_ok.mp ran
  rw [cStringOf_eq_ok] at h1 h2 h3 h4 h5 h6 h7 h8 h9
  simp only [rustKeys, List.forall_mem_cons]
  exact ⟨⟨_, h1⟩, ⟨_, h2⟩, ⟨_, h3⟩, ⟨_, h4⟩, ⟨_, h5⟩, ⟨_, h6⟩, ⟨_, h7⟩, ⟨_, h8⟩, ⟨_, h9⟩,
    List.forall_mem_nil _⟩

theorem jsonToBadActorRs_eq_ok {rs : Option BadActor} :
    jsonToBadActorRs serde freshRs text = .ok rs ↔
      ∃ v, validUtf8 text.bytes = true ∧ serde.fromText text.bytes = some v ∧
        (∀ key ∈ rustKeys, ∃ value : CStr, v.get? key = some (.string value.bytes)) ∧
        rs = some { decodedActor v with
          eventTimestamp := some freshRs.timestamp
          eventUuid := some freshRs.uuid } := by
  unfold jsonToBadActorRs
  constructor
  · intro ran
    split at ran
    · cases ran
    rename_i utf8
    split at ran
    · cases ran
    rename_i v read
    cases built : badActorOfValueRs freshRs v with
    | error abort =>
        rw [built] at ran
        cases ran
    | ok badActor =>
        have strings := badActorOfValueRs_strings built
        rw [built] at ran
        rw [badActorOfValueRs_eq strings] at built
        cases ran
        cases built
        exact ⟨v, by simpa using utf8, read, strings, rfl⟩
  · rintro ⟨v, utf8, read, strings, rfl⟩
    simp only [utf8, read, badActorOfValueRs_eq strings]
    rfl

/-! ## Side by side -/

theorem jsonToBadActor_eq_some {badActor : BadActor} :
    jsonToBadActor jansson config fresh text = .ok (some badActor) ↔
      ∃ json, jansson.loadb text.bytes = some json ∧
        (∀ key ∈ badActorKeys, ∃ value, json.get? key = some (.string value)) ∧
        badActor = decodedActor json := by
  unfold jsonToBadActor
  cases loaded : jansson.loadb text.bytes with
  | none => simp
  | some json =>
      simp only [badActorOfJson_eq, ← jsonValidates_iff]
      by_cases valid : jsonValidates json badActorKeys = true
      · rw [if_pos valid]
        constructor
        · intro ran
          exact ⟨json, rfl, valid, (Option.some.inj (Except.ok.inj ran)).symm⟩
        · rintro ⟨_, same, -, rfl⟩
          cases same
          rfl
      · simp [valid]

theorem badActorFields_timestamp_uuid {a b : BadActor} (same : badActorFields a = badActorFields b) :
    a.eventTimestamp = b.eventTimestamp ∧ a.eventUuid = b.eventUuid := by
  simp only [badActorFields, List.cons.injEq, Prod.mk.injEq, true_and] at same
  exact ⟨same.1, same.2.1⟩

variable (jansson serde config fresh freshRs) in
theorem decoders_alike_iff (strings : JanssonStrings jansson) (agree : SameStrings jansson serde)
    (text : CStr) :
    DecodersAlike jansson serde config fresh freshRs text ↔
      validUtf8 text.bytes = true ∧ (serde.fromText text.bytes).isSome = true ∧
      ∃ json, jansson.loadb text.bytes = some json ∧
        (∀ key ∈ badActorKeys, ∃ value, json.get? key = some (.string value)) ∧
        json.get? "event_timestamp" = some (.string freshRs.timestamp.bytes) ∧
        json.get? "event_uuid" = some (.string freshRs.uuid.bytes) := by
  constructor
  · rintro ⟨c, rs, ran, ranRs, same⟩
    obtain ⟨v, utf8, read, -, rfl⟩ := jsonToBadActorRs_eq_ok.mp ranRs
    cases c with
    | none => cases same
    | some badActor =>
        obtain ⟨json, loaded, keys, rfl⟩ := jsonToBadActor_eq_some.mp ran
        have fresh := badActorFields_timestamp_uuid (Option.some.inj same)
        refine ⟨utf8, by rw [read]; rfl, json, loaded, keys, ?_, ?_⟩
        · exact (strings.value loaded fresh.1).1
        · exact (strings.value loaded fresh.2).1
  · rintro ⟨utf8, readable, json, loaded, keys, timestamp, uuid⟩
    obtain ⟨v, read⟩ := Option.isSome_iff_exists.mp readable
    have shared (key : String) (member : key ∈ badActorKeys) :
        ∃ value : CStr, json.get? key = some (.string value.bytes) ∧
          v.get? key = some (.string value.bytes) := by
      obtain ⟨bytes, found⟩ := keys key member
      have noNul := (strings _ json key bytes loaded found).2
      refine ⟨.ofMemory bytes, ?_⟩
      rw [CStr.bytes_ofMemory noNul]
      exact ⟨found, (agree _ json v loaded read key bytes).mp found⟩
    have known : ∀ key ∈ rustKeys, key ∈ badActorKeys := by decide
    refine ⟨some (decodedActor json), _, jsonToBadActor_eq_some.mpr ⟨json, loaded, keys, rfl⟩,
      jsonToBadActorRs_eq_ok.mpr ⟨v, utf8, read, fun key member => ?_, rfl⟩, ?_⟩
    · obtain ⟨value, -, found⟩ := shared key (known key member)
      exact ⟨value, found⟩
    · have field (key : String) (member : key ∈ badActorKeys) :
          jsonStringValue (json.get? key) = jsonStringValue (v.get? key) := by
        obtain ⟨value, found, foundRs⟩ := shared key member
        rw [found, foundRs]
      simp only [Option.map_some, badActorFields, decodedActor, jsonStringValue_eq_some timestamp,
        jsonStringValue_eq_some uuid, field "created_by_node_id" (by decide),
        field "collected_method" (by decide), field "transport_type" (by decide),
        field "source_ip" (by decide), field "destination_ip" (by decide),
        field "called_number" (by decide), field "sip_method" (by decide),
        field "sip_user_agent" (by decide), field "sip_message" (by decide)]

end Rust

/-! ## A text of the log -/

theorem strict_sameStrings : SameStrings strictJansson compactSerde := by
  intro text a b loaded read key value
  have same : a = b := Option.some.inj ((Option.filter_eq_some_iff.mp loaded).1.symm.trans read)
  rw [same]

def peerFresh : Fresh :=
  ⟨.lit "2026-07-27 10:00:00.000000000", .lit "460f30e4-3b3b-4b3b-8b3b-0123456789ab"⟩

theorem fromText_peerText :
    compactSerde.fromText peerText.bytes = some (flatObject (badActorMembers peerActor)) := by
  simp only [compactSerde]
  exact readFlat_peerText

theorem peerText_utf8 : validUtf8 peerText.bytes = true := by decide +kernel

/-- The clock and the generator would have to repeat what the text holds. -/
theorem decoders_alike_repeated :
    DecodersAlike strictJansson compactSerde plainConfig someFresh peerFresh peerText := by
  apply (decoders_alike_iff _ _ _ _ _ strictJansson_strings strict_sameStrings _).mpr
  refine ⟨peerText_utf8, ?_, _, loadb_peerText,
    jsonValidates_iff.mp (jsonValidates_badActorMembers _), ?_, ?_⟩
  · rw [fromText_peerText]
    rfl
  · rfl
  · rfl

/-- The text decodes to its event in C and to one with another UUID in Rust. -/
theorem decoders_new_uuid_differ :
    jsonToBadActor strictJansson plainConfig someFresh peerText = .ok (some peerActor) ∧
    jsonToBadActorRs compactSerde someFresh peerText = .ok (some { peerActor with
      eventUuid := some someFresh.uuid }) ∧
    ¬ DecodersAlike strictJansson compactSerde plainConfig someFresh someFresh peerText := by
  have c : jsonToBadActor strictJansson plainConfig someFresh peerText = .ok (some peerActor) :=
    jsonToBadActor_members plainConfig someFresh loadb_peerText fun _ => rfl
  have rs : jsonToBadActorRs compactSerde someFresh peerText = .ok (some { peerActor with
      eventUuid := some someFresh.uuid }) := by
    refine jsonToBadActorRs_eq_ok.mpr ⟨_, peerText_utf8, fromText_peerText, ?_, rfl⟩
    simp only [rustKeys, List.forall_mem_cons]
    exact ⟨⟨_, rfl⟩, ⟨_, rfl⟩, ⟨_, rfl⟩, ⟨_, rfl⟩, ⟨_, rfl⟩, ⟨_, rfl⟩, ⟨_, rfl⟩, ⟨_, rfl⟩, ⟨_, rfl⟩,
      List.forall_mem_nil _⟩
  refine ⟨c, rs, ?_⟩
  rintro ⟨_, _, ran, ranRs, same⟩
  rw [c] at ran
  rw [rs] at ranRs
  cases ran
  cases ranRs
  have uuids := (badActorFields_timestamp_uuid (Option.some.inj same)).2
  exact absurd uuids (by decide)

end SentryPeer.Proof
