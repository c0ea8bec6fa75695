import SentryPeer.Proof.JsonLog

/-!
# Values from the DHT

Whatever bytes a peer has put, the callback either does nothing or logs the event that it has
checked: the text is parsed twice, and both times it gives the same object.
-/

namespace SentryPeer.Proof
open Lib

/-! ## What the callback asks of a value -/

structure Admitted (jansson : Jansson) (config : Config) (honey : List HoneyRow)
    (data : List UInt8) (json : Json) : Prop where
  loaded : jansson.loadb (CStr.ofMemory data).bytes = some json
  isObject : json.isObject = true
  strings : ∀ key ∈ badActorKeys, ∃ text, json.get? key = some (.string text)
  nodeId : ∃ nodeId, jsonStringValue (json.get? "created_by_node_id") = some nodeId ∧
    isValidUuid nodeId = true ∧ nodeId ≠ config.nodeId
  eventUuid : ∃ uuid, jsonStringValue (json.get? "event_uuid") = some uuid ∧
    isValidUuid uuid = true ∧ ∀ row ∈ honey, row.eventUuid ≠ some uuid

section Callback
variable {build : Build} {jansson : Jansson} {config : Config} {fresh : Fresh} {σ : Type}

theorem dhtValueUuid_eq_some {value uuid : CStr}
    (looked : dhtValueUuid jansson config value = some uuid) :
    ∃ json nodeId, jansson.loadb value.bytes = some json ∧ json.isObject = true ∧
      (jsonStringValue (json.get? "created_by_node_id") = some nodeId ∧
        isValidUuid nodeId = true ∧ nodeId ≠ config.nodeId) ∧
      jsonStringValue (json.get? "event_uuid") = some uuid ∧ isValidUuid uuid = true := by
  simp only [dhtValueUuid, Option.bind_eq_bind, Option.bind_eq_some_iff] at looked
  obtain ⟨json, loaded, _, isObject, nodeId, foundId, nodeIdStr, stringId, _, validId, _, foreign,
    eventUuid, found, eventUuidStr, isString, _, valid, returned⟩ := looked
  cases returned
  have notOwn : nodeIdStr ≠ config.nodeId := by
    rintro rfl
    have outside := (Option.guard_eq_some' _).mp foreign
    rw [List.isPrefixOf_iff_prefix.mpr (List.prefix_refl _)] at outside
    cases outside
  refine ⟨json, nodeIdStr, loaded, (Option.guard_eq_some' _).mp isObject,
    ⟨?_, (Option.guard_eq_some' _).mp validId, notOwn⟩, ?_, (Option.guard_eq_some' _).mp valid⟩
  · rw [foundId]
    exact stringId
  · rw [found]
    exact isString

variable (jansson config fresh) in
theorem jsonToBadActor_returns (text : CStr) :
    ∃ decoded, jsonToBadActor jansson config fresh text = .ok decoded := by
  unfold jsonToBadActor
  split
  · exact ⟨none, rfl⟩
  · exact ⟨_, badActorOfJson_eq config fresh _⟩

variable (build jansson config fresh) in
theorem dhtValueCallback_logs (sinks : Sinks σ) {dbExists : CStr → EStateM Abort σ Bool}
    (data : List UInt8) (expired : Bool) {s : σ} {found : CStr → Bool}
    (reads : ∀ uuid, dbExists uuid s = .ok (found uuid) s) :
    dhtValueCallback build jansson sinks dbExists config fresh data expired s = .ok () s ∨
      ∃ uuid badActor, expired = false ∧
        dhtValueUuid jansson config (.ofMemory data) = some uuid ∧ found uuid = false ∧
        jsonToBadActor jansson config fresh (.ofMemory data) = .ok (some badActor) ∧
        dhtValueCallback build jansson sinks dbExists config fresh data expired s =
          (badActorLog build sinks config badActor >>= fun _ => pure ()) s := by
  unfold dhtValueCallback
  cases expired with
  | true => exact .inl rfl
  | false =>
      by_cases empty : data.length = 0
      · exact .inl (by simp only [empty]; rfl)
      simp only [Bool.false_eq_true, ↓reduceIte, empty]
      cases looked : dhtValueUuid jansson config (.ofMemory data) with
      | none => exact .inl rfl
      | some uuid =>
          simp only [run_bind, reads]
          cases seen : found uuid with
          | true => exact .inl rfl
          | false =>
              obtain ⟨decoded, ran⟩ := jsonToBadActor_returns jansson config fresh (.ofMemory data)
              simp only [ran, fromExcept_ok]
              cases decoded with
              | none => exact .inl rfl
              | some badActor => exact .inr ⟨uuid, badActor, trivial, rfl, seen, rfl, rfl⟩

theorem absent_of_dbBadActorExists {succeeds : ExistsCall → Bool} {uuid : CStr}
    {honey : List HoneyRow} (valid : isValidUuid uuid = true)
    (all : existsCalls.all succeeds = true)
    (unseen : dbBadActorExists succeeds uuid honey = false) :
    ∀ row ∈ honey, row.eventUuid ≠ some uuid := by
  simpa [dbBadActorExists, valid, all] using unseen

variable (build jansson config fresh) in
theorem dhtValueCallback_cases (sinks : Sinks σ) {dbExists : CStr → EStateM Abort σ Bool}
    (data : List UInt8) (expired : Bool) {s : σ} {honey : List HoneyRow}
    (reads : ∀ uuid, dbExists uuid s = .ok (dbBadActorExists (fun _ => true) uuid honey) s) :
    dhtValueCallback build jansson sinks dbExists config fresh data expired s = .ok () s ∨
      ∃ uuid badActor, expired = false ∧
        dhtValueUuid jansson config (.ofMemory data) = some uuid ∧
        (∀ row ∈ honey, row.eventUuid ≠ some uuid) ∧
        jsonToBadActor jansson config fresh (.ofMemory data) = .ok (some badActor) ∧
        dhtValueCallback build jansson sinks dbExists config fresh data expired s =
          (badActorLog build sinks config badActor >>= fun _ => pure ()) s := by
  refine (dhtValueCallback_logs build jansson config fresh sinks data expired reads).imp_right ?_
  rintro ⟨uuid, badActor, live, looked, unseen, decoded, ran⟩
  obtain ⟨_, _, _, _, _, _, valid⟩ := dhtValueUuid_eq_some looked
  exact ⟨uuid, badActor, live, looked, absent_of_dbBadActorExists valid rfl unseen, decoded, ran⟩

theorem admitted_of_looked {data : List UInt8} {honey : List HoneyRow} {uuid : CStr}
    {badActor : BadActor} (looked : dhtValueUuid jansson config (.ofMemory data) = some uuid)
    (absent : ∀ row ∈ honey, row.eventUuid ≠ some uuid)
    (decoded : jsonToBadActor jansson config fresh (.ofMemory data) = .ok (some badActor)) :
    badActor.eventUuid = some uuid ∧
      ∃ json, Admitted jansson config honey data json ∧ badActor = decodedActor json := by
  obtain ⟨json, nodeId, loaded, isObject, ownId, isUuid, valid⟩ := dhtValueUuid_eq_some looked
  simp only [jsonToBadActor, loaded, badActorOfJson_eq] at decoded
  split_ifs at decoded with validates
  · cases decoded
    exact ⟨isUuid, json, ⟨loaded, isObject, jsonValidates_iff.mp validates, ⟨nodeId, ownId⟩,
      ⟨uuid, isUuid, valid, absent⟩⟩, rfl⟩
  · cases decoded

theorem dhtValueCallback_unseen (sinks : Sinks σ) {dbExists : CStr → EStateM Abort σ Bool}
    {text nodeId uuid : CStr} {badActor : BadActor} {s : σ}
    (loaded : jansson.loadb text.bytes = some (flatObject (badActorMembers badActor)))
    (nonempty : text.bytes ≠ [])
    (byNode : badActor.createdByNodeId = some nodeId) (validId : isValidUuid nodeId = true)
    (foreign : config.nodeId.bytes.isPrefixOf nodeId.bytes = false)
    (isUuid : badActor.eventUuid = some uuid) (valid : isValidUuid uuid = true)
    (unseen : dbExists uuid s = .ok false s) :
    dhtValueCallback build jansson sinks dbExists config fresh text.bytes false s =
      (badActorLog build sinks config (readBack badActor) >>= fun _ => pure ()) s := by
  have looked : dhtValueUuid jansson config text = some uuid := by
    have first : (flatObject (badActorMembers badActor)).get? "created_by_node_id" =
        some (.string nodeId.bytes) := by
      have member : ("created_by_node_id", badActor.createdByNodeId) ∈ badActorFields badActor := by
        simp [badActorFields]
      rw [badActorMembers_get? member, byNode]
      rfl
    have second : (flatObject (badActorMembers badActor)).get? "event_uuid" =
        some (.string uuid.bytes) := by
      have member : ("event_uuid", badActor.eventUuid) ∈ badActorFields badActor := by
        simp [badActorFields]
      rw [badActorMembers_get? member, isUuid]
      rfl
    have isObject : (flatObject (badActorMembers badActor)).isObject = true := rfl
    simp [dhtValueUuid, loaded, first, second, jsonStringValue, validId, foreign, valid, isObject]
  have decoded := jsonToBadActor_members config fresh loaded fun _ => rfl
  have long : ¬ text.bytes.length = 0 := by simpa using nonempty
  simp only [dhtValueCallback, Bool.false_eq_true, ↓reduceIte, long, CStr.ofMemory_bytes, looked,
    decoded, run_bind, unseen, fromExcept_ok]
  rfl

theorem dhtValueCallback_event (sinks : Sinks σ) {dbExists : CStr → EStateM Abort σ Bool}
    {text nodeId uuid : CStr} {badActor : BadActor} {s : σ} {honey : List HoneyRow}
    (reads : ∀ uuid, dbExists uuid s = .ok (dbBadActorExists (fun _ => true) uuid honey) s)
    (loaded : jansson.loadb text.bytes = some (flatObject (badActorMembers badActor)))
    (nonempty : text.bytes ≠ [])
    (byNode : badActor.createdByNodeId = some nodeId) (validId : isValidUuid nodeId = true)
    (foreign : config.nodeId.bytes.isPrefixOf nodeId.bytes = false)
    (isUuid : badActor.eventUuid = some uuid) (valid : isValidUuid uuid = true)
    (absent : ∀ row ∈ honey, row.eventUuid ≠ some uuid) :
    dhtValueCallback build jansson sinks dbExists config fresh text.bytes false s =
      (badActorLog build sinks config (readBack badActor) >>= fun _ => pure ()) s := by
  apply dhtValueCallback_unseen sinks loaded nonempty byNode validId foreign isUuid valid
  have new : dbBadActorExists (fun _ => true) uuid honey = false := by
    simpa [dbBadActorExists, valid, existsCalls] using absent
  rw [reads, new]

end Callback

/-! ## The stores after a call -/

/-- The strings that jansson reads are UTF-8, and it turns `\u0000` down. -/
def JanssonStrings (jansson : Jansson) : Prop :=
  ∀ text json key value, jansson.loadb text = some json → json.get? key = some (.string value) →
    validUtf8 value = true ∧ 0 ∉ value

def honeyColumns : List (String × (HoneyRow → Option CStr)) := [
  ("event_timestamp", HoneyRow.eventTimestamp),
  ("event_uuid", HoneyRow.eventUuid),
  ("collected_method", HoneyRow.collectedMethod),
  ("source_ip", HoneyRow.sourceIp),
  ("called_number", HoneyRow.calledNumber),
  ("transport_type", HoneyRow.transportType),
  ("sip_method", HoneyRow.method),
  ("sip_user_agent", HoneyRow.userAgent),
  ("sip_message", HoneyRow.sipMessage),
  ("created_by_node_id", HoneyRow.createdByNodeId)]

theorem honeyColumns_decodedActor (json : Json) {column : String × (HoneyRow → Option CStr)}
    (member : column ∈ honeyColumns) :
    column.1 ∈ badActorKeys ∧
      column.2 (honeyRow (decodedActor json)) = jsonStringValue (json.get? column.1) := by
  simp only [honeyColumns, List.mem_cons, List.not_mem_nil, or_false] at member
  rcases member with rfl | rfl | rfl | rfl | rfl | rfl | rfl | rfl | rfl | rfl
  all_goals exact ⟨by decide, rfl⟩

section Stores
variable {build : Build} {jansson : Jansson} {serde : Serde} {config : Config}
  {answers : StoreAnswers} {fresh : Fresh} {badActor : BadActor}

theorem badActorFields_decodedActor (json : Json) {field : String × Option CStr}
    (member : field ∈ badActorFields (decodedActor json)) :
    field.2 = jsonStringValue (json.get? field.1) := by
  simp only [badActorFields, List.mem_cons, List.not_mem_nil, or_false] at member
  rcases member with rfl | rfl | rfl | rfl | rfl | rfl | rfl | rfl | rfl | rfl | rfl
  all_goals rfl

theorem JanssonStrings.value (strings : JanssonStrings jansson) {text : List UInt8} {json : Json}
    (loaded : jansson.loadb text = some json) {key : String} {value : CStr}
    (found : jsonStringValue (json.get? key) = some value) :
    json.get? key = some (.string value.bytes) ∧ validUtf8 value.bytes = true := by
  cases entry : json.get? key with
  | none =>
      rw [entry] at found
      cases found
  | some child =>
      rw [entry] at found
      cases child with
      | string bytes =>
          obtain ⟨utf8, noNul⟩ := strings text json key bytes loaded entry
          cases found
          rw [CStr.bytes_ofMemory noNul]
          exact ⟨rfl, utf8⟩
      | _ => cases found

theorem utf8Fields_decodedActor (strings : JanssonStrings jansson) {text : List UInt8} {json : Json}
    (loaded : jansson.loadb text = some json) : Utf8Fields (decodedActor json) := by
  intro field member
  cases value : field.2 with
  | none => rfl
  | some string =>
      rw [badActorFields_decodedActor json member] at value
      exact (strings.value loaded value).2

theorem onJsonLog_ok {call : List UInt8 → Except Abort (Exit × List UInt8)} {s : Stores}
    {exit : Exit} {log : List UInt8} (ran : call s.jsonLog = .ok (exit, log)) :
    onJsonLog call s = .ok exit { s with jsonLog := log } := by
  simp only [onJsonLog, ran]

theorem jsonLogBadActor_returns (cBuild : build.rust = false) (io : LogIo) (logfile : List UInt8) :
    ∃ exit log, jsonLogBadActor build jansson serde io badActor logfile = .ok (exit, log) := by
  unfold jsonLogBadActor
  cases io.opens with
  | false => exact ⟨_, _, rfl⟩
  | true =>
      simp only [logEncoder, cBuild]
      cases badActorToJson jansson badActor with
      | none => exact ⟨_, _, rfl⟩
      | some text => cases io.closes <;> exact ⟨_, _, rfl⟩

theorem jsonLogBadActorRs_returns (utf8 : Utf8Fields badActor)
    (named : validUtf8 config.jsonLogFile.bytes = true) (io : LogIo) (logfile : List UInt8) :
    ∃ exit log, jsonLogBadActorRs serde io config badActor logfile = .ok (exit, log) := by
  simp only [jsonLogBadActorRs, named, badActorToJsonRs_utf8 utf8]
  cases io.opens with
  | false => exact ⟨_, _, rfl⟩
  | true => cases io.writes <;> exact ⟨_, _, rfl⟩

/-- `json_log_bad_actor_rs` panics on a log file whose name is not UTF-8. -/
def UnreadableLogName (config : Config) (abort : Abort) : Prop :=
  abort = .panic .jsonLogBadActorRs ∧ validUtf8 config.jsonLogFile.bytes = false

def StoresRow (succeeds : InsertCall → Bool) : Prop :=
  insertCallsBeforeStep.all succeeds = true ∧ succeeds .step = true

variable (badActor) in
theorem dbInsertBadActor_row (succeeds : InsertCall → Bool) (honey : List HoneyRow) :
    (¬ StoresRow succeeds ∧ dbInsertBadActor succeeds badActor honey = (.failure, honey)) ∨
      (StoresRow succeeds ∧
        (dbInsertBadActor succeeds badActor honey).2 = honey ++ [honeyRow badActor]) := by
  unfold dbInsertBadActor StoresRow
  cases insertCallsBeforeStep.all succeeds with
  | false => exact .inl ⟨by simp, rfl⟩
  | true =>
      cases succeeds .step with
      | false => exact .inl ⟨by simp, rfl⟩
      | true =>
          refine .inr ⟨⟨rfl, rfl⟩, ?_⟩
          cases succeeds .finalize <;> cases succeeds .close <;> rfl

variable (build jansson serde config answers) in
/-- On text the JSON log is all that the first part of `bad_actor_log` touches, and only the name of
the log file can stop it. -/
theorem badActorLogJson_stores (utf8 : Utf8Fields badActor) (s : Stores) :
    (∃ exit log, badActorLogJson build (storeSinks build jansson serde config answers) config
      badActor s = .ok exit { s with jsonLog := log }) ∨
    (badActorLogJson build (storeSinks build jansson serde config answers) config badActor s =
      .error (.panic .jsonLogBadActorRs) s ∧ validUtf8 config.jsonLogFile.bytes = false) := by
  unfold badActorLogJson
  split_ifs with rust newLog cLog
  · cases named : validUtf8 config.jsonLogFile.bytes with
    | true =>
        obtain ⟨exit, log, ran⟩ := jsonLogBadActorRs_returns utf8 named answers.logIo s.jsonLog
        exact .inl ⟨exit, log, onJsonLog_ok ran⟩
    | false =>
        refine .inr ⟨?_, rfl⟩
        simp only [storeSinks, onJsonLog, jsonLogBadActorRs, named]
        rfl
  · exact .inl ⟨.success, s.jsonLog, rfl⟩
  · obtain ⟨exit, log, ran⟩ := jsonLogBadActor_returns (by simpa using rust) answers.logIo s.jsonLog
    exact .inl ⟨exit, log, onJsonLog_ok ran⟩
  · exact .inl ⟨.success, s.jsonLog, rfl⟩

theorem storeSinks_insert (s : Stores) :
    (storeSinks build jansson serde config answers).dbInsertBadActor badActor s =
      .ok (dbInsertBadActor answers.insert badActor s.honey).1
        { s with honey := (dbInsertBadActor answers.insert badActor s.honey).2 } := rfl

theorem badActorLogWebhook_off (quiet : config.webhookMode = false) {σ : Type} (sinks : Sinks σ) :
    badActorLogWebhook build sinks config badActor = pure .success := by
  simp [badActorLogWebhook, quiet]

variable (build jansson serde config answers) in
theorem badActorLog_stores (quiet : config.webhookMode = false) (utf8 : Utf8Fields badActor)
    (s : Stores) :
    Ends (UnreadableLogName config)
      (fun t => t.honey = s.honey ∨ t.honey = s.honey ++ [honeyRow badActor])
      (badActorLog build (storeSinks build jansson serde config answers) config badActor s) := by
  unfold badActorLog
  rw [run_bind]
  rcases badActorLogJson_stores build jansson serde config answers utf8 s with
    ⟨exit, log, ran⟩ | ⟨ran, unnamed⟩
  · simp only [ran, badActorLogWebhook_off quiet]
    cases exit with
    | failure => exact .ok (.inl rfl)
    | success =>
        simp only [ne_eq, not_true_eq_false, ↓reduceIte, run_bind, storeSinks_insert]
        rcases dbInsertBadActor_row badActor answers.insert s.honey with ⟨-, none_⟩ | ⟨-, row⟩
        · simp only [none_]
          exact .ok (.inl rfl)
        · simp only [row]
          cases (dbInsertBadActor answers.insert badActor s.honey).1
          · exact .ok (.inr rfl)
          · exact .ok (.inr rfl)
  · rw [ran]
    refine ⟨fun _ _ stopped => ?_, .inl rfl⟩
    cases stopped
    exact ⟨rfl, unnamed⟩

variable (build serde answers fresh) in
theorem dhtValueCallback_admits (strings : JanssonStrings jansson)
    (quiet : config.webhookMode = false) (data : List UInt8) (expired : Bool) (s : Stores) :
    Ends (UnreadableLogName config)
      (fun t => t.honey = s.honey ∨ ∃ row json, t.honey = s.honey ++ [row] ∧ expired = false ∧
        Admitted jansson config s.honey data json ∧
        ∀ column ∈ honeyColumns, ∃ value, column.2 row = some value ∧
          json.get? column.1 = some (.string value.bytes))
      (dhtValueCallback build jansson (storeSinks build jansson serde config answers)
        (storeExists fun _ => true) config fresh data expired s) := by
  rcases dhtValueCallback_cases build jansson config fresh
    (storeSinks build jansson serde config answers) data expired
    (fun uuid => rfl : ∀ uuid, storeExists (fun _ => true) uuid s = _) with
    ran | ⟨uuid, badActor, live, looked, absent, decoded, ran⟩
  · rw [ran]
    exact .ok (.inl rfl)
  · rw [ran]
    obtain ⟨-, json, admitted, rfl⟩ := admitted_of_looked looked absent decoded
    have utf8 := utf8Fields_decodedActor strings admitted.loaded
    apply Ends.bind_pure
    apply (badActorLog_stores build jansson serde config answers quiet utf8 s).imp
    intro t effect
    refine effect.imp_right fun row => ⟨_, json, row, live, admitted, ?_⟩
    intro column member
    obtain ⟨isKey, isValue⟩ := honeyColumns_decodedActor json member
    obtain ⟨text, found⟩ := admitted.strings column.1 isKey
    have read : jsonStringValue (json.get? column.1) = some (.ofMemory text) := by
      rw [found, jsonStringValue]
    exact ⟨.ofMemory text, isValue.trans read, (strings.value admitted.loaded read).1⟩

end Stores

/-- `compactJansson` that turns down strings that are not UTF-8 or hold a zero byte. -/
def strictJansson : Jansson where
  dumps := compactJansson.dumps
  loadb text := (readFlat text).filter fun json =>
    (stringMembers json).all fun member => validUtf8 member.2 && !member.2.contains 0

theorem mem_stringMembers {json : Json} {key : String} {value : List UInt8}
    (found : json.get? key = some (.string value)) : (key, value) ∈ stringMembers json := by
  cases json with
  | object members =>
      exact List.mem_filterMap.mpr ⟨(key, .string value), mem_of_lookup_eq_some found, rfl⟩
  | _ => cases found

theorem strictJansson_strings : JanssonStrings strictJansson := by
  intro text json key value loaded found
  have checked := (Option.filter_eq_some_iff.mp loaded).2
  have both := List.all_eq_true.mp checked _ (mem_stringMembers found)
  simpa using both

def peerActor : BadActor :=
  { inviteActor (.lit "100") with
    userAgent := some (.lit "friendly-scanner")
    createdByNodeId := some (.lit "5c7d3f0a-0b6e-4f6e-8d7c-2f9a1b3c4d5e") }

theorem peerActor_utf8 : Utf8Fields peerActor := by decide

def peerText : CStr := strictJansson.dumps (flatObject (badActorMembers peerActor))

def storingAnswers : StoreAnswers := ⟨faultlessIo, fun _ => true, .ok .success, true, true⟩

theorem peerMembers_flat : FlatMembers (badActorMembers peerActor) :=
  badActorMembers_flat peerActor_utf8

theorem readFlat_peerText :
    readFlat peerText.bytes = some (flatObject (badActorMembers peerActor)) := by
  simp only [peerText, strictJansson, compactJansson, stringMembers_flatObject]
  exact readFlat_printFlat true peerMembers_flat

theorem loadb_peerText :
    strictJansson.loadb peerText.bytes = some (flatObject (badActorMembers peerActor)) := by
  have checked : ((badActorMembers peerActor).all fun member =>
      validUtf8 member.2 && !member.2.contains 0) = true := by
    rw [List.all_eq_true]
    intro member isMember
    simpa using peerMembers_flat.values member isMember
  simp only [strictJansson, readFlat_peerText, Option.filter_some, stringMembers_flatObject, checked,
    ↓reduceIte]

theorem dhtValueCallback_admits_peer :
    Ends (UnreadableLogName plainConfig)
      (fun t => t.honey = emptyStores.honey ∨ ∃ row json, t.honey = emptyStores.honey ++ [row] ∧
        false = false ∧ Admitted strictJansson plainConfig emptyStores.honey peerText.bytes json ∧
        ∀ column ∈ honeyColumns, ∃ value, column.2 row = some value ∧
          json.get? column.1 = some (.string value.bytes))
      (dhtValueCallback cBuild strictJansson
        (storeSinks cBuild strictJansson compactSerde plainConfig storingAnswers)
        (storeExists fun _ => true) plainConfig someFresh peerText.bytes false emptyStores) ∧
    (finalState (dhtValueCallback cBuild strictJansson
        (storeSinks cBuild strictJansson compactSerde plainConfig storingAnswers)
        (storeExists fun _ => true) plainConfig someFresh peerText.bytes false
        emptyStores)).honey = [honeyRow peerActor] := by
  refine ⟨dhtValueCallback_admits cBuild compactSerde storingAnswers someFresh strictJansson_strings
    rfl peerText.bytes false emptyStores, ?_⟩
  have reads : ∀ uuid, storeExists (fun _ => true) uuid emptyStores =
      .ok (dbBadActorExists (fun _ => true) uuid emptyStores.honey) emptyStores := fun _ => rfl
  rw [dhtValueCallback_event _ reads loadb_peerText (List.cons_ne_nil _ _) rfl (by decide)
    (by decide) rfl (by decide) (List.forall_mem_nil _)]
  rfl

end SentryPeer.Proof
