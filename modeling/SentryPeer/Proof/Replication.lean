import SentryPeer.Proof.DhtValue

/-!
# Replication

Each event has one origin, the call of `sip_log_event` that generated its UUID. Every row of every
node is a copy of the origin of its UUID, every value on the DHT is the text of an origin whose row
is already in the table of the node that put it.
-/

namespace SentryPeer.Proof
open Lib

/-! ## What the calls do -/

section Calls
variable {build : Build} {jansson : Jansson} {osip : Osip} {answers : SinkAnswers} {config : Config}
  {fresh : Fresh}

def stored (s : Local) (badActor : BadActor) : Local :=
  { s with honey := s.honey ++ [honeyRow badActor] }

theorem badActorLogJson_keeps {badActor : BadActor} {P E : Local → Prop} (stop : ∀ s, P s → E s) :
    Triple P (badActorLogJson build (nodeSinks jansson answers) config badActor) (fun _ => P) E := by
  have sink : Triple P (fromExcept answers.jsonLog) (fun _ => P) E :=
    Triple.fromExcept (fun _ _ _ given => given) stop
  unfold badActorLogJson
  split_ifs
  · exact sink
  · exact Triple.pure fun _ given => given
  · exact sink
  · exact Triple.pure fun _ given => given

variable (build jansson answers config) in
theorem badActorLogWebhook_keeps (badActor : BadActor) {P E : Local → Prop}
    (stop : ∀ s, P s → E s) :
    Triple P (badActorLogWebhook build (nodeSinks jansson answers) config badActor) (fun _ => P)
      E := by
  have sink : Triple P (fromExcept answers.webhook) (fun _ => P) E :=
    Triple.fromExcept (fun _ _ _ given => given) stop
  unfold badActorLogWebhook
  split_ifs
  · exact sink
  · exact Triple.pure fun _ given => given
  · exact sink
  · exact Triple.pure fun _ given => given

def FailedOrStored (start : Local) (badActor : BadActor) (exit : Exit) (s : Local) : Prop :=
  (exit = .failure ∧ s = start) ∨ s = stored start badActor

theorem FailedOrStored.isStored {start s : Local} {badActor : BadActor} {exit : Exit}
    (given : FailedOrStored start badActor exit s) (succeeded : ¬ exit ≠ .success) :
    s = stored start badActor := by
  rcases given with ⟨failed, -⟩ | row
  · exact absurd (by rw [failed]; decide) succeeded
  · exact row

theorem FailedOrStored.state {start s : Local} {badActor : BadActor} {exit : Exit}
    (given : FailedOrStored start badActor exit s) : s = start ∨ s = stored start badActor :=
  given.imp_left And.right

variable (build jansson answers config) in
theorem badActorLog_effect (start : Local) (badActor : BadActor) :
    Triple (fun s => s = start) (badActorLog build (nodeSinks jansson answers) config badActor)
      (FailedOrStored start badActor) (fun s => s = start ∨ s = stored start badActor) := by
  unfold badActorLog
  refine Triple.bind (badActorLogJson_keeps fun _ given => .inl given) fun logged => ?_
  split
  · exact Triple.pure fun _ given => .inl ⟨rfl, given⟩
  refine Triple.bind (R := FailedOrStored start badActor) ?_ fun inserted => ?_
  · rintro s rfl
    change (_ = Exit.failure ∧ _) ∨ _
    rcases dbInsertBadActor_row badActor answers.insert s.honey with ⟨-, none_⟩ | ⟨-, row⟩
    · left
      exact ⟨congrArg Prod.fst none_, congrArg (fun r => { s with honey := r.2 }) none_⟩
    · right
      exact congrArg (fun rows => { s with honey := rows }) row
  split
  · exact Triple.pure fun s given => given.imp_left fun none_ => ⟨rfl, none_.2⟩
  · rename_i succeeded
    have webhook := badActorLogWebhook_keeps build jansson answers config badActor
      (P := fun s => s = stored start badActor)
      (E := fun s => s = start ∨ s = stored start badActor) fun _ given => .inr given
    apply Triple.bind (webhook.imp (fun _ given => given.isStored succeeded)
      (fun _ _ given => given) fun _ given => given)
    exact fun _ => Triple.pure fun _ given => .inr given

theorem peerToPeerDhtSave_effect (start : Local) (badActor : BadActor) :
    Triple (fun s => s = start) ((nodeSinks jansson answers).peerToPeerDhtSave badActor)
      (fun _ s => s = start ∨ ∃ text, badActorToJson jansson badActor = some text ∧
        s = { start with put := start.put ++ [text] })
      (fun s => s = start) := by
  change Triple _ (peerToPeerDhtSave _ _ _ _ badActor) _ _
  unfold peerToPeerDhtSave
  cases answers.dhtStarted with
  | false =>
      refine Triple.bind (R := fun _ _ => False) ?_ fun _ _ absurd_ => absurd_.elim
      exact Triple.fromExcept (fun _ ok => by cases ok) fun _ given => given
  | true =>
      cases encoded : badActorToJson jansson badActor with
      | none => exact Triple.pure fun _ given => .inl given
      | some text =>
          cases answers.dhtValueCreated with
          | false => exact Triple.pure fun _ given => .inl given
          | true =>
              refine Triple.bind (R := fun _ s => s = { start with put := start.put ++ [text] }) ?_
                fun _ => Triple.pure fun _ given => .inr ⟨text, rfl, given⟩
              exact Triple.modify fun s given => by rw [given]

inductive LogEffect (jansson : Jansson) (uuid : CStr) (start : Local) : Local → Prop
  | nothing : LogEffect jansson uuid start start
  | stored (badActor : BadActor) (new : badActor.eventUuid = some uuid) :
      LogEffect jansson uuid start (stored start badActor)
  | shared (badActor : BadActor) (new : badActor.eventUuid = some uuid) (text : CStr)
      (encoded : badActorToJson jansson badActor = some text) :
      LogEffect jansson uuid start
        { stored start badActor with put := start.put ++ [text] }

variable (build jansson answers config) in
theorem sipLogEventSinks_effect (start : Local) {badActor : BadActor} {uuid : CStr}
    (new : badActor.eventUuid = some uuid) :
    Triple (fun s => s = start) (sipLogEventSinks build (nodeSinks jansson answers) config badActor)
      (fun exit s => LogEffect jansson uuid start s ∧
        (exit = .success → s.honey = start.honey ++ [honeyRow badActor]))
      (LogEffect jansson uuid start) := by
  have ofLog (s : Local) (given : s = start ∨ s = stored start badActor) :
      LogEffect jansson uuid start s := by
    rcases given with rfl | rfl
    · exact .nothing
    · exact .stored badActor new
  have ofSave (s : Local) (given : s = stored start badActor ∨
      ∃ text, badActorToJson jansson badActor = some text ∧
        s = { stored start badActor with put := start.put ++ [text] }) :
      LogEffect jansson uuid start s ∧ s.honey = start.honey ++ [honeyRow badActor] := by
    rcases given with rfl | ⟨text, encoded, rfl⟩
    · exact ⟨.stored badActor new, rfl⟩
    · exact ⟨.shared badActor new text encoded, rfl⟩
  unfold sipLogEventSinks
  apply Triple.bind ((badActorLog_effect build jansson answers config start badActor).imp (fun _ given => given)
    (fun _ _ given => given) ofLog)
  intro logged
  split
  · exact Triple.pure fun s given => ⟨ofLog s given.state, fun failed => by cases failed⟩
  · rename_i succeeded
    split
    · apply Triple.bind ((peerToPeerDhtSave_effect (stored start badActor) badActor).imp
        (fun _ given => given.isStored succeeded) (fun _ => ofSave) fun s given =>
          (ofSave s (.inl given)).1)
      intro saved
      split
      · exact Triple.pure fun s given => ⟨given.1, fun failed => by cases failed⟩
      · exact Triple.pure fun s given => ⟨given.1, fun _ => given.2⟩
    · refine Triple.pure fun s given => ?_
      have both := ofSave s (.inl (given.isStored succeeded))
      exact ⟨both.1, fun _ => both.2⟩

theorem sipLogEvent_effect (start : Local) (event : SipMessageEvent) :
    LogEffect jansson fresh.uuid start
      (finalState (sipLogEvent build osip (nodeSinks jansson answers) config fresh event start)) := by
  have triple : Triple (fun s => s = start)
      (sipLogEvent build osip (nodeSinks jansson answers) config fresh event)
      (fun _ => LogEffect jansson fresh.uuid start) (LogEffect jansson fresh.uuid start) := by
    unfold sipLogEvent
    refine Triple.bind (R := fun actor s => s = start ∧
      sipLogEventActor osip config fresh event = .ok actor) ?_ fun actor => ?_
    · exact Triple.fromExcept (fun _ ran _ given => ⟨given, ran⟩) fun _ given => given ▸ .nothing
    · cases actor with
      | none => exact Triple.pure fun _ given => given.1 ▸ .nothing
      | some badActor =>
          rintro s ⟨rfl, ran⟩
          have sinks := sipLogEventSinks_effect build jansson answers config s
            (sipLogEventActor_built ran).eventUuid
          exact sinks.imp (fun _ given => given) (fun _ _ given => given.1)
            (fun _ given => given) s rfl
  exact triple.finalState rfl (fun _ _ given => given) fun _ given => given

inductive DeliverEffect (jansson : Jansson) (config : Config) (fresh : Fresh) (value : CStr)
    (start : Local) : Local → Prop
  | nothing : DeliverEffect jansson config fresh value start start
  | stored (uuid : CStr) (badActor : BadActor)
      (looked : dhtValueUuid jansson config value = some uuid)
      (absent : ∀ row ∈ start.honey, row.eventUuid ≠ some uuid)
      (decoded : jsonToBadActor jansson config fresh value = .ok (some badActor)) :
      DeliverEffect jansson config fresh value start (stored start badActor)

variable (build jansson answers config fresh) in
theorem dhtValueCallback_final (start : Local) (data : List UInt8) (expired : Bool) :
    finalState (dhtValueCallback build jansson (nodeSinks jansson answers) nodeExists config fresh
        data expired start) = start ∨
      ∃ uuid badActor, dhtValueUuid jansson config (.ofMemory data) = some uuid ∧
        (∀ row ∈ start.honey, row.eventUuid ≠ some uuid) ∧
        jsonToBadActor jansson config fresh (.ofMemory data) = .ok (some badActor) ∧
        finalState (dhtValueCallback build jansson (nodeSinks jansson answers) nodeExists config
          fresh data expired start) = stored start badActor := by
  rcases dhtValueCallback_cases build jansson config fresh (nodeSinks jansson answers) data expired
    (fun uuid => rfl : ∀ uuid, nodeExists uuid start = _) with
    ran | ⟨uuid, badActor, -, looked, absent, decoded, ran⟩
  · rw [ran]
    exact .inl rfl
  · rw [ran]
    have logged : Triple (fun s => s = start)
        (badActorLog build (nodeSinks jansson answers) config badActor >>= fun _ => pure ())
        (fun _ s => s = start ∨ s = stored start badActor)
        (fun s => s = start ∨ s = stored start badActor) :=
      Triple.bind (badActorLog_effect build jansson answers config start badActor)
        fun _ => Triple.pure fun _ given => given.state
    rcases logged.finalState rfl (fun _ _ given => given) fun _ given => given with same | row
    · exact .inl same
    · exact .inr ⟨uuid, badActor, looked, absent, decoded, row⟩

theorem dhtValueCallback_effect (start : Local) (value : CStr) (expired : Bool) :
    DeliverEffect jansson config fresh value start
      (finalState (dhtValueCallback build jansson (nodeSinks jansson answers) nodeExists config fresh
        value.bytes expired start)) := by
  rcases dhtValueCallback_final build jansson answers config fresh start value.bytes expired with
    same | ⟨uuid, badActor, looked, absent, decoded, row⟩
  · rw [same]
    exact .nothing
  · rw [CStr.ofMemory_bytes] at looked decoded
    rw [row]
    exact .stored uuid badActor looked absent decoded

end Calls

/-! ## Encoding and decoding an event -/

/-- The row with NULL identified with the empty string. -/
def normalRow (row : HoneyRow) : HoneyRow where
  eventTimestamp := some (orEmpty row.eventTimestamp)
  eventUuid := some (orEmpty row.eventUuid)
  collectedMethod := some (orEmpty row.collectedMethod)
  sourceIp := some (orEmpty row.sourceIp)
  calledNumber := some (orEmpty row.calledNumber)
  transportType := some (orEmpty row.transportType)
  method := some (orEmpty row.method)
  userAgent := some (orEmpty row.userAgent)
  sipMessage := some (orEmpty row.sipMessage)
  createdByNodeId := some (orEmpty row.createdByNodeId)

section Codec
variable {jansson : Jansson} {origin copy : BadActor} {text : CStr}

theorem loadb_badActorToJson (decodes : JanssonDecodes jansson)
    (encoded : badActorToJson jansson origin = some text) :
    jansson.loadb text.bytes = some (flatObject (badActorMembers origin)) := by
  rw [badActorToJson, badActorJson_eq] at encoded
  split_ifs at encoded with utf8
  · cases encoded
    exact decodes _ (badActorMembers_flat utf8)
  · cases encoded

theorem honeyRow_jsonToBadActor (decodes : JanssonDecodes jansson)
    (encoded : badActorToJson jansson origin = some text) {config : Config} {fresh : Fresh}
    (decoded : jsonToBadActor jansson config fresh text = .ok (some copy)) :
    honeyRow copy = normalRow (honeyRow origin) := by
  rw [jsonToBadActor_members config fresh (loadb_badActorToJson decodes encoded) fun _ => rfl]
    at decoded
  cases decoded
  rfl

theorem dhtValueUuid_badActorToJson (decodes : JanssonDecodes jansson)
    (encoded : badActorToJson jansson origin = some text) {config : Config} {uuid : CStr}
    (looked : dhtValueUuid jansson config text = some uuid) : uuid = orEmpty origin.eventUuid := by
  obtain ⟨json, -, loaded, -, -, found, -⟩ := dhtValueUuid_eq_some looked
  rw [loadb_badActorToJson decodes encoded] at loaded
  cases loaded
  have member : ("event_uuid", origin.eventUuid) ∈ badActorFields origin := by
    simp [badActorFields]
  rw [jsonStringValue_badActorMembers member] at found
  exact (Option.some.inj found).symm

end Codec

/-! ## The invariant -/

section Invariant
variable {ι : Type} {jansson : Jansson} {net : Network ι}
  {origin : CStr → Option BadActor}

/-- `origin` is the event that each call of `sip_log_event` has built under its UUID. -/
structure Consistent (jansson : Jansson) (net : Network ι) (origin : CStr → Option BadActor) :
    Prop where
  known : ∀ uuid badActor, origin uuid = some badActor →
    uuid ∈ net.generated ∧ badActor.eventUuid = some uuid
  rows : ∀ i, ∀ row ∈ net.honey i, ∃ uuid badActor, row.eventUuid = some uuid ∧
    origin uuid = some badActor ∧ normalRow row = normalRow (honeyRow badActor)
  unique : ∀ i, ((net.honey i).map HoneyRow.eventUuid).Nodup
  values : ∀ value ∈ net.dht, ∃ uuid badActor, origin uuid = some badActor ∧
    badActorToJson jansson badActor = some value.2 ∧
    ∃ row ∈ net.honey value.1, row.eventUuid = some uuid

theorem normalRow_normalRow (row : HoneyRow) : normalRow (normalRow row) = normalRow row := rfl

theorem Consistent.start (start : net.Start) : Consistent jansson net fun _ => none where
  known _ _ some_ := by cases some_
  rows i row member := by rw [start.1 i] at member; cases member
  unique i := by rw [start.1 i]; exact List.nodup_nil
  values value member := by rw [start.2] at member; cases member

theorem Consistent.generate (consistent : Consistent jansson net origin) (config : ι → Config)
    (uuid : CStr) :
    Consistent jansson { net with config := config, generated := uuid :: net.generated }
      origin where
  known other badActor some_ :=
    ⟨List.mem_cons_of_mem _ (consistent.known other badActor some_).1,
      (consistent.known other badActor some_).2⟩
  rows := consistent.rows
  unique := consistent.unique
  values := consistent.values

theorem Consistent.originate (consistent : Consistent jansson net origin) {uuid : CStr}
    (unused : uuid ∉ net.generated) {badActor : BadActor} (new : badActor.eventUuid = some uuid) :
    Consistent jansson { net with generated := uuid :: net.generated }
      (Function.update origin uuid (some badActor)) := by
  have kept (other : CStr) (event : BadActor) (some_ : origin other = some event) :
      Function.update origin uuid (some badActor) other = some event := by
    have different : other ≠ uuid := by
      rintro rfl
      exact unused (consistent.known other event some_).1
    rw [Function.update_of_ne different, some_]
  refine ⟨?_, ?_, consistent.unique, ?_⟩
  · intro other event some_
    by_cases same : other = uuid
    · subst same
      rw [Function.update_self] at some_
      cases some_
      exact ⟨List.mem_cons_self, new⟩
    · rw [Function.update_of_ne same] at some_
      obtain ⟨member, equal⟩ := consistent.known other event some_
      exact ⟨List.mem_cons_of_mem _ member, equal⟩
  · intro i row member
    obtain ⟨other, event, isUuid, some_, same⟩ := consistent.rows i row member
    exact ⟨other, event, isUuid, kept other event some_, same⟩
  · intro value member
    obtain ⟨other, event, some_, encoded, row⟩ := consistent.values value member
    exact ⟨other, event, kept other event some_, encoded, row⟩

theorem Consistent.store [DecidableEq ι] (consistent : Consistent jansson net origin) (i : ι)
    (row : HoneyRow) {uuid : CStr} {badActor : BadActor} (isUuid : row.eventUuid = some uuid)
    (known : origin uuid = some badActor) (same : normalRow row = normalRow (honeyRow badActor))
    (absent : ∀ other ∈ net.honey i, other.eventUuid ≠ some uuid) :
    Consistent jansson { net with honey := Function.update net.honey i (net.honey i ++ [row]) }
      origin := by
  refine ⟨consistent.known, ?_, ?_, ?_⟩
  · intro j other member
    dsimp only at member
    by_cases here : j = i
    · subst here
      rw [Function.update_self] at member
      rcases List.mem_append.mp member with old | new
      · exact consistent.rows j other old
      · rw [List.mem_singleton.mp new]
        exact ⟨uuid, badActor, isUuid, known, same⟩
    · rw [Function.update_of_ne here] at member
      exact consistent.rows j other member
  · intro j
    dsimp only
    by_cases here : j = i
    · subst here
      rw [Function.update_self, List.map_append, List.nodup_append]
      refine ⟨consistent.unique j, List.nodup_singleton _, ?_⟩
      intro a old b new
      obtain ⟨other, member, rfl⟩ := List.mem_map.mp old
      rw [List.mem_singleton.mp new, isUuid]
      exact absent other member
    · rw [Function.update_of_ne here]
      exact consistent.unique j
  · intro value member
    obtain ⟨other, event, some_, encoded, stored, isStored, equal⟩ := consistent.values value member
    refine ⟨other, event, some_, encoded, stored, ?_, equal⟩
    dsimp only
    by_cases here : value.1 = i
    · rw [here] at isStored ⊢
      rw [Function.update_self]
      exact List.mem_append_left _ isStored
    · rw [Function.update_of_ne here]
      exact isStored

theorem Consistent.put (consistent : Consistent jansson net origin) (i : ι) (row : HoneyRow)
    {uuid text : CStr} {badActor : BadActor} (known : origin uuid = some badActor)
    (encoded : badActorToJson jansson badActor = some text) (stored : row ∈ net.honey i)
    (isUuid : row.eventUuid = some uuid) :
    Consistent jansson { net with dht := net.dht ++ [(i, text)] } origin := by
  refine ⟨consistent.known, consistent.rows, consistent.unique, ?_⟩
  intro value member
  rcases List.mem_append.mp member with old | new
  · exact consistent.values value old
  · rw [List.mem_singleton.mp new]
    exact ⟨uuid, badActor, known, encoded, row, stored, isUuid⟩

structure ReplicationSafe (jansson : Jansson) (net : Network ι) : Prop where
  atMostOnce : ∀ i, ((net.honey i).map HoneyRow.eventUuid).Nodup
  equalRows : ∀ i, ∀ row ∈ net.honey i, ∀ j, ∀ other ∈ net.honey j,
    row.eventUuid = other.eventUuid → normalRow row = normalRow other
  originRow : ∀ value ∈ net.dht, ∃ json uuid, jansson.loadb value.2.bytes = some json ∧
    json.get? "event_uuid" = some (.string uuid.bytes) ∧
    ∃ row ∈ net.honey value.1, row.eventUuid = some uuid

theorem Consistent.safe (decodes : JanssonDecodes jansson)
    (consistent : Consistent jansson net origin) : ReplicationSafe jansson net where
  atMostOnce := consistent.unique
  equalRows i row member j other member' equal := by
    obtain ⟨uuid, badActor, isUuid, some_, same⟩ := consistent.rows i row member
    obtain ⟨uuid', badActor', isUuid', some_', same'⟩ := consistent.rows j other member'
    rw [isUuid, isUuid'] at equal
    cases equal
    rw [some_] at some_'
    cases some_'
    rw [same, same']
  originRow value member := by
    obtain ⟨uuid, badActor, some_, encoded, row⟩ := consistent.values value member
    refine ⟨_, uuid, loadb_badActorToJson decodes encoded, ?_, row⟩
    have isUuid := (consistent.known uuid badActor some_).2
    have distinct : ((badActorMembers badActor).map Prod.fst).Nodup := by
      rw [badActorMembers_keys]
      decide
    have found : (badActorMembers badActor).lookup "event_uuid" = some uuid.bytes := by
      apply lookup_eq_some_of_mem distinct
      simp [badActorMembers, badActorFields, isUuid, orEmpty]
    rw [flatObject_get?, found]
    rfl

/-! ## Steps and runs -/

section Steps
variable [DecidableEq ι] {build : ι → Build} {osip : Osip}

theorem Network.after_eq {α : Type} {i : ι} {call : EStateM Abort Local α} {final : Local}
    (ran : finalState (call ⟨net.honey i, []⟩) = final) :
    net.after i call = { net with
      honey := Function.update net.honey i final.honey
      dht := net.dht ++ final.put.map fun text => (i, text) } := by
  rw [← ran]
  rfl

theorem consistent_log (consistent : Consistent jansson net origin) (i : ι) {uuid : CStr}
    (unused : uuid ∉ net.generated) {α : Type} {call : EStateM Abort Local α}
    (effect : LogEffect jansson uuid ⟨net.honey i, []⟩ (finalState (call ⟨net.honey i, []⟩))) :
    ∃ origin', Consistent jansson { net.after i call with generated := uuid :: net.generated }
      origin' := by
  have absent (other : HoneyRow) (member : other ∈ net.honey i) : other.eventUuid ≠ some uuid := by
    intro equal
    obtain ⟨known, badActor, isUuid, some_, -⟩ := consistent.rows i other member
    rw [equal] at isUuid
    cases isUuid
    exact unused (consistent.known uuid badActor some_).1
  generalize ran : finalState (call ⟨net.honey i, []⟩) = final at effect
  rw [Network.after_eq ran]
  cases effect with
  | nothing =>
      refine ⟨origin, ?_⟩
      simpa using consistent.generate net.config uuid
  | stored badActor new =>
      refine ⟨Function.update origin uuid (some badActor), ?_⟩
      simpa [stored] using (consistent.originate unused new).store i (honeyRow badActor) new
        (Function.update_self ..) rfl absent
  | shared badActor new text encoded =>
      refine ⟨Function.update origin uuid (some badActor), ?_⟩
      have inserted := (consistent.originate unused new).store i (honeyRow badActor) new
        (Function.update_self ..) rfl absent
      simpa [stored] using inserted.put i (honeyRow badActor) (Function.update_self ..)
        encoded (by simp) new

theorem consistent_deliver (decodes : JanssonDecodes jansson)
    (consistent : Consistent jansson net origin) (i : ι) {config : Config} {fresh : Fresh}
    {value : ι × CStr} (member : value ∈ net.dht) {α : Type} {call : EStateM Abort Local α}
    (effect : DeliverEffect jansson config fresh value.2 ⟨net.honey i, []⟩
      (finalState (call ⟨net.honey i, []⟩))) :
    Consistent jansson { net.after i call with generated := fresh.uuid :: net.generated }
      origin := by
  generalize ran : finalState (call ⟨net.honey i, []⟩) = final at effect
  rw [Network.after_eq ran]
  obtain ⟨uuid, badActor, some_, encoded, -⟩ := consistent.values value member
  have isUuid := (consistent.known uuid badActor some_).2
  cases effect with
  | nothing => simpa using consistent.generate net.config fresh.uuid
  | stored looked copy found absent decoded =>
      have same := honeyRow_jsonToBadActor decodes encoded decoded
      have looked_eq : looked = uuid := by
        rw [dhtValueUuid_badActorToJson decodes encoded found, isUuid]
        rfl
      have copyUuid : (honeyRow copy).eventUuid = some uuid := by
        rw [same]
        simp [normalRow, honeyRow, isUuid, orEmpty]
      have inserted := (consistent.generate net.config fresh.uuid).store i _ copyUuid some_
        (by rw [same, normalRow_normalRow]) (looked_eq ▸ absent)
      simpa [stored] using inserted

def Replicated (jansson : Jansson) (net : Network ι) : Prop :=
  ∃ origin, Consistent jansson net origin

theorem networkStep_replicated (decodes : JanssonDecodes jansson) {before after : Network ι}
    (step : NetworkStep build jansson osip before after) (given : Replicated jansson before) :
    Replicated jansson after := by
  obtain ⟨origin, consistent⟩ := given
  cases step with
  | log i fresh event answers unused =>
      exact consistent_log consistent i unused (sipLogEvent_effect _ event)
  | deliver i value member expired fresh answers unused =>
      exact ⟨origin, consistent_deliver decodes consistent i member
        (dhtValueCallback_effect _ value.2 expired)⟩
  | restart i config unused =>
      exact ⟨origin, consistent.generate _ config.nodeId⟩

theorem networkRun_safe (decodes : JanssonDecodes jansson) {start reached : Network ι}
    (initial : start.Start)
    (run : Relation.ReflTransGen (NetworkStep build jansson osip) start reached) :
    ReplicationSafe jansson reached := by
  have replicated : Replicated jansson reached := by
    apply invariant_of_step _ _ run
    · exact fun _ _ step => networkStep_replicated decodes step
    · exact ⟨_, Consistent.start initial⟩
  obtain ⟨origin, consistent⟩ := replicated
  exact consistent.safe decodes

end Steps

end Invariant

def dhtConfig (nodeId : CStr) : Config :=
  { sentrypeerConfigNew ⟨false, true⟩ nodeId with p2pDhtMode := true }

def willingAnswers : SinkAnswers where
  jsonLog := .ok .success
  insert _ := true
  webhook := .ok .success
  dhtStarted := true
  dhtValueCreated := true

def twoNodes : Network Bool where
  config i := dhtConfig (if i then .lit "23f31a5c-95f5-41e4-9d34-1a3c5b0e7d21"
    else .lit "5c7d3f0a-0b6e-4f6e-8d7c-2f9a1b3c4d5e")
  honey _ := []
  dht := []
  generated := []

def probeEvent : SipMessageEvent := { statusEvent with packet := none, packetLen := 0 }

def probeFresh : Fresh :=
  ⟨.lit "2026-07-27 10:00:00.000000000", .lit "460f30e4-3b3b-4b3b-8b3b-0123456789ab"⟩

def probeActor : BadActor := unparsedActor (twoNodes.config false) probeFresh probeEvent

def probeText : CStr := compactJansson.dumps (flatObject (badActorMembers probeActor))

def loggedOnce : Network Bool := { twoNodes with
  honey := Function.update twoNodes.honey false [honeyRow probeActor]
  dht := [(false, probeText)]
  generated := [probeFresh.uuid] }

theorem sipLogEvent_probe :
    sipLogEvent ⟨false, true⟩ (osipReading none) (nodeSinks compactJansson willingAnswers)
      (twoNodes.config false) probeFresh probeEvent ⟨[], []⟩ =
        .ok .success ⟨[honeyRow probeActor], [probeText]⟩ := by
  have encoded : badActorToJson compactJansson probeActor = some probeText := by
    rw [badActorToJson, badActorJson_eq, if_pos (by decide)]
    rfl
  have saved : (nodeSinks compactJansson willingAnswers).peerToPeerDhtSave probeActor
      ⟨[honeyRow probeActor], []⟩ = .ok .success ⟨[honeyRow probeActor], [probeText]⟩ := by
    simp only [nodeSinks, peerToPeerDhtSave, encoded]
    rfl
  have logged : badActorLog ⟨false, true⟩ (nodeSinks compactJansson willingAnswers)
      (twoNodes.config false) probeActor ⟨[], []⟩ = .ok .success ⟨[honeyRow probeActor], []⟩ := rfl
  have built : sipLogEventActor (osipReading none) (twoNodes.config false) probeFresh probeEvent =
      .ok (some probeActor) := rfl
  simp only [sipLogEvent, built, fromExcept_ok, run_bind, run_pure, sipLogEventSinks, logged, ne_eq,
    not_true_eq_false, ↓reduceIte]
  rw [if_pos (by decide), run_bind, saved]
  rfl

def deliverFresh : Fresh :=
  ⟨.lit "2026-07-27 10:00:01.000000000", .lit "0d0c8a3e-5f0b-4f5e-8a53-7be64b7b3c10"⟩

def deliveredOnce : Network Bool := { loggedOnce.after true
    (dhtValueCallback ⟨false, true⟩ compactJansson (nodeSinks compactJansson willingAnswers)
      nodeExists (loggedOnce.config true) deliverFresh probeText.bytes false) with
  generated := [deliverFresh.uuid, probeFresh.uuid] }

theorem networkRun_safe_two_nodes : ReplicationSafe compactJansson deliveredOnce := by
  have logged : NetworkStep (fun _ => ⟨false, true⟩) compactJansson (osipReading none) twoNodes
      loggedOnce := by
    have step : NetworkStep (fun _ => ⟨false, true⟩) compactJansson (osipReading none) twoNodes _ :=
      .log false probeFresh probeEvent willingAnswers List.not_mem_nil
    rwa [Network.after, show twoNodes.honey false = [] from rfl, sipLogEvent_probe] at step
  have delivered : NetworkStep (fun _ => ⟨false, true⟩) compactJansson (osipReading none) loggedOnce
      deliveredOnce :=
    .deliver true (false, probeText) (List.mem_singleton_self _) false deliverFresh willingAnswers
      (by decide)
  exact networkRun_safe compactJansson_decodes ⟨fun _ => rfl, rfl⟩ (.tail (.single logged) delivered)

end SentryPeer.Proof
