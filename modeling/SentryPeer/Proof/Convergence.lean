import SentryPeer.Proof.EventUuid
import SentryPeer.Proof.Replication

/-!
# Convergence

Once every value on the DHT has reached every node in a call that could store it, all nodes agree on
the events that were put on the DHT, whatever else went wrong before.
-/

namespace SentryPeer.Proof
open Lib

/-! ## One delivery -/

/-- The JSON log and the database take the event; the webhook may fail or abort. -/
structure StoresEvents (answers : SinkAnswers) : Prop where
  jsonLog : answers.jsonLog = .ok .success
  insert : ∀ call, answers.insert call = true

section Calls
variable {build : Build} {jansson : Jansson} {osip : Osip} {answers : SinkAnswers} {config : Config}
  {fresh : Fresh}

theorem sipMessageParser_creator {packet : Option CStr} {size : Nat} {badActor parsed : BadActor}
    {exit : Exit} (ran : sipMessageParser osip packet size badActor = .ok (exit, parsed)) :
    parsed.createdByNodeId = badActor.createdByNodeId := by
  unfold sipMessageParser at ran
  split_ifs at ran
  · cases ran; rfl
  · cases ran; rfl
  split at ran
  · cases ran; rfl
  split at ran
  · cases ran; rfl
  obtain ⟨method, -, ran⟩ := bind_eq_ok.mp ran
  obtain ⟨number, -, ran⟩ := bind_eq_ok.mp ran
  obtain ⟨agent, -, ran⟩ := bind_eq_ok.mp ran
  cases ran; rfl

theorem sipLogEventActor_creator {event : SipMessageEvent} {badActor : BadActor}
    (ran : sipLogEventActor osip config fresh event = .ok (some badActor)) :
    badActor.createdByNodeId = some config.nodeId := by
  obtain ⟨source, -, ran⟩ := bind_eq_ok.mp ran
  obtain ⟨destination, -, ran⟩ := bind_eq_ok.mp ran
  obtain ⟨transport, -, ran⟩ := bind_eq_ok.mp ran
  obtain ⟨collected, -, ran⟩ := bind_eq_ok.mp ran
  obtain ⟨unparsed, new, ran⟩ := bind_eq_ok.mp ran
  have creator : unparsed.createdByNodeId = some config.nodeId := by
    cases new
    rfl
  split_ifs at ran
  · obtain ⟨⟨exit, parsed⟩, parse, ran⟩ := bind_eq_ok.mp ran
    cases exit with
    | success =>
        cases ran
        rw [sipMessageParser_creator parse, creator]
    | failure => cases ran
  · cases ran
    exact creator

theorem badActorLogJson_succeeds (stores : StoresEvents answers) (badActor : BadActor) :
    badActorLogJson build (nodeSinks jansson answers) config badActor = pure .success := by
  have sink : (fromExcept answers.jsonLog : EStateM Abort Local Exit) = pure .success := by
    rw [stores.jsonLog]
    rfl
  unfold badActorLogJson
  split_ifs
  · exact sink
  · rfl
  · exact sink
  · rfl

theorem badActorLog_storesRow (stores : StoresEvents answers) (start : Local) (badActor : BadActor) :
    finalState (badActorLog build (nodeSinks jansson answers) config badActor start) =
      stored start badActor := by
  have insert : (nodeSinks jansson answers).dbInsertBadActor badActor start =
      .ok .success (stored start badActor) := by
    simp [nodeSinks, dbInsertBadActor, stores.insert, stored]
  have ran : badActorLog build (nodeSinks jansson answers) config badActor start =
      (badActorLogWebhook build (nodeSinks jansson answers) config badActor >>= fun _ =>
        pure .success) (stored start badActor) := by
    unfold badActorLog
    rw [badActorLogJson_succeeds stores, pure_bind, if_neg (by simp), run_bind, insert]
    simp only [ne_eq, not_true_eq_false, if_false]
  have kept : Triple (fun s => s = stored start badActor)
      (badActorLogWebhook build (nodeSinks jansson answers) config badActor >>= fun _ =>
        pure Exit.success) (fun _ s => s = stored start badActor) (fun s => s = stored start badActor) :=
    Triple.bind (badActorLogWebhook_keeps build jansson answers config badActor fun _ given => given)
      fun _ => Triple.pure fun _ given => given
  rw [ran]
  exact kept.finalState rfl (fun _ _ given => given) fun _ given => given

theorem dhtValueUuid_foreign (decodes : JanssonDecodes jansson) {origin : BadActor}
    {text uuid id : CStr} (encoded : badActorToJson jansson origin = some text)
    (isUuid : origin.eventUuid = some uuid) (creator : origin.createdByNodeId = some id)
    (validUuid : isValidUuid uuid = true) (validId : isValidUuid id = true)
    (validOwn : isValidUuid config.nodeId = true) (foreign : id ≠ config.nodeId) :
    dhtValueUuid jansson config text = some uuid := by
  have idMember : ("created_by_node_id", origin.createdByNodeId) ∈ badActorFields origin := by
    simp [badActorFields]
  have uuidMember : ("event_uuid", origin.eventUuid) ∈ badActorFields origin := by
    simp [badActorFields]
  have notPrefix : config.nodeId.bytes.isPrefixOf id.bytes = false := by
    apply Bool.eq_false_iff.mpr
    intro isPrefix
    apply foreign
    have same := (List.isPrefixOf_iff_prefix.mp isPrefix).eq_of_length
      (by rw [(isValidUuid_each validOwn).1, (isValidUuid_each validId).1])
    exact (CStr.ext_bytes same).symm
  have found := badActorMembers_get? idMember
  have foundUuid := badActorMembers_get? uuidMember
  rw [creator] at found
  rw [isUuid] at foundUuid
  have isObject : (flatObject (badActorMembers origin)).isObject = true := rfl
  simp [dhtValueUuid, loadb_badActorToJson decodes encoded, isObject, found, foundUuid, orEmpty,
    jsonStringValue, CStr.ofMemory_bytes, validId, validUuid, notPrefix]

/-- The text of an event names its UUID. -/
def Announces (jansson : Jansson) (text uuid : CStr) : Prop :=
  ∃ json, jansson.loadb text.bytes = some json ∧ json.get? "event_uuid" = some (.string uuid.bytes)

theorem announces_badActorToJson (decodes : JanssonDecodes jansson) {origin : BadActor}
    {text uuid : CStr} (encoded : badActorToJson jansson origin = some text)
    (isUuid : origin.eventUuid = some uuid) : Announces jansson text uuid := by
  have member : ("event_uuid", origin.eventUuid) ∈ badActorFields origin := by
    simp [badActorFields]
  have found := badActorMembers_get? member
  rw [isUuid] at found
  exact ⟨_, loadb_badActorToJson decodes encoded, found⟩

theorem Announces.unique {text uuid other : CStr} (one : Announces jansson text uuid)
    (two : Announces jansson text other) : uuid = other := by
  obtain ⟨json, loaded, found⟩ := one
  obtain ⟨_, loaded', found'⟩ := two
  rw [loaded] at loaded'
  cases loaded'
  rw [found] at found'
  simp only [Option.some.injEq, Json.string.injEq] at found'
  exact CStr.ext_bytes found'

def HasRow (honey : List HoneyRow) (uuid : CStr) : Prop := ∃ row ∈ honey, row.eventUuid = some uuid

theorem dhtValueCallback_receives (decodes : JanssonDecodes jansson)
    (noEmpty : jansson.loadb [] = none) (stores : StoresEvents answers) (start : Local)
    {origin : BadActor} {text uuid id : CStr} (encoded : badActorToJson jansson origin = some text)
    (isUuid : origin.eventUuid = some uuid) (creator : origin.createdByNodeId = some id)
    (validUuid : isValidUuid uuid = true) (validId : isValidUuid id = true)
    (validOwn : isValidUuid config.nodeId = true) (foreign : id ≠ config.nodeId) :
    HasRow (finalState (dhtValueCallback build jansson (nodeSinks jansson answers) nodeExists config
      fresh text.bytes false start)).honey uuid := by
  have looked := dhtValueUuid_foreign decodes encoded isUuid creator validUuid validId validOwn foreign
  have loaded := loadb_badActorToJson decodes encoded
  have some_bytes : text.bytes.length ≠ 0 := by
    intro none_
    rw [List.length_eq_zero_iff.mp none_, noEmpty] at loaded
    cases loaded
  have decoded := jsonToBadActor_members config fresh loaded fun _ => rfl
  unfold dhtValueCallback
  simp only [Bool.false_eq_true, if_false, if_neg some_bytes, CStr.ofMemory_bytes, looked, run_bind]
  cases seen : dbBadActorExists (fun _ => true) uuid start.honey with
  | true =>
      have exists_ : nodeExists uuid start = .ok true start := by rw [nodeExists, seen]
      simp only [exists_, if_true]
      simp only [dbBadActorExists, Bool.and_eq_true, List.any_eq_true, beq_iff_eq] at seen
      exact seen.2
  | false =>
      have unseen : nodeExists uuid start = .ok false start := by rw [nodeExists, seen]
      simp only [unseen, Bool.false_eq_true, if_false, decoded, fromExcept_ok]
      rw [pure_bind, finalState_bind_pure, badActorLog_storesRow stores]
      refine ⟨honeyRow (readBack origin), by simp [stored], ?_⟩
      simp [honeyRow, readBack, isUuid, orEmpty]

theorem LogEffect.honey {uuid : CStr} {start final : Local}
    (effect : LogEffect jansson uuid start final) : start.honey ⊆ final.honey := by
  cases effect with
  | nothing => exact List.Subset.refl _
  | stored badActor new => exact List.subset_append_left _ _
  | shared badActor new text encoded => exact List.subset_append_left _ _

theorem DeliverEffect.honey {value : CStr} {start final : Local}
    (effect : DeliverEffect jansson config fresh value start final) : start.honey ⊆ final.honey := by
  cases effect with
  | nothing => exact List.Subset.refl _
  | stored uuid badActor looked absent decoded => exact List.subset_append_left _ _

theorem DeliverEffect.put {value : CStr} {start final : Local}
    (effect : DeliverEffect jansson config fresh value start final) : final.put = start.put := by
  cases effect with
  | nothing => rfl
  | stored uuid badActor looked absent decoded => rfl

def AddsOwn (config : Config) (start s : Local) : Prop :=
  ∀ row ∈ s.honey, row ∈ start.honey ∨ row.createdByNodeId = some config.nodeId

theorem sipLogEventSinks_creator (start : Local) {badActor : BadActor}
    (creator : badActor.createdByNodeId = some config.nodeId) :
    Triple (AddsOwn config start) (sipLogEventSinks build (nodeSinks jansson answers) config badActor)
      (fun _ => AddsOwn config start) (AddsOwn config start) := by
  have stored_own (s : Local) (given : AddsOwn config start s) :
      AddsOwn config start (stored s badActor) := by
    intro row member
    rcases List.mem_append.mp member with old | new
    · exact given row old
    · rw [List.mem_singleton.mp new]
      exact .inr creator
  have log : Triple (AddsOwn config start) (badActorLog build (nodeSinks jansson answers) config badActor)
      (fun _ => AddsOwn config start) (AddsOwn config start) := by
    intro s given
    have either (t : Local) (effect : t = s ∨ t = stored s badActor) : AddsOwn config start t := by
      rcases effect with rfl | rfl
      · exact given
      · exact stored_own s given
    exact ((badActorLog_effect build jansson answers config s badActor).imp (fun _ same => same)
      (fun _ t effect => either t effect.state) either) s rfl
  have save : Triple (AddsOwn config start) ((nodeSinks jansson answers).peerToPeerDhtSave badActor)
      (fun _ => AddsOwn config start) (AddsOwn config start) := by
    intro s given
    apply ((peerToPeerDhtSave_effect s badActor).imp (fun _ same => same) ?_ ?_) s rfl
    · rintro _ t (rfl | ⟨text, -, rfl⟩)
      · exact given
      · exact given
    · rintro t rfl
      exact given
  unfold sipLogEventSinks
  apply log.bind
  intro logged
  split
  · exact Triple.pure fun _ given => given
  split
  · apply save.bind
    intro saved
    split
    · exact Triple.pure fun _ given => given
    · exact Triple.pure fun _ given => given
  · exact Triple.pure fun _ given => given

theorem sipLogEvent_creator (start : Local) (event : SipMessageEvent) :
    AddsOwn config start (finalState (sipLogEvent build osip (nodeSinks jansson answers) config fresh
      event start)) := by
  have itself : AddsOwn config start start := fun _ => .inl
  unfold sipLogEvent
  rw [run_bind]
  cases built : sipLogEventActor osip config fresh event with
  | error abort => exact itself
  | ok actor =>
      cases actor with
      | none => exact itself
      | some badActor =>
          exact (sipLogEventSinks_creator start (sipLogEventActor_creator built)).finalState itself
            (fun _ _ given => given) fun _ given => given

end Calls

/-! ## The invariant -/

section Invariant
variable {ι : Type} {build : ι → Build} {jansson : Jansson} {osip : Osip}

/-- A step, and what has been received in a call that could store it. -/
inductive ReceivingStep [DecidableEq ι] (build : ι → Build) (jansson : Jansson) (osip : Osip) :
    Network ι × Set (ι × CStr) → Network ι × Set (ι × CStr) → Prop
  | receive {net : Network ι} {got : Set (ι × CStr)} (i : ι) (value : ι × CStr)
      (member : value ∈ net.dht) (fresh : Fresh) (answers : SinkAnswers)
      (stores : StoresEvents answers) (unused : fresh.uuid ∉ net.generated) :
      ReceivingStep build jansson osip (net, got)
        ({ net.after i (dhtValueCallback (build i) jansson (nodeSinks jansson answers) nodeExists
            (net.config i) fresh value.2.bytes false) with
          generated := fresh.uuid :: net.generated }, insert (i, value.2) got)
  | other {net after : Network ι} {got : Set (ι × CStr)}
      (step : NetworkStep build jansson osip net after) :
      ReceivingStep build jansson osip (net, got) (after, got)

/-- The creator of a shared event is a node that holds it, as long as its id is still in use. -/
structure Converging (jansson : Jansson) (net : Network ι) (got : Set (ι × CStr))
    (origin : CStr → Option BadActor) : Prop where
  consistent : Consistent jansson net origin
  ids : ∀ i, (net.config i).nodeId ∈ net.generated
  distinct : Function.Injective fun i => (net.config i).nodeId
  creators : ∀ uuid badActor, origin uuid = some badActor → ∃ id ∈ net.generated,
    badActor.createdByNodeId = some id ∧
      ∀ j, (net.config j).nodeId = id → HasRow (net.honey j) uuid
  received : ∀ i text, (i, text) ∈ got → ∀ uuid, Announces jansson text uuid →
    HasRow (net.honey i) uuid

theorem HasRow.mono {honey honey' : List HoneyRow} {uuid : CStr} (has : HasRow honey uuid)
    (more : honey ⊆ honey') : HasRow honey' uuid := by
  obtain ⟨row, member, isUuid⟩ := has
  exact ⟨row, more member, isUuid⟩

section Steps
variable {net : Network ι} {got : Set (ι × CStr)} {origin : CStr → Option BadActor}

theorem Converging.announced (decodes : JanssonDecodes jansson)
    (converging : Converging jansson net got origin) {value : ι × CStr} (member : value ∈ net.dht) :
    ∃ uuid badActor id, origin uuid = some badActor ∧ badActorToJson jansson badActor = some value.2 ∧
      badActor.eventUuid = some uuid ∧ badActor.createdByNodeId = some id ∧ uuid ∈ net.generated ∧
      id ∈ net.generated ∧ (∀ j, (net.config j).nodeId = id → HasRow (net.honey j) uuid) ∧
      Announces jansson value.2 uuid := by
  obtain ⟨uuid, badActor, known, encoded, -⟩ := converging.consistent.values value member
  obtain ⟨generated, isUuid⟩ := converging.consistent.known uuid badActor known
  obtain ⟨id, isId, creator, holds⟩ := converging.creators uuid badActor known
  exact ⟨uuid, badActor, id, known, encoded, isUuid, creator, generated, isId, holds,
    announces_badActorToJson decodes encoded isUuid⟩

theorem converging_start {start : Network ι} (initial : start.Start)
    (ids : ∀ i, (start.config i).nodeId ∈ start.generated)
    (distinct : Function.Injective fun i => (start.config i).nodeId) :
    Converging jansson start ∅ fun _ => none where
  consistent := Consistent.start initial
  ids := ids
  distinct := distinct
  creators _ _ known := by cases known
  received _ _ member := absurd member (Set.notMem_empty _)

/-- A step that keeps the configs and the origins and loses no row. -/
theorem Converging.grow (converging : Converging jansson net got origin) {after : Network ι}
    (consistent : Consistent jansson after origin) (config : after.config = net.config)
    (generated : net.generated ⊆ after.generated) (rows : ∀ j, net.honey j ⊆ after.honey j) :
    Converging jansson after got origin where
  consistent := consistent
  ids i := by
    rw [config]
    exact generated (converging.ids i)
  distinct := by
    rw [config]
    exact converging.distinct
  creators uuid badActor known := by
    obtain ⟨id, isId, creator, holds⟩ := converging.creators uuid badActor known
    refine ⟨id, generated isId, creator, fun j same => ?_⟩
    rw [config] at same
    exact (holds j same).mono (rows j)
  received i text member uuid announces :=
    (converging.received i text member uuid announces).mono (rows i)

theorem Converging.originate (converging : Converging jansson net got origin) (i : ι) {uuid : CStr}
    {badActor : BadActor} (creator : badActor.createdByNodeId = some (net.config i).nodeId)
    (isUuid : badActor.eventUuid = some uuid) {after : Network ι}
    (consistent : Consistent jansson after (Function.update origin uuid (some badActor)))
    (config : after.config = net.config) (generated : net.generated ⊆ after.generated)
    (rows : ∀ j, net.honey j ⊆ after.honey j) (stored : honeyRow badActor ∈ after.honey i) :
    Converging jansson after got (Function.update origin uuid (some badActor)) where
  consistent := consistent
  ids j := by
    rw [config]
    exact generated (converging.ids j)
  distinct := by
    rw [config]
    exact converging.distinct
  creators other event known := by
    rw [config]
    by_cases same : other = uuid
    · subst same
      rw [Function.update_self] at known
      cases known
      refine ⟨(net.config i).nodeId, generated (converging.ids i), creator, fun j equal => ?_⟩
      rw [converging.distinct equal]
      exact ⟨honeyRow badActor, stored, isUuid⟩
    · rw [Function.update_of_ne same] at known
      obtain ⟨id, isId, made, holds⟩ := converging.creators other event known
      exact ⟨id, generated isId, made, fun j equal => (holds j equal).mono (rows j)⟩
  received j text member other announces :=
    (converging.received j text member other announces).mono (rows j)

variable [DecidableEq ι]

theorem after_honey {α : Type} {i : ι} {call : EStateM Abort Local α}
    (grows : net.honey i ⊆ (finalState (call ⟨net.honey i, []⟩)).honey) (j : ι) :
    net.honey j ⊆ (net.after i call).honey j := by
  change net.honey j ⊆ Function.update net.honey i _ j
  by_cases here : j = i
  · subst here
    rw [Function.update_self]
    exact grows
  · rw [Function.update_of_ne here]
    exact List.Subset.refl _

theorem Converging.deliver (decodes : JanssonDecodes jansson)
    (converging : Converging jansson net got origin) (i : ι) {value : ι × CStr}
    (member : value ∈ net.dht) (expired : Bool) (fresh : Fresh) (answers : SinkAnswers) :
    Converging jansson { net.after i (dhtValueCallback (build i) jansson (nodeSinks jansson answers)
        nodeExists (net.config i) fresh value.2.bytes expired) with
      generated := fresh.uuid :: net.generated } got origin := by
  have effect : DeliverEffect jansson (net.config i) fresh value.2 ⟨net.honey i, []⟩
      (finalState (dhtValueCallback (build i) jansson (nodeSinks jansson answers) nodeExists
        (net.config i) fresh value.2.bytes expired ⟨net.honey i, []⟩)) :=
    dhtValueCallback_effect ⟨net.honey i, []⟩ value.2 expired
  apply converging.grow (consistent_deliver decodes converging.consistent i member effect) rfl
  · exact List.subset_cons_self _ _
  · exact after_honey effect.honey

theorem Converging.restart (converging : Converging jansson net got origin) (i : ι) {config : Config}
    (unused : config.nodeId ∉ net.generated) :
    Converging jansson { net with
      config := Function.update net.config i config
      generated := config.nodeId :: net.generated } got origin where
  consistent := converging.consistent.generate _ config.nodeId
  ids j := by
    by_cases here : j = i
    · subst here
      simp
    · simp only [Function.update_of_ne here]
      exact List.mem_cons_of_mem _ (converging.ids j)
  distinct := by
    intro j k same
    simp only at same
    by_cases hj : j = i <;> by_cases hk : k = i
    · rw [hj, hk]
    · subst hj
      rw [Function.update_self, Function.update_of_ne hk] at same
      exact absurd (same ▸ converging.ids k) unused
    · subst hk
      rw [Function.update_self, Function.update_of_ne hj] at same
      exact absurd (same ▸ converging.ids j) unused
    · rw [Function.update_of_ne hj, Function.update_of_ne hk] at same
      exact converging.distinct same
  creators uuid badActor known := by
    obtain ⟨id, isId, creator, holds⟩ := converging.creators uuid badActor known
    refine ⟨id, List.mem_cons_of_mem _ isId, creator, fun j same => ?_⟩
    by_cases here : j = i
    · subst here
      simp only [Function.update_self] at same
      exact absurd (same ▸ isId) unused
    · simp only [Function.update_of_ne here] at same
      exact holds j same
  received := converging.received

theorem Converging.log (converging : Converging jansson net got origin) (i : ι) (fresh : Fresh)
    (event : SipMessageEvent) (answers : SinkAnswers) (unused : fresh.uuid ∉ net.generated) :
    ∃ origin', Converging jansson { net.after i (sipLogEvent (build i) osip
        (nodeSinks jansson answers) (net.config i) fresh event) with
      generated := fresh.uuid :: net.generated } got origin' := by
  have effect : LogEffect jansson fresh.uuid ⟨net.honey i, []⟩ (finalState (sipLogEvent (build i) osip
      (nodeSinks jansson answers) (net.config i) fresh event ⟨net.honey i, []⟩)) :=
    sipLogEvent_effect ⟨net.honey i, []⟩ event
  have own : AddsOwn (net.config i) ⟨net.honey i, []⟩ (finalState (sipLogEvent (build i) osip
      (nodeSinks jansson answers) (net.config i) fresh event ⟨net.honey i, []⟩)) :=
    sipLogEvent_creator ⟨net.honey i, []⟩ event
  have rows := after_honey effect.honey
  have absent (other : HoneyRow) (member : other ∈ net.honey i) :
      other.eventUuid ≠ some fresh.uuid := by
    intro equal
    obtain ⟨known, badActor, isUuid, some_, -⟩ := converging.consistent.rows i other member
    rw [equal] at isUuid
    cases isUuid
    exact unused (converging.consistent.known fresh.uuid badActor some_).1
  have generated := List.subset_cons_self fresh.uuid net.generated
  generalize ran : finalState (sipLogEvent (build i) osip (nodeSinks jansson answers) (net.config i)
    fresh event ⟨net.honey i, []⟩) = final at effect own
  rw [Network.after_eq ran] at rows ⊢
  have creator {badActor : BadActor} (new : badActor.eventUuid = some fresh.uuid)
      (member : honeyRow badActor ∈ final.honey) :
      badActor.createdByNodeId = some (net.config i).nodeId := by
    rcases own _ member with old | made
    · exact absurd new (absent _ old)
    · exact made
  cases effect with
  | nothing =>
      refine ⟨origin, converging.grow ?_ rfl generated rows⟩
      simpa using converging.consistent.generate net.config fresh.uuid
  | stored badActor new =>
      have member : honeyRow badActor ∈ (stored ⟨net.honey i, []⟩ badActor).honey := by
        simp [stored]
      refine ⟨_, converging.originate i (creator new member) new ?_ rfl generated rows ?_⟩
      · simpa [stored] using (converging.consistent.originate unused new).store i (honeyRow badActor)
          new (Function.update_self ..) rfl absent
      · simp [stored]
  | shared badActor new text encoded =>
      have member : honeyRow badActor ∈ (stored ⟨net.honey i, []⟩ badActor).honey := by
        simp [stored]
      refine ⟨_, converging.originate i (creator new member) new ?_ rfl generated rows ?_⟩
      · have inserted := (converging.consistent.originate unused new).store i (honeyRow badActor) new
          (Function.update_self ..) rfl absent
        simpa [stored] using inserted.put i (honeyRow badActor) (Function.update_self ..) encoded
          (by simp) new
      · simp [stored]

theorem Converging.receive (decodes : JanssonDecodes jansson) (noEmpty : jansson.loadb [] = none)
    (converging : Converging jansson net got origin) (i : ι) {value : ι × CStr}
    (member : value ∈ net.dht) (fresh : Fresh) {answers : SinkAnswers} (stores : StoresEvents answers)
    (valid : ∀ uuid ∈ net.generated, isValidUuid uuid = true) :
    Converging jansson { net.after i (dhtValueCallback (build i) jansson (nodeSinks jansson answers)
        nodeExists (net.config i) fresh value.2.bytes false) with
      generated := fresh.uuid :: net.generated } (insert (i, value.2) got) origin := by
  have delivered : Converging jansson { net.after i (dhtValueCallback (build i) jansson
        (nodeSinks jansson answers) nodeExists (net.config i) fresh value.2.bytes false) with
      generated := fresh.uuid :: net.generated } got origin :=
    converging.deliver decodes i member false fresh answers
  refine { delivered with received := ?_ }
  intro j text isGot uuid announces
  rcases Set.mem_insert_iff.mp isGot with new | old
  · cases new
    obtain ⟨known, badActor, id, -, encoded, isUuid, creator, isKnown, isId, holds, named⟩ :=
      converging.announced decodes member
    cases named.unique announces
    by_cases own : id = (net.config i).nodeId
    · exact (holds i own.symm).mono (after_honey (DeliverEffect.honey
        (dhtValueCallback_effect ⟨net.honey i, []⟩ value.2 false)) i)
    · change HasRow (Function.update net.honey i _ i) uuid
      rw [Function.update_self]
      exact dhtValueCallback_receives decodes noEmpty stores ⟨net.honey i, []⟩ encoded isUuid creator
        (valid uuid isKnown) (valid id isId) (valid _ (converging.ids i)) own
  · exact delivered.received j text old uuid announces

theorem receivingStep_generated {before after : Network ι × Set (ι × CStr)}
    (step : ReceivingStep build jansson osip before after) :
    before.1.generated ⊆ after.1.generated := by
  cases step with
  | receive i value member fresh answers stores unused => exact List.subset_cons_self _ _
  | other step =>
      cases step with
      | log i fresh event answers unused => exact List.subset_cons_self _ _
      | deliver i value member expired fresh answers unused => exact List.subset_cons_self _ _
      | restart i config unused => exact List.subset_cons_self _ _

theorem receivingStep_converging (decodes : JanssonDecodes jansson) (noEmpty : jansson.loadb [] = none)
    {before after : Network ι × Set (ι × CStr)} (step : ReceivingStep build jansson osip before after)
    (valid : ∀ uuid ∈ before.1.generated, isValidUuid uuid = true)
    (given : ∃ origin, Converging jansson before.1 before.2 origin) :
    ∃ origin, Converging jansson after.1 after.2 origin := by
  obtain ⟨origin, converging⟩ := given
  cases step with
  | receive i value member fresh answers stores unused =>
      exact ⟨origin, converging.receive decodes noEmpty i member fresh stores valid⟩
  | other step =>
      cases step with
      | log i fresh event answers unused => exact converging.log i fresh event answers unused
      | deliver i value member expired fresh answers unused =>
          exact ⟨origin, converging.deliver decodes i member expired fresh answers⟩
      | restart i config unused => exact ⟨origin, converging.restart i unused⟩

theorem receivingRun_converging (decodes : JanssonDecodes jansson) (noEmpty : jansson.loadb [] = none)
    {start reached : Network ι × Set (ι × CStr)}
    (run : Relation.ReflTransGen (ReceivingStep build jansson osip) start reached)
    (valid : ∀ uuid ∈ reached.1.generated, isValidUuid uuid = true)
    (initial : ∃ origin, Converging jansson start.1 start.2 origin) :
    ∃ origin, Converging jansson reached.1 reached.2 origin := by
  induction run with
  | refl => exact initial
  | tail _ last ih =>
      have before := fun uuid member => valid uuid (receivingStep_generated last member)
      exact receivingStep_converging decodes noEmpty last before (ih before)

end Steps

theorem filter_eventUuid {rows : List HoneyRow} {row : HoneyRow}
    (distinct : (rows.map HoneyRow.eventUuid).Nodup) (member : row ∈ rows) :
    rows.filter (fun other => other.eventUuid = row.eventUuid) = [row] := by
  induction rows with
  | nil => cases member
  | cons first rest ih =>
      rw [List.map_cons, List.nodup_cons] at distinct
      rcases List.mem_cons.mp member with rfl | later
      · rw [List.filter_cons_of_pos (by simp), List.filter_eq_nil_iff.mpr]
        intro other inRest same
        exact distinct.1 (List.mem_map.mpr ⟨other, inRest, of_decide_eq_true same⟩)
      · rw [List.filter_cons_of_neg, ih distinct.2 later]
        intro same
        exact distinct.1 (of_decide_eq_true same ▸ List.mem_map_of_mem later)

end Invariant

def freshNodes : Network Bool :=
  { twoNodes with generated := [(twoNodes.config true).nodeId, (twoNodes.config false).nodeId] }

def secondFresh : Fresh :=
  ⟨.lit "2026-07-27 10:00:02.000000000", .lit "7d1f0a52-91c4-4c1b-9d6e-52d0a3b8c944"⟩

def receives (i : Bool) (fresh : Fresh) (net : Network Bool) : Network Bool :=
  { net.after i (dhtValueCallback ⟨false, true⟩ compactJansson (nodeSinks compactJansson
      willingAnswers) nodeExists (net.config i) fresh probeText.bytes false) with
    generated := fresh.uuid :: net.generated }

theorem receives_dht (i : Bool) (fresh : Fresh) (net : Network Bool) :
    (receives i fresh net).dht = net.dht := by
  have effect : DeliverEffect compactJansson (net.config i) fresh probeText ⟨net.honey i, []⟩
      (finalState (dhtValueCallback ⟨false, true⟩ compactJansson (nodeSinks compactJansson
        willingAnswers) nodeExists (net.config i) fresh probeText.bytes false ⟨net.honey i, []⟩)) :=
    dhtValueCallback_effect ⟨net.honey i, []⟩ probeText false
  generalize ran : finalState (dhtValueCallback ⟨false, true⟩ compactJansson
    (nodeSinks compactJansson willingAnswers) nodeExists (net.config i) fresh probeText.bytes false
    ⟨net.honey i, []⟩) = final at effect
  rw [receives, Network.after_eq ran]
  simp only [effect.put, List.map_nil, List.append_nil]

def announced : Network Bool :=
  { loggedOnce with generated := probeFresh.uuid :: freshNodes.generated }

end SentryPeer.Proof
