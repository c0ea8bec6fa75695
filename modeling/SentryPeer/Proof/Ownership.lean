import SentryPeer.Proof.OnHeap

/-!
# What a logged packet leaves on the heap

`sip_log_event`, `dht_value_callback` and `log_sip_packet` with the sinks they call.
-/

namespace SentryPeer.OnHeap
open Lib Pointwise

/-- What a call of the JSON log and of the webhook of a build leaves behind. -/
structure Leaks where
  jsonLog : Assertion Block
  webhook : Assertion Block

structure SinksRefine {σ : Type} (build : Build) (onHeap : Sinks σ) (sinks : SentryPeer.Sinks σ)
    (leaks : Leaks) : Prop where
  jsonLogBadActor : build.rust = false →
    Borrows onHeap.jsonLogBadActor sinks.jsonLogBadActor leaks.jsonLog
  jsonLogBadActorRs : build.rust = true →
    Borrows onHeap.jsonLogBadActorRs sinks.jsonLogBadActorRs leaks.jsonLog
  dbInsertBadActor : Borrows onHeap.dbInsertBadActor sinks.dbInsertBadActor 0
  jsonHttpPostBadActor : build.rust = false →
    Borrows onHeap.jsonHttpPostBadActor sinks.jsonHttpPostBadActor leaks.webhook
  jsonHttpPostBadActorRs : build.rust = true →
    Borrows onHeap.jsonHttpPostBadActorRs sinks.jsonHttpPostBadActorRs leaks.webhook
  peerToPeerDhtSave : Borrows onHeap.peerToPeerDhtSave sinks.peerToPeerDhtSave 0

/-- Whether `bad_actor_log` calls the sink of a mode: with Rust only in the new mode. -/
def callsSink (build : Build) (config : Config) (mode : Bool) : Bool :=
  (!build.rust || config.newMode) && mode

def Leaks.ofJsonLog (leaks : Leaks) (build : Build) (config : Config) : Assertion Block :=
  if callsSink build config config.jsonLogMode then leaks.jsonLog else 0

def Leaks.ofWebhook (leaks : Leaks) (build : Build) (config : Config) : Assertion Block :=
  if callsSink build config config.webhookMode then leaks.webhook else 0

def Leaks.ofBadActorLog (leaks : Leaks) (build : Build) (config : Config) :
    Exit → Assertion Block
  | .success => leaks.ofJsonLog build config + leaks.ofWebhook build config
  | .failure => leaks.ofJsonLog build config

/-- A failure is one of the parser, of a sink before the webhook, or of the DHT. -/
def Leaks.ofSipLogEvent (leaks : Leaks) (build : Build) (config : Config) : Exit → Assertion Block
  | .success => leaks.ofBadActorLog build config .success
  | .failure => 0 ∪ leaks.ofBadActorLog build config .failure ∪
      leaks.ofBadActorLog build config .success

theorem dhtValueUuid_of_not_json (config : Config) {jansson : Jansson} {text : CStr}
    (invalid : jansson.loadb text.bytes = none) : dhtValueUuid jansson config text = none := by
  unfold dhtValueUuid
  rw [invalid]
  rfl

section Logging
variable {σ : Type} {build : Build} {onHeap : Sinks σ} {sinks : SentryPeer.Sinks σ} {leaks : Leaks}
  (refines : SinksRefine build onHeap sinks leaks) (config : Config)
include refines

theorem badActorLogJson_borrows : Borrows (badActorLogJson build onHeap config)
    (SentryPeer.badActorLogJson build sinks config) (leaks.ofJsonLog build config) := by
  intro p badActor
  unfold badActorLogJson SentryPeer.badActorLogJson Leaks.ofJsonLog callsSink
  cases language : build.rust with
  | false =>
      cases config.jsonLogMode with
      | false => exact Simulates.pure ((add_zero _).ge.trans (subset_given _ rfl))
      | true => exact refines.jsonLogBadActor language p badActor
  | true =>
      simp only [Bool.not_true, Bool.false_or]
      cases config.newMode && config.jsonLogMode with
      | false => exact Simulates.pure ((add_zero _).ge.trans (subset_given _ rfl))
      | true => exact refines.jsonLogBadActorRs language p badActor

theorem badActorLogWebhook_borrows : Borrows (badActorLogWebhook build onHeap config)
    (SentryPeer.badActorLogWebhook build sinks config) (leaks.ofWebhook build config) := by
  intro p badActor
  unfold badActorLogWebhook SentryPeer.badActorLogWebhook Leaks.ofWebhook callsSink
  cases language : build.rust with
  | false =>
      cases config.webhookMode with
      | false => exact Simulates.pure ((add_zero _).ge.trans (subset_given _ rfl))
      | true => exact refines.jsonHttpPostBadActor language p badActor
  | true =>
      simp only [Bool.not_true, Bool.false_or]
      cases config.newMode && config.webhookMode with
      | false => exact Simulates.pure ((add_zero _).ge.trans (subset_given _ rfl))
      | true => exact refines.jsonHttpPostBadActorRs language p badActor

theorem badActorLog_spec (p : ℕ) (badActor : BadActor) :
    Simulates (badActorAt p badActor) (badActorLog build onHeap config p)
      (SentryPeer.badActorLog build sinks config badActor)
      fun exit exit' => ⋃ _ : exit = exit',
        badActorAt p badActor + leaks.ofBadActorLog build config exit' := by
  unfold badActorLog SentryPeer.badActorLog
  apply (badActorLogJson_borrows refines config p badActor).bind
  intro exit exit'
  apply Simulates.iUnion
  rintro rfl
  cases exit with
  | failure => exact Simulates.pure (subset_given _ rfl)
  | success =>
      apply (refines.dbInsertBadActor p badActor).call
      intro exit exit'
      rw [Set.iUnion_add]
      apply Simulates.iUnion
      rintro rfl
      rw [add_zero]
      cases exit with
      | failure => exact Simulates.pure (subset_given _ rfl)
      | success =>
          apply (badActorLogWebhook_borrows refines config p badActor).call
          intro exit exit'
          rw [Set.iUnion_add]
          apply Simulates.iUnion
          rintro rfl
          apply Simulates.pure
          rw [add_assoc, add_comm (leaks.ofWebhook build config)]
          exact subset_given _ rfl

theorem logParsed_spec (p : ℕ) (badActor : BadActor) :
    Simulates (badActorAt p badActor) (logParsed build onHeap config p)
      (sipLogEventSinks build sinks config badActor)
      fun exit exit' => ⋃ _ : exit = exit', leaks.ofSipLogEvent build config exit' := by
  unfold logParsed sipLogEventSinks
  apply (badActorLog_spec refines config p badActor).bind
  intro exit exit'
  apply Simulates.iUnion
  rintro rfl
  cases exit with
  | failure =>
      apply (badActorDestroy_spec (c := ()) badActor).callPure
      intro _
      rw [zero_add]
      apply Simulates.pure
      refine Set.Subset.trans ?_ (subset_given _ rfl)
      exact Set.subset_union_of_subset_left Set.subset_union_right _
  | success =>
      cases build.openDht && config.p2pDhtMode with
      | false =>
          apply (badActorDestroy_spec (c := ()) badActor).callPure
          intro _
          rw [zero_add]
          exact Simulates.pure (subset_given _ rfl)
      | true =>
          apply (refines.peerToPeerDhtSave p badActor).call
          intro exit exit'
          rw [Set.iUnion_add]
          apply Simulates.iUnion
          rintro rfl
          rw [add_zero]
          cases exit with
          | failure =>
              apply (badActorDestroy_spec (c := ()) badActor).callPure
              intro _
              rw [zero_add]
              apply Simulates.pure
              exact Set.subset_union_right.trans (subset_given _ rfl)
          | success =>
              apply (badActorDestroy_spec (c := ()) badActor).callPure
              intro _
              rw [zero_add]
              exact Simulates.pure (subset_given _ rfl)

/-- On every path the event that was lent is left as it was, and nothing of what was allocated but
what the sinks leave behind. -/
theorem sipLogEvent_refines (osip : Osip) (fresh : Fresh) (allocator : Allocator) (p : ℕ)
    (strings : Strings EventField) (event : SipMessageEvent) :
    Simulates (eventAt allocator p strings event) (sipLogEvent build osip onHeap config fresh p)
      (SentryPeer.sipLogEvent build osip sinks config fresh event)
      fun exit exit' => ⋃ _ : exit = exit',
        eventAt allocator p strings event + leaks.ofSipLogEvent build config exit' := by
  unfold sipLogEvent SentryPeer.sipLogEvent sipLogEventActor eventAt
  simp only [fromExcept_bind, bind_assoc]
  apply Simulates.load rfl
    (rfl : eventView (.sipMessageEvent strings event.packetLen) = some (strings, _))
  apply Simulates.load rfl
    (rfl : Block.packetLen? (.sipMessageEvent strings event.packetLen) = some _)
  dsimp only
  rw [add_comm]
  apply (duplicateField_spec event.string .clientIpAddrStr rfl).bind
  intro sourceIp source
  rw [add_left_comm]
  apply (duplicateField_spec event.string .destIpAddrStr rfl).bind
  intro destinationIp destination
  rw [add_left_comm]
  apply (duplicateField_spec event.string .transportType rfl).bind
  intro transportType transport
  rw [add_left_comm]
  apply (duplicatePart_spec (some (collectedMethod config))).bind
  intro collectedPtr collected
  have built : SentryPeer.badActorNew fresh none (some source) (some destination) none none
      (some transport) none (some collected) (some config.nodeId) = .ok _ := rfl
  rw [built]
  apply (badActorNew_spec (c := ()) (R := stringsAt allocator strings event.string +
    pointsTo p (.sipMessageEvent strings event.packetLen)) built (by
      simp only [stringAt, zero_add]
      ac_rfl)).bindPure
  intro self
  rw [fromExcept_ok, pure_bind]
  have logs (badActor : BadActor) : Simulates (badActorAt self badActor +
      (stringsAt allocator strings event.string +
        pointsTo p (.sipMessageEvent strings event.packetLen)))
      (logParsed build onHeap config self) (sipLogEventSinks build sinks config badActor)
      fun exit exit' => ⋃ _ : exit = exit', stringsAt allocator strings event.string +
        pointsTo p (.sipMessageEvent strings event.packetLen) +
          leaks.ofSipLogEvent build config exit' := by
    apply ((logParsed_spec refines config self badActor).frame _).post
    intro exit exit'
    rw [Set.iUnion_add]
    apply Set.iUnion_mono
    intro _
    exact (add_comm _ _).subset
  by_cases received : 0 < event.packetLen
  · rw [if_pos received, if_pos received, fromExcept_bind, bind_assoc]
    apply (sipMessageParser_spec event.string osip .packet event.packetLen rfl rfl rfl rfl).bind
    rintro exit ⟨exit', badActor⟩
    apply Simulates.iUnion
    rintro rfl
    cases exit with
    | failure =>
        apply (badActorDestroy_spec (c := ()) badActor).callPure
        intro _
        rw [zero_add]
        apply Simulates.pure
        refine Set.Subset.trans ?_ (subset_given _ rfl)
        have nothing : (0 : Assertion Block) ⊆ leaks.ofSipLogEvent build config .failure :=
          Set.subset_union_left.trans Set.subset_union_left
        simpa only [add_zero] using Set.add_subset_add_left nothing
    | success => exact logs badActor
  · rw [if_neg received, if_neg received]
    exact logs _

/-- The callback owns nothing when it starts and nothing when it ends. -/
theorem dhtValueCallback_refines (jansson : Jansson) (dbExists : CStr → EStateM Abort σ Bool)
    (fresh : Fresh) (data : List UInt8) (expired : Bool) :
    Simulates 0 (dhtValueCallback build onHeap config jansson dbExists fresh data expired)
      (SentryPeer.dhtValueCallback build jansson sinks dbExists config fresh data expired)
      fun _ _ => leaks.ofSipLogEvent build config .failure := by
  have nothing : (0 : Assertion Block) ⊆ leaks.ofSipLogEvent build config .failure :=
    Set.subset_union_left.trans Set.subset_union_left
  unfold dhtValueCallback SentryPeer.dhtValueCallback
  cases expired with
  | true => exact Simulates.pure nothing
  | false =>
      simp only [Bool.false_eq_true, if_false]
      by_cases empty : data.length = 0
      · rw [if_pos empty, if_pos empty]
        exact Simulates.pure nothing
      · rw [if_neg empty, if_neg empty]
        apply (Simulates.malloc _ _ ()).bindPure
        intro received
        apply loadString_bind rfl
        cases json : jansson.loadb (CStr.ofMemory data).bytes with
        | none =>
            rw [dhtValueUuid_of_not_json config json]
            exact (Simulates.free rfl rfl).post fun _ _ => nothing
        | some value =>
            apply (Simulates.malloc _ _ ()).bindPure
            intro jsonPtr
            cases dhtValueUuid jansson config (CStr.ofMemory data) with
            | none =>
                apply (Simulates.free (c := ()) rfl rfl).bindPure
                intro _
                exact (Simulates.free rfl rfl).post fun _ _ => nothing
            | some eventUuid =>
                apply Simulates.onRest
                intro exists'
                cases exists' with
                | true =>
                    apply (Simulates.free (c := ()) rfl rfl).bindPure
                    intro _
                    apply (Simulates.free (c := ()) rfl rfl).bindPure
                    intro _
                    exact Simulates.pure nothing
                | false =>
                    apply (jsonToBadActor_spec jansson config fresh (add_left_comm _ _ _)).bind
                    rintro (_ | self) (_ | badActor)
                    · rw [badActorOrNullAt, zero_add]
                      apply (Simulates.free (c := ()) rfl rfl).bindPure
                      intro _
                      exact (Simulates.free rfl rfl).post fun _ _ => nothing
                    · exact Simulates.vacuous Set.empty_add
                    · exact Simulates.vacuous Set.empty_add
                    · apply (badActorLog_spec refines config self badActor).call
                      intro exit exit'
                      rw [Set.iUnion_add]
                      apply Simulates.iUnion
                      intro _
                      apply (Simulates.free (c := ()) (add_left_comm _ _ _) rfl).bindPure
                      intro _
                      apply (Simulates.free (c := ()) (add_left_comm _ _ _) rfl).bindPure
                      intro _
                      rw [add_zero, ← bind_pure (badActorDestroy self)]
                      apply (badActorDestroy_spec (c := ()) badActor).callPure
                      intro _
                      rw [zero_add]
                      apply Simulates.pure
                      cases exit' with
                      | success => exact Set.subset_union_right
                      | failure => exact Set.subset_union_of_subset_left Set.subset_union_right _

end Logging

section LogSipPacket
variable {σ : Type} {log : ℕ → Program σ Exit} {v : SipMessageEvent → EStateM Abort σ Exit}
  {leak : Exit → Assertion Block}

theorem cStringFromRaw_spec {γ : Type} {c : γ} {p : ℕ} {text : CStr} {P R : Assertion Block}
    (has : P = pointsTo p (.string .rust text) + R) :
    Simulates (σ := σ) P (cStringFromRaw p) (pure c) fun _ _ => R :=
  Simulates.free has rfl

-- The string is another's, so nothing is freed.
theorem forgetField_spec {γ : Type} {c : γ} (p : ℕ) (strings : Strings EventField) (packetLen : ℕ)
    (field : EventField) :
    Simulates (σ := σ) (pointsTo p (.sipMessageEvent strings packetLen))
      (setField eventView p field none) (pure c)
      fun _ _ => pointsTo p (.sipMessageEvent (Function.update strings field none) packetLen) := by
  apply Simulates.load (R := 0) (add_zero _).symm
    (rfl : eventView (.sipMessageEvent strings packetLen) = some (strings, _))
  exact (Simulates.store (R := 0) (add_zero _).symm).post fun _ _ => (add_zero _).subset

section Event
variable {allocator : Allocator} {packet transportType clientIpAddr destIpAddr sipMessage : ℕ}
  {p q r t : CStr}

theorem eventAt_strings (event : SipMessageEvent) (packetText : event.packet = some p)
    (transportText : event.transportType = some q) (clientText : event.clientIpAddrStr = some r)
    (dest : Option ℕ) :
    eventAt allocator sipMessage (eventStrings (some packet) (some transportType)
        (some clientIpAddr) dest) event =
      pointsTo sipMessage (.sipMessageEvent (eventStrings (some packet) (some transportType)
          (some clientIpAddr) dest) event.packetLen) +
        (stringAt allocator dest event.destIpAddrStr +
          (pointsTo clientIpAddr (.string allocator r) +
            (pointsTo transportType (.string allocator q) +
              pointsTo packet (.string allocator p)))) := by
  unfold eventAt
  rw [stringsAt_event]
  simp only [List.map_cons, List.map_nil, List.sum_cons, List.sum_nil, SipMessageEvent.string,
    eventStrings, packetText, transportText, clientText, stringAt_some,
    add_zero]
  ac_rfl

/-- The four strings go back to Rust and the event to C. -/
theorem endSipMessage_spec {γ : Type} {c : γ} {event : SipMessageEvent} (packetText : event.packet = some p)
    (transportText : event.transportType = some q) (clientText : event.clientIpAddrStr = some r)
    (destText : event.destIpAddrStr = some t) :
    Simulates (σ := σ) (eventAt .rust sipMessage (eventStrings (some packet) (some transportType)
        (some clientIpAddr) (some destIpAddr)) event)
      (endSipMessage packet transportType clientIpAddr destIpAddr sipMessage) (pure c)
      fun _ _ => 0 := by
  unfold endSipMessage cleanUpSipMessage
  rw [eventAt_strings event packetText transportText clientText, destText, stringAt]
  simp only [bind_assoc]
  apply (cStringFromRaw_spec (c := ()) (R := pointsTo sipMessage (.sipMessageEvent _ _) +
    (pointsTo destIpAddr (.string .rust t) + (pointsTo clientIpAddr (.string .rust r) +
      pointsTo transportType (.string .rust q)))) (by ac_rfl)).bindPure
  intro _
  apply (cStringFromRaw_spec (c := ()) (R := pointsTo sipMessage (.sipMessageEvent _ _) +
    (pointsTo destIpAddr (.string .rust t) + pointsTo clientIpAddr (.string .rust r)))
    (by ac_rfl)).bindPure
  intro _
  apply (cStringFromRaw_spec (c := ()) (R := pointsTo sipMessage (.sipMessageEvent _ _) +
    pointsTo destIpAddr (.string .rust t)) (by ac_rfl)).bindPure
  intro _
  apply (cStringFromRaw_spec (c := ()) (add_comm _ _)).bindPure
  intro _
  apply (forgetField_spec (c := ()) sipMessage _ _ .packet).bindPure
  intro _
  apply (forgetField_spec (c := ()) sipMessage _ _ .transportType).bindPure
  intro _
  apply (forgetField_spec (c := ()) sipMessage _ _ .clientIpAddrStr).bindPure
  intro _
  apply (forgetField_spec (c := ()) sipMessage _ _ .destIpAddrStr).bindPure
  intro _
  have null : Function.update (Function.update (Function.update (Function.update
      (eventStrings (some packet) (some transportType) (some clientIpAddr) (some destIpAddr))
      .packet none) .transportType none) .clientIpAddrStr none) .destIpAddrStr none =
      fun _ => none := by
    funext field
    cases field <;> rfl
  have bare : pointsTo sipMessage (.sipMessageEvent (fun _ => none) event.packetLen) +
      stringsAt .c (fun _ => none) (fun _ => none) ⊆ recordAt
        (fun strings => .sipMessageEvent strings event.packetLen) .c sipMessage fun _ => none :=
    recordAt_intro (fun strings => .sipMessageEvent strings event.packetLen) _
  have unowned : stringsAt .c (fun _ : EventField => none) (fun _ => none) = 0 :=
    Finset.sum_const_zero
  rw [unowned, add_zero] at bare
  rw [null]
  exact (sipMessageEventDestroy_spec fun _ => none).imp bare fun _ _ => subset_rfl

end Event

/-- Beside what `sip_log_event` leaves behind, a received packet leaves nothing on the heap. -/
theorem logSipPacket_refines
    (logs : ∀ p strings event, Simulates (eventAt .rust p strings event) (log p) (v event)
      fun exit exit' => ⋃ _ : exit = exit', eventAt .rust p strings event + leak exit')
    (listener : RustListener) (buf : List UInt8) (bytesRead : ℕ) (peerAddr listenAddr : SocketAddr) :
    Simulates 0 (logSipPacket log listener buf bytesRead peerAddr listenAddr)
      (do
        let event ← fromExcept (logSipPacketEvent listener buf bytesRead peerAddr listenAddr)
        v event)
      fun exit exit' => ⋃ _ : exit = exit', leak exit' := by
  unfold logSipPacket logSipPacketEvent
  dsimp only
  split
  · apply (abort_spec _).bind
    intro _ _
    exact Simulates.vacuous rfl
  · rw [fromExcept_ok, pure_bind]
    apply (Simulates.malloc _ _ ()).bindPure
    intro packet
    apply (Simulates.malloc _ _ ()).bindPure
    intro transportType
    apply (Simulates.malloc _ _ ()).bindPure
    intro clientIpAddr
    apply (Simulates.malloc _ _ ()).bindPure
    intro destIpAddr
    apply (Simulates.malloc _ _ ()).bindPure
    intro sipMessage
    have lent : eventAt .rust sipMessage (eventStrings (some packet) (some transportType)
        (some clientIpAddr) (some destIpAddr))
        ⟨some (.ofMemory (fromUtf8Lossy (buf.take bytesRead))), bytesRead,
          some listener.transportType, some peerAddr.text, some listenAddr.text⟩ = _ :=
      eventAt_strings _ rfl rfl rfl _
    rw [stringAt_some] at lent
    rw [add_zero, ← lent, ← bind_pure (v _)]
    apply (logs _ _ _).bind
    intro exit exit'
    apply Simulates.iUnion
    rintro rfl
    cases exit with
    | failure =>
        apply (endSipMessage_spec (c := ()) rfl rfl rfl rfl).callPure
        intro _
        rw [zero_add]
        exact Simulates.pure (subset_given _ rfl)
    | success =>
        apply (endSipMessage_spec (c := ()) rfl rfl rfl rfl).callPure
        intro _
        rw [zero_add]
        exact Simulates.pure (subset_given _ rfl)

end LogSipPacket

end SentryPeer.OnHeap
