import SentryPeer.Source.SipLog
import SentryPeer.Source.Conf

/-!
# Which packets stop the daemon

`sip_log_event` hands every part of the parsed message to `util_duplicate_string`. The called number
and the user agent have a replacement for a missing part, the method has none, so a message without
a method stops the process.
-/

namespace SentryPeer.Proof
open Lib

variable {σ : Type}

theorem calledNumberOf_ok (message : OsipMessage) : ∃ number, calledNumberOf message = .ok number := by
  unfold calledNumberOf
  split
  · split
    · split <;> exact ⟨_, rfl⟩
    · exact ⟨_, rfl⟩
  · exact ⟨_, rfl⟩

theorem userAgentOf_ok (message : OsipMessage) : ∃ agent, userAgentOf message = .ok agent := by
  unfold userAgentOf
  split
  · split
    · split <;> exact ⟨_, rfl⟩
    · exact ⟨_, rfl⟩
  · exact ⟨_, rfl⟩

/-- libosip2 parses the packet into `message` and prints it back. -/
structure Delivers (osip : Osip) (event : SipMessageEvent) (message : OsipMessage) : Prop where
  messageInit : osip.messageInit = true
  parserInit : osip.parserInit = true
  parsed : osip.messageParse event.packet event.packetLen = some message
  printed : (osip.messageToStr message).isSome

def FieldsPresent (badActor : BadActor) : Prop :=
  badActor.sipMessage.isSome ∧ badActor.method.isSome ∧ badActor.calledNumber.isSome ∧
    badActor.userAgent.isSome

theorem sipMessageParser_delivered {osip : Osip} {event : SipMessageEvent} {message : OsipMessage}
    (delivered : Delivers osip event message) (badActor : BadActor) :
    (message.sipMethod = none →
      sipMessageParser osip event.packet event.packetLen badActor =
        .error (.assertion .utilDuplicateString)) ∧
    (message.sipMethod.isSome → ∃ parsed, FieldsPresent parsed ∧
      sipMessageParser osip event.packet event.packetLen badActor = .ok (.success, parsed)) := by
  obtain ⟨text, printed⟩ := Option.isSome_iff_exists.mp delivered.printed
  obtain ⟨number, hn⟩ := calledNumberOf_ok message
  obtain ⟨agent, ha⟩ := userAgentOf_ok message
  constructor
  · intro absent
    simp [sipMessageParser, delivered.messageInit, delivered.parserInit, delivered.parsed, printed,
      absent, utilDuplicateString, bind, Except.bind]
  · intro present
    obtain ⟨method, hm⟩ := Option.isSome_iff_exists.mp present
    refine ⟨{ badActor with
      sipMessage := some text, method := some method, calledNumber := some number,
      userAgent := some agent }, ⟨rfl, rfl, rfl, rfl⟩, ?_⟩
    simp [sipMessageParser, delivered.messageInit, delivered.parserInit, delivered.parsed, printed,
      hm, hn, ha, utilDuplicateString, bind, Except.bind, pure, Except.pure]

theorem sipMessageParser_rejected {osip : Osip} {event : SipMessageEvent}
    (rejected : ∀ message, ¬ Delivers osip event message) (badActor : BadActor) :
    ∃ left, sipMessageParser osip event.packet event.packetLen badActor = .ok (.failure, left) := by
  unfold sipMessageParser
  by_cases messageInit : osip.messageInit = true
  · by_cases parserInit : osip.parserInit = true
    · cases parsed : osip.messageParse event.packet event.packetLen with
      | none => exact ⟨_, by simp [messageInit, parserInit]; rfl⟩
      | some message =>
          cases printed : osip.messageToStr message with
          | none => exact ⟨_, by simp [messageInit, parserInit, printed]; rfl⟩
          | some text =>
              exact absurd ⟨messageInit, parserInit, parsed, by simp [printed]⟩ (rejected message)
    · exact ⟨_, by simp [messageInit, parserInit]; rfl⟩
  · exact ⟨_, by simp [messageInit]; rfl⟩

structure Addressed (event : SipMessageEvent) : Prop where
  client : event.clientIpAddrStr.isSome
  dest : event.destIpAddrStr.isSome
  transport : event.transportType.isSome

def unparsedActor (config : Config) (fresh : Fresh) (event : SipMessageEvent) : BadActor where
  eventTimestamp := some fresh.timestamp
  eventUuid := some fresh.uuid
  collectedMethod := some (collectedMethod config)
  createdByNodeId := some config.nodeId
  sipMessage := none
  sourceIp := event.clientIpAddrStr
  destinationIp := event.destIpAddrStr
  calledNumber := none
  method := none
  transportType := event.transportType
  userAgent := none
  seenLast := none
  seenCount := none

theorem sipLogEventActor_eq (osip : Osip) (config : Config) (fresh : Fresh) {event : SipMessageEvent}
    (addressed : Addressed event) :
    sipLogEventActor osip config fresh event =
      if 0 < event.packetLen then do
        match ← sipMessageParser osip event.packet event.packetLen
          (unparsedActor config fresh event) with
        | (.success, parsed) => return some parsed
        | (.failure, _) => return none
      else return some (unparsedActor config fresh event) := by
  obtain ⟨client, hc⟩ := Option.isSome_iff_exists.mp addressed.client
  obtain ⟨dest, hd⟩ := Option.isSome_iff_exists.mp addressed.dest
  obtain ⟨transport, ht⟩ := Option.isSome_iff_exists.mp addressed.transport
  simp only [sipLogEventActor, badActorNew, hc, hd, ht, utilDuplicateString_some, unparsedActor]
  rfl

/-- The packet is empty, libosip2 rejects it, or it is a request. -/
def RequestOrRejected (osip : Osip) (event : SipMessageEvent) : Prop :=
  0 < event.packetLen → ∀ message, Delivers osip event message → message.sipMethod.isSome

theorem sipLogEventActor_ok_iff (osip : Osip) (config : Config) (fresh : Fresh)
    {event : SipMessageEvent} (addressed : Addressed event) :
    (∃ actor, sipLogEventActor osip config fresh event = .ok actor ∧
      ∀ badActor, actor = some badActor → 0 < event.packetLen → FieldsPresent badActor) ↔
      RequestOrRejected osip event := by
  rw [sipLogEventActor_eq osip config fresh addressed]
  by_cases packet : 0 < event.packetLen
  · simp only [packet, ↓reduceIte, RequestOrRejected, forall_const]
    by_cases delivered : ∃ message, Delivers osip event message
    · obtain ⟨message, delivered⟩ := delivered
      obtain ⟨stops, continues⟩ :=
        sipMessageParser_delivered delivered (unparsedActor config fresh event)
      have unique (other : OsipMessage) (also : Delivers osip event other) : other = message :=
        Option.some.inj (also.parsed.symm.trans delivered.parsed)
      constructor
      · rintro ⟨actor, ran, -⟩ other also
        rw [unique other also]
        by_contra absent
        rw [stops (by simpa using absent)] at ran
        simp [bind, Except.bind] at ran
      · intro request
        obtain ⟨parsed, present, ran⟩ := continues (request message delivered)
        refine ⟨some parsed, by rw [ran]; rfl, ?_⟩
        rintro badActor equal
        exact Option.some.inj equal ▸ present
    · have rejected (message : OsipMessage) : ¬ Delivers osip event message :=
        fun also => delivered ⟨message, also⟩
      obtain ⟨left, ran⟩ := sipMessageParser_rejected rejected (unparsedActor config fresh event)
      refine ⟨fun _ message also => absurd also (rejected message), fun _ => ?_⟩
      exact ⟨none, by rw [ran]; rfl, fun _ equal => by cases equal⟩
  · exact ⟨fun _ positive => absurd positive packet,
      fun _ => ⟨_, by rw [if_neg packet]; rfl, fun _ _ positive => absurd positive packet⟩⟩

structure BuiltFor (fresh : Fresh) (event : SipMessageEvent) (badActor : BadActor) : Prop where
  eventUuid : badActor.eventUuid = some fresh.uuid
  eventTimestamp : badActor.eventTimestamp = some fresh.timestamp
  sourceIp : badActor.sourceIp = event.clientIpAddrStr

theorem sipMessageParser_built {osip : Osip} {fresh : Fresh} {event : SipMessageEvent}
    {packet : Option CStr} {size : Nat} {badActor parsed : BadActor} {exit : Exit}
    (built : BuiltFor fresh event badActor)
    (ran : sipMessageParser osip packet size badActor = .ok (exit, parsed)) :
    BuiltFor fresh event parsed := by
  obtain ⟨uuid, timestamp, source⟩ := built
  unfold sipMessageParser at ran
  split_ifs at ran
  · cases ran; exact ⟨uuid, timestamp, source⟩
  · cases ran; exact ⟨uuid, timestamp, source⟩
  split at ran
  · cases ran; exact ⟨uuid, timestamp, source⟩
  split at ran
  · cases ran; exact ⟨uuid, timestamp, source⟩
  obtain ⟨method, -, ran⟩ := bind_eq_ok.mp ran
  obtain ⟨number, -, ran⟩ := bind_eq_ok.mp ran
  obtain ⟨agent, -, ran⟩ := bind_eq_ok.mp ran
  cases ran; exact ⟨uuid, timestamp, source⟩

theorem sipLogEventActor_built {osip : Osip} {config : Config} {fresh : Fresh}
    {event : SipMessageEvent} {badActor : BadActor}
    (ran : sipLogEventActor osip config fresh event = .ok (some badActor)) :
    BuiltFor fresh event badActor := by
  obtain ⟨source, given, ran⟩ := bind_eq_ok.mp ran
  obtain ⟨destination, -, ran⟩ := bind_eq_ok.mp ran
  obtain ⟨transport, -, ran⟩ := bind_eq_ok.mp ran
  obtain ⟨collected, -, ran⟩ := bind_eq_ok.mp ran
  obtain ⟨unparsed, new, ran⟩ := bind_eq_ok.mp ran
  have client : event.clientIpAddrStr = some source := by
    cases address : event.clientIpAddrStr with
    | none => rw [address] at given; cases given
    | some text => rw [address] at given; cases given; rfl
  have built : BuiltFor fresh event unparsed := by
    cases new
    exact ⟨rfl, rfl, client.symm⟩
  split_ifs at ran
  · obtain ⟨⟨exit, parsed⟩, parse, ran⟩ := bind_eq_ok.mp ran
    cases exit with
    | success =>
        cases ran
        exact sipMessageParser_built built parse
    | failure => cases ran
  · cases ran
    exact built

structure SinksReturn (sinks : Sinks σ) : Prop where
  jsonLog : ∀ b s, Returns (sinks.jsonLogBadActor b) s
  jsonLogRs : ∀ b s, Returns (sinks.jsonLogBadActorRs b) s
  dbInsert : ∀ b s, Returns (sinks.dbInsertBadActor b) s
  webhook : ∀ b s, Returns (sinks.jsonHttpPostBadActor b) s
  webhookRs : ∀ b s, Returns (sinks.jsonHttpPostBadActorRs b) s
  dht : ∀ b s, Returns (sinks.peerToPeerDhtSave b) s

theorem badActorLog_returns {sinks : Sinks σ} (returns : SinksReturn sinks) (build : Build)
    (config : Config) (badActor : BadActor) (s : σ) :
    Returns (badActorLog build sinks config badActor) s := by
  have json (t : σ) : Returns (badActorLogJson build sinks config badActor) t := by
    unfold badActorLogJson
    split_ifs
    · exact returns.jsonLogRs badActor t
    · exact .pure _ t
    · exact returns.jsonLog badActor t
    · exact .pure _ t
  have webhook (t : σ) : Returns (badActorLogWebhook build sinks config badActor) t := by
    unfold badActorLogWebhook
    split_ifs
    · exact returns.webhookRs badActor t
    · exact .pure _ t
    · exact returns.webhook badActor t
    · exact .pure _ t
  unfold badActorLog
  refine (json s).bind fun logged t _ => ?_
  split_ifs
  · exact .pure _ t
  refine (returns.dbInsert badActor t).bind fun inserted u _ => ?_
  split_ifs
  · exact .pure _ u
  exact (webhook u).bind fun _ v _ => .pure _ v

theorem sipLogEventSinks_returns {sinks : Sinks σ} (returns : SinksReturn sinks) (build : Build)
    (config : Config) (badActor : BadActor) (s : σ) :
    Returns (sipLogEventSinks build sinks config badActor) s := by
  unfold sipLogEventSinks
  refine (badActorLog_returns returns build config badActor s).bind fun logged t _ => ?_
  split_ifs
  · exact .pure _ t
  · refine (returns.dht badActor t).bind fun saved u _ => ?_
    split_ifs <;> exact .pure _ u
  · exact .pure _ t

/-- `sip_log_event` returns, and what reaches `bad_actor_log` after a parse is complete. -/
structure SipLogEventSafe (build : Build) (osip : Osip) (sinks : Sinks σ) (config : Config)
    (fresh : Fresh) (event : SipMessageEvent) (s : σ) : Prop where
  returns : ∃ exit t, sipLogEvent build osip sinks config fresh event s = .ok exit t
  complete : ∀ badActor, sipLogEventActor osip config fresh event = .ok (some badActor) →
    0 < event.packetLen → FieldsPresent badActor

def quietSinks : Sinks Unit where
  jsonLogBadActor _ := pure .success
  jsonLogBadActorRs _ := pure .success
  dbInsertBadActor _ := pure .success
  jsonHttpPostBadActor _ := pure .success
  jsonHttpPostBadActorRs _ := pure .success
  peerToPeerDhtSave _ := pure .success

def osipReading (sipMethod : Option CStr) : Osip where
  messageInit := true
  parserInit := true
  messageParse _ _ := some ⟨sipMethod, some ⟨some ⟨none⟩⟩, none⟩
  messageToStr _ := some (.lit "SIP/2.0 200 OK")

def statusEvent : SipMessageEvent where
  packet := some (.lit "SIP/2.0 200 OK")
  packetLen := 14
  transportType := some (.lit "UDP")
  clientIpAddrStr := some (.lit "192.0.2.1")
  destIpAddrStr := some (.lit "192.0.2.2")

def cBuild : Build := ⟨false, false⟩

def plainConfig : Config := sentrypeerConfigNew cBuild (.lit "e1d4")

def someFresh : Fresh := ⟨.lit "2026-07-27 10:00:00.000000000", .lit "460f30e4"⟩

theorem quietSinks_return : SinksReturn quietSinks :=
  ⟨fun _ s => .pure _ s, fun _ s => .pure _ s, fun _ s => .pure _ s, fun _ s => .pure _ s,
    fun _ s => .pure _ s, fun _ s => .pure _ s⟩

end SentryPeer.Proof
