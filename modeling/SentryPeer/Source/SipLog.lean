import SentryPeer.Source.Types

/-!
# From a received packet to the sinks

`sip_parser.c`, `bad_actor_log` of `bad_actor.c` and `sip_log_event` of `sip_daemon.c`. libosip2 and
the sinks are parameters.
-/

namespace SentryPeer
open Lib

structure OsipUrl where
  username : Option CStr
deriving DecidableEq

structure OsipTo where
  url : Option OsipUrl
deriving DecidableEq

structure OsipHeader where
  hvalue : Option CStr
deriving DecidableEq

/-- The parts of an `osip_message_t` that the source reads. A status line leaves `sipMethod` null. -/
structure OsipMessage where
  sipMethod : Option CStr
  toHeader : Option OsipTo
  userAgent : Option OsipHeader
deriving DecidableEq

/-- libosip2: whether its two initialisers succeed, the parser and the printer. -/
structure Osip where
  messageInit : Bool
  parserInit : Bool
  messageParse : Option CStr → Nat → Option OsipMessage
  messageToStr : OsipMessage → Option CStr

def calledNumberOf (message : OsipMessage) : Except Abort CStr :=
  match message.toHeader with
  | some header =>
      match header.url with
      | some url =>
          match url.username with
          | some username => utilDuplicateString (some username)
          | none => utilDuplicateString (some badActorNotFound)
      | none => utilDuplicateString (some badActorNotFound)
  | none => utilDuplicateString (some badActorNotFound)

def userAgentOf (message : OsipMessage) : Except Abort CStr :=
  match message.userAgent with
  | some header =>
      match header.hvalue with
      | some hvalue =>
          if hvalue.bytes = [] then utilDuplicateString (some badActorNotFound)
          else utilDuplicateString (some hvalue)
      | none => utilDuplicateString (some badActorNotFound)
  | none => utilDuplicateString (some badActorNotFound)

def sipMessageParser (osip : Osip) (incomingSipMessage : Option CStr) (packetSize : Nat)
    (badActor : BadActor) : Except Abort (Exit × BadActor) := do
  if !osip.messageInit then return (.failure, badActor)
  if !osip.parserInit then return (.failure, badActor)
  match osip.messageParse incomingSipMessage packetSize with
  | none => return (.failure, badActor)
  | some message =>
      match osip.messageToStr message with
      | none => return (.failure, { badActor with sipMessage := none })
      | some text =>
          let method ← utilDuplicateString message.sipMethod
          let calledNumber ← calledNumberOf message
          let userAgent ← userAgentOf message
          return (.success, { badActor with
            sipMessage := some text
            method := some method
            calledNumber := some calledNumber
            userAgent := some userAgent })

/-! ## The sinks -/

structure Sinks (σ : Type) where
  jsonLogBadActor : BadActor → EStateM Abort σ Exit
  jsonLogBadActorRs : BadActor → EStateM Abort σ Exit
  dbInsertBadActor : BadActor → EStateM Abort σ Exit
  jsonHttpPostBadActor : BadActor → EStateM Abort σ Exit
  jsonHttpPostBadActorRs : BadActor → EStateM Abort σ Exit
  peerToPeerDhtSave : BadActor → EStateM Abort σ Exit

variable {σ : Type}

/-- The JSON log part of `bad_actor_log`; with Rust only the new mode writes the log. -/
def badActorLogJson (build : Build) (sinks : Sinks σ) (config : Config) (badActor : BadActor) :
    EStateM Abort σ Exit :=
  if build.rust then
    if config.newMode && config.jsonLogMode then sinks.jsonLogBadActorRs badActor
    else return .success
  else if config.jsonLogMode then sinks.jsonLogBadActor badActor
  else return .success

/-- The webhook part of `bad_actor_log`, whose result is only printed. -/
def badActorLogWebhook (build : Build) (sinks : Sinks σ) (config : Config) (badActor : BadActor) :
    EStateM Abort σ Exit :=
  if build.rust then
    if config.newMode && config.webhookMode then sinks.jsonHttpPostBadActorRs badActor
    else return .success
  else if config.webhookMode then sinks.jsonHttpPostBadActor badActor
  else return .success

def badActorLog (build : Build) (sinks : Sinks σ) (config : Config) (badActor : BadActor) :
    EStateM Abort σ Exit := do
  if (← badActorLogJson build sinks config badActor) ≠ .success then return .failure
  if (← sinks.dbInsertBadActor badActor) ≠ .success then return .failure
  let _ ← badActorLogWebhook build sinks config badActor
  return .success

def collectedMethod (config : Config) : CStr :=
  if config.sipResponsiveMode then .lit "responsive" else .lit "passive"

/-- The first part of `sip_log_event`: the event it builds, `none` when parsing the packet fails. -/
def sipLogEventActor (osip : Osip) (config : Config) (fresh : Fresh) (event : SipMessageEvent) :
    Except Abort (Option BadActor) := do
  let sourceIp ← utilDuplicateString event.clientIpAddrStr
  let destinationIp ← utilDuplicateString event.destIpAddrStr
  let transportType ← utilDuplicateString event.transportType
  let collected ← utilDuplicateString (some (collectedMethod config))
  let badActor ← badActorNew fresh none (some sourceIp) (some destinationIp) none none
    (some transportType) none (some collected) (some config.nodeId)
  if 0 < event.packetLen then
    match ← sipMessageParser osip event.packet event.packetLen badActor with
    | (.success, parsed) => return some parsed
    | (.failure, _) => return none
  else return some badActor

/-- The second part of `sip_log_event`; the DHT comes last. -/
def sipLogEventSinks (build : Build) (sinks : Sinks σ) (config : Config) (badActor : BadActor) :
    EStateM Abort σ Exit := do
  if (← badActorLog build sinks config badActor) ≠ .success then return .failure
  if build.openDht && config.p2pDhtMode then
    if (← sinks.peerToPeerDhtSave badActor) ≠ .success then return .failure
  return .success

def sipLogEvent (build : Build) (osip : Osip) (sinks : Sinks σ) (config : Config) (fresh : Fresh)
    (event : SipMessageEvent) : EStateM Abort σ Exit := do
  match ← fromExcept (sipLogEventActor osip config fresh event) with
  | none => return .failure
  | some badActor => sipLogEventSinks build sinks config badActor

end SentryPeer
