import SentryPeer.Lib.Ownership
import SentryPeer.Source.Stores
import SentryPeer.Source.Listeners
import Mathlib.Data.Fintype.Sets

/-!
# The events on the heap

The functions of `bad_actor.c`, `sip_message_event.c`, `sip_parser.c`, `json_logger.c`,
`peer_to_peer_dht.c`, `sip_daemon.c`, `json_logger.rs` and `sip.rs` that allocate, hand over and
free, with the pointers they hold. The other modules have the same functions on values.
-/

namespace SentryPeer
open Lib

inductive BadActorField
  | eventTimestamp
  | eventUuid
  | collectedMethod
  | createdByNodeId
  | sipMessage
  | sourceIp
  | destinationIp
  | calledNumber
  | method
  | transportType
  | userAgent
  | seenLast
  | seenCount
deriving DecidableEq

instance : Fintype BadActorField := .ofList
  [.eventTimestamp, .eventUuid, .collectedMethod, .createdByNodeId, .sipMessage, .sourceIp,
    .destinationIp, .calledNumber, .method, .transportType, .userAgent, .seenLast, .seenCount]
  (by rintro (_ | _) <;> simp)

def BadActor.string (badActor : BadActor) : BadActorField → Option CStr
  | .eventTimestamp => badActor.eventTimestamp
  | .eventUuid => badActor.eventUuid
  | .collectedMethod => badActor.collectedMethod
  | .createdByNodeId => badActor.createdByNodeId
  | .sipMessage => badActor.sipMessage
  | .sourceIp => badActor.sourceIp
  | .destinationIp => badActor.destinationIp
  | .calledNumber => badActor.calledNumber
  | .method => badActor.method
  | .transportType => badActor.transportType
  | .userAgent => badActor.userAgent
  | .seenLast => badActor.seenLast
  | .seenCount => badActor.seenCount

def BadActor.ofStrings (string : BadActorField → Option CStr) : BadActor where
  eventTimestamp := string .eventTimestamp
  eventUuid := string .eventUuid
  collectedMethod := string .collectedMethod
  createdByNodeId := string .createdByNodeId
  sipMessage := string .sipMessage
  sourceIp := string .sourceIp
  destinationIp := string .destinationIp
  calledNumber := string .calledNumber
  method := string .method
  transportType := string .transportType
  userAgent := string .userAgent
  seenLast := string .seenLast
  seenCount := string .seenCount

inductive EventField
  | packet
  | transportType
  | clientIpAddrStr
  | destIpAddrStr
deriving DecidableEq

instance : Fintype EventField := .ofList [.packet, .transportType, .clientIpAddrStr, .destIpAddrStr]
  (by rintro (_ | _) <;> simp)

def SipMessageEvent.string (event : SipMessageEvent) : EventField → Option CStr
  | .packet => event.packet
  | .transportType => event.transportType
  | .clientIpAddrStr => event.clientIpAddrStr
  | .destIpAddrStr => event.destIpAddrStr

namespace OnHeap

/-- What a string has to be given back to: `free`, or `CString::from_raw`. -/
inductive Allocator
  | c
  | rust
deriving DecidableEq

abbrev Strings (φ : Type) := φ → Option ℕ

inductive WriteFunction
  | unset
  | saveJsonResults
  | ignoreData
deriving DecidableEq

/-- What a handle of libcurl has been told. It copies the URL, and keeps the other pointers. -/
structure EasyHandle where
  url : Option CStr
  postFields : Option ℕ
  httpHeader : Option ℕ
  writeFunction : WriteFunction
  writeData : Option ℕ

inductive Block
  | string (allocator : Allocator) (text : CStr)
  | badActor (strings : Strings BadActorField)
  | sipMessageEvent (strings : Strings EventField) (packetLen : ℕ)
  | osipMessage (message : Option OsipMessage)
  | json (value : Json)
  | dhtValue (text : CStr)
  | opContext
  | sentrypeerConfig (oauth2AccessToken : Option ℕ)
  | easy (handle : EasyHandle)
  | slist (headers : List CStr)
  | memoryStruct (memory : ℕ)
  | buffer (bytes : List UInt8)

abbrev Program (σ : Type) := HeapM Abort Block σ

variable {σ : Type}

def abort {α : Type} (abort : Abort) : Program σ α := onRest (fromExcept (.error abort))

/-! ## Strings -/

def Block.text? : Block → Option CStr
  | .string _ text => some text
  | _ => none

-- What `free` takes.
def Block.ofC : Block → Bool
  | .string .c _ | .badActor _ | .sipMessageEvent _ _ | .opContext | .buffer _ => true
  | _ => false

def cFree (p : ℕ) : Program σ Unit := free Block.ofC p

def cStringFromRaw (p : ℕ) : Program σ Unit :=
  free (fun | .string .rust _ => true | _ => false) p

def loadString (p : ℕ) : Program σ CStr := load Block.text? p

def readString : Option ℕ → Program σ (Option CStr)
  | none => return none
  | some p => do return some (← loadString p)

/-- A `char const *`: null, a block of the heap, or a string that outlives the call. -/
inductive CharPtr
  | null
  | block (p : ℕ)
  | borrowed (text : CStr)

def CharPtr.ofNullable : Option ℕ → CharPtr
  | none => .null
  | some p => .block p

def CharPtr.ofPart : Option CStr → CharPtr
  | none => .null
  | some text => .borrowed text

def utilDuplicateString : CharPtr → Program σ ℕ
  | .null => abort (.assertion .utilDuplicateString)
  | .block p => do malloc (.string .c (← loadString p))
  | .borrowed text => malloc (.string .c text)

/-! ## Records of strings -/

section Records
variable {φ : Type} [DecidableEq φ]

/-- The strings of a record, and the record with other ones. -/
abbrev View (φ : Type) := Block → Option (Strings φ × (Strings φ → Block))

variable (view : View φ) (self : ℕ)

def setField (field : φ) (p : Option ℕ) : Program σ Unit := do
  let (strings, put) ← load view self
  store self (put (Function.update strings field p))

/-- `if (self->field != 0) { free(self->field); self->field = 0; }` -/
def freeField (field : φ) : Program σ Unit := do
  let (strings, put) ← load view self
  match strings field with
  | none => return ()
  | some p => do
      cFree p
      store self (put (Function.update strings field none))

def destroy (order : List φ) : Program σ Unit := do
  forM order (freeField view self)
  cFree self

def readStrings (strings : Strings φ) : List φ → Program σ (φ → Option CStr)
  | [] => return fun _ => none
  | field :: rest => do
      let text ← readString (strings field)
      return Function.update (← readStrings strings rest) field text

end Records

def badActorView : View BadActorField
  | .badActor strings => some (strings, .badActor)
  | _ => none

def eventView : View EventField
  | .sipMessageEvent strings packetLen => some (strings, fun strings => .sipMessageEvent strings packetLen)
  | _ => none

def Block.packetLen? : Block → Option ℕ
  | .sipMessageEvent _ packetLen => some packetLen
  | _ => none

/-! ## `bad_actor.c` and `sip_message_event.c` -/

def badActorStrings (timeStr uuidString : ℕ) (sipMessage sourceIp destinationIp calledNumber method
    transportType userAgent collectedMethod : Option ℕ) (nodeId : ℕ) : Strings BadActorField
  | .eventTimestamp => some timeStr
  | .eventUuid => some uuidString
  | .collectedMethod => collectedMethod
  | .createdByNodeId => some nodeId
  | .sipMessage => sipMessage
  | .sourceIp => sourceIp
  | .destinationIp => destinationIp
  | .calledNumber => calledNumber
  | .method => method
  | .transportType => transportType
  | .userAgent => userAgent
  | .seenLast => none
  | .seenCount => none

def badActorNew (fresh : Fresh) (sipMessage sourceIp destinationIp calledNumber method
    transportType userAgent collectedMethod : Option ℕ) (createdByNodeId : CharPtr) :
    Program σ ℕ := do
  let self ← malloc (.badActor fun _ => none)
  let timeStr ← malloc (.string .c fresh.timestamp)
  let uuidString ← malloc (.string .c fresh.uuid)
  let nodeId ← utilDuplicateString createdByNodeId
  store self (.badActor (badActorStrings timeStr uuidString sipMessage sourceIp destinationIp
    calledNumber method transportType userAgent collectedMethod nodeId))
  return self

def badActorDestroy (self : ℕ) : Program σ Unit :=
  destroy badActorView self [.eventTimestamp, .eventUuid, .sourceIp, .destinationIp, .transportType,
    .collectedMethod, .calledNumber, .method, .userAgent, .sipMessage, .seenLast, .seenCount,
    .createdByNodeId]

def readBadActor (self : ℕ) : Program σ BadActor := do
  let (strings, _) ← load badActorView self
  return .ofStrings (← readStrings strings [.eventTimestamp, .eventUuid, .collectedMethod,
    .createdByNodeId, .sipMessage, .sourceIp, .destinationIp, .calledNumber, .method,
    .transportType, .userAgent, .seenLast, .seenCount])

def eventStrings (packet transportType clientIpAddrStr destIpAddrStr : Option ℕ) :
    Strings EventField
  | .packet => packet
  | .transportType => transportType
  | .clientIpAddrStr => clientIpAddrStr
  | .destIpAddrStr => destIpAddrStr

def sipMessageEventNew (packet : Option ℕ) (packetLen : ℕ)
    (transportType clientIpAddrStr destIpAddrStr : Option ℕ) : Program σ ℕ :=
  malloc (.sipMessageEvent (eventStrings packet transportType clientIpAddrStr destIpAddrStr)
    packetLen)

def sipMessageEventDestroy (self : ℕ) : Program σ Unit :=
  destroy eventView self [.packet, .transportType, .clientIpAddrStr, .destIpAddrStr]

/-! ## `sip_parser.c` -/

def osipMessageFree (p : ℕ) : Program σ Unit :=
  free (fun | .osipMessage _ => true | _ => false) p

def calledNumberOf (message : OsipMessage) : CharPtr :=
  match message.toHeader with
  | some header =>
      match header.url with
      | some url =>
          match url.username with
          | some username => .borrowed username
          | none => .borrowed badActorNotFound
      | none => .borrowed badActorNotFound
  | none => .borrowed badActorNotFound

def userAgentOf (message : OsipMessage) : CharPtr :=
  match message.userAgent with
  | some header =>
      match header.hvalue with
      | some hvalue => if hvalue.bytes = [] then .borrowed badActorNotFound else .borrowed hvalue
      | none => .borrowed badActorNotFound
  | none => .borrowed badActorNotFound

-- The parts of the message are read while it is still allocated.
def osipMessageOf (p : ℕ) : Program σ OsipMessage :=
  load (fun | .osipMessage message => message | _ => none) p

-- What the field held before is forgotten, not freed.
def reassign (badActorEvent : ℕ) (field : BadActorField) (string : CharPtr) : Program σ Unit := do
  setField badActorView badActorEvent field none
  setField badActorView badActorEvent field (some (← utilDuplicateString string))

def sipMessageParser (osip : Osip) (incomingSipMessage : Option ℕ) (packetSize : ℕ)
    (badActorEvent : ℕ) : Program σ Exit := do
  if !osip.messageInit then return .failure
  let parsedSipMessage ← malloc (.osipMessage none)
  if !osip.parserInit then
    osipMessageFree parsedSipMessage
    return .failure
  match osip.messageParse (← readString incomingSipMessage) packetSize with
  | none =>
      osipMessageFree parsedSipMessage
      return .failure
  | some message =>
      store parsedSipMessage (.osipMessage (some message))
      setField badActorView badActorEvent .sipMessage none
      match osip.messageToStr message with
      | none =>
          osipMessageFree parsedSipMessage
          return .failure
      | some text =>
          setField badActorView badActorEvent .sipMessage (some (← malloc (.string .c text)))
          let message ← osipMessageOf parsedSipMessage
          reassign badActorEvent .method (.ofPart message.sipMethod)
          reassign badActorEvent .calledNumber (calledNumberOf message)
          reassign badActorEvent .userAgent (userAgentOf message)
          osipMessageFree parsedSipMessage
          return .success

/-! ## The codecs of `json_logger.c` and `json_logger.rs` -/

def jsonDecref (p : ℕ) : Program σ Unit := free (fun | .json _ => true | _ => false) p

def jsonOf (p : ℕ) : Program σ Json := load (fun | .json value => some value | _ => none) p

def badActorToJson (jansson : Jansson) (badActorToConvert : ℕ) : Program σ (Option ℕ) := do
  match badActorJson (← readBadActor badActorToConvert) with
  | none => return none
  | some value =>
      let jsonBadActor ← malloc (.json value)
      let jsonString ← malloc (.string .c (jansson.dumps value))
      jsonDecref jsonBadActor
      return some jsonString

-- `CString::into_raw`
def badActorToJsonRs (serde : Serde) (badActorEvent : ℕ) : Program σ (Option ℕ) := do
  let badActor ← readBadActor badActorEvent
  match ← onRest (fromExcept (SentryPeer.badActorToJsonRs serde badActor)) with
  | none => return none
  | some text => return some (← malloc (.string .rust text))

def assignField (json self : ℕ) (assignment : BadActorField × String) : Program σ Unit := do
  let value ← jsonOf json
  let text ← utilDuplicateString (.ofPart (jsonStringValue (value.get? assignment.2)))
  setField badActorView self assignment.1 (some text)

def decodedFields : List (BadActorField × String) := [
  (.eventTimestamp, "event_timestamp"),
  (.eventUuid, "event_uuid"),
  (.createdByNodeId, "created_by_node_id"),
  (.collectedMethod, "collected_method"),
  (.transportType, "transport_type"),
  (.sourceIp, "source_ip"),
  (.destinationIp, "destination_ip"),
  (.calledNumber, "called_number"),
  (.method, "sip_method"),
  (.userAgent, "sip_user_agent"),
  (.sipMessage, "sip_message")]

def jsonToBadActor (jansson : Jansson) (config : Config) (fresh : Fresh) (jsonToConvert : ℕ) :
    Program σ (Option ℕ) := do
  match jansson.loadb (← loadString jsonToConvert).bytes with
  | none => return none
  | some value =>
      let jsonBadActor ← malloc (.json value)
      if !jsonValidates value badActorKeys then
        jsonDecref jsonBadActor
        return none
      let badActorEvent ← badActorNew fresh none none none none none none none none
        (.borrowed config.nodeId)
      freeField badActorView badActorEvent .eventTimestamp
      freeField badActorView badActorEvent .eventUuid
      freeField badActorView badActorEvent .createdByNodeId
      forM decodedFields (assignField jsonBadActor badActorEvent)
      jsonDecref jsonBadActor
      return some badActorEvent

/-! ## The sinks -/

structure Sinks (σ : Type) where
  jsonLogBadActor : ℕ → Program σ Exit
  jsonLogBadActorRs : ℕ → Program σ Exit
  dbInsertBadActor : ℕ → Program σ Exit
  jsonHttpPostBadActor : ℕ → Program σ Exit
  jsonHttpPostBadActorRs : ℕ → Program σ Exit
  peerToPeerDhtSave : ℕ → Program σ Exit

def writeLine (io : LogIo) (text : CStr) : Program Stores Unit := onRest <| modify fun s =>
  { s with jsonLog := io.append s.jsonLog (text.bytes ++ [0x0A]) }

def jsonLogBadActor (build : Build) (jansson : Jansson) (serde : Serde) (io : LogIo)
    (badActorToLog : ℕ) : Program Stores Exit := do
  if !io.opens then return .failure
  match ← if build.rust then badActorToJsonRs serde badActorToLog
      else badActorToJson jansson badActorToLog with
  | none => return .failure
  | some jsonString =>
      writeLine io (← loadString jsonString)
      cFree jsonString
      if !io.closes then return .failure
      return .success

-- The text is not given back.
def jsonLogBadActorRs (serde : Serde) (io : LogIo) (config : Config) (badActorEvent : ℕ) :
    Program Stores Exit := do
  if !validUtf8 config.jsonLogFile.bytes then abort (.panic .jsonLogBadActorRs)
  match ← badActorToJsonRs serde badActorEvent with
  | none => abort (.nullPointer .jsonLogBadActorRs)
  | some json =>
      let jsonStr ← loadString json
      if !io.opens then return .failure
      writeLine io jsonStr
      if !io.writes then return .failure
      return .success

def dbInsertBadActor (answer : InsertCall → Bool) (badActorEvent : ℕ) : Program Stores Exit := do
  let badActor ← readBadActor badActorEvent
  onRest fun s =>
    let inserted := SentryPeer.dbInsertBadActor answer badActor s.honey
    .ok inserted.1 { s with honey := inserted.2 }

-- The context is the runner's once the value is put, and freed by the done callback.
def dhtDoneCallback (userData : ℕ) : Program σ Unit := cFree userData

def dhtValueUnref (p : ℕ) : Program σ Unit := free (fun | .dhtValue _ => true | _ => false) p

def peerToPeerDhtSave (jansson : Jansson) (put : CStr → EStateM Abort σ Unit)
    (started created : Bool) (badActorEvent : ℕ) : Program σ Exit := do
  let ctx ← malloc .opContext
  if !started then abort (.assertion .peerToPeerDhtSave)
  match ← badActorToJson jansson badActorEvent with
  | none =>
      cFree ctx
      return .failure
  | some badActorJson =>
      if !created then
        cFree badActorJson
        cFree ctx
        return .failure
      let text ← loadString badActorJson
      let val ← malloc (.dhtValue text)
      onRest (put text)
      dhtDoneCallback ctx
      dhtValueUnref val
      cFree badActorJson
      return .success

section Logging
variable (build : Build) (osip : Osip) (sinks : Sinks σ) (config : Config)

def badActorLogJson (badActorEvent : ℕ) : Program σ Exit :=
  if build.rust then
    if config.newMode && config.jsonLogMode then sinks.jsonLogBadActorRs badActorEvent
    else return .success
  else if config.jsonLogMode then sinks.jsonLogBadActor badActorEvent
  else return .success

def badActorLogWebhook (badActorEvent : ℕ) : Program σ Exit :=
  if build.rust then
    if config.newMode && config.webhookMode then sinks.jsonHttpPostBadActorRs badActorEvent
    else return .success
  else if config.webhookMode then sinks.jsonHttpPostBadActor badActorEvent
  else return .success

def badActorLog (badActorEvent : ℕ) : Program σ Exit := do
  if (← badActorLogJson build sinks config badActorEvent) ≠ .success then return .failure
  if (← sinks.dbInsertBadActor badActorEvent) ≠ .success then return .failure
  let _ ← badActorLogWebhook build sinks config badActorEvent
  return .success

/-! ## `sip_log_event`, `dht_value_callback` and `log_sip_packet` -/

-- The part of `sip_log_event` that has its event parsed.
def logParsed (badActorEvent : ℕ) : Program σ Exit := do
  if (← badActorLog build sinks config badActorEvent) ≠ .success then
    badActorDestroy badActorEvent
    return .failure
  if build.openDht && config.p2pDhtMode then
    if (← sinks.peerToPeerDhtSave badActorEvent) ≠ .success then
      badActorDestroy badActorEvent
      return .failure
  badActorDestroy badActorEvent
  return .success

def sipLogEvent (fresh : Fresh) (sipEvent : ℕ) : Program σ Exit := do
  let (strings, _) ← load eventView sipEvent
  let packetLen ← load Block.packetLen? sipEvent
  let sourceIp ← utilDuplicateString (.ofNullable (strings .clientIpAddrStr))
  let destinationIp ← utilDuplicateString (.ofNullable (strings .destIpAddrStr))
  let transportType ← utilDuplicateString (.ofNullable (strings .transportType))
  let collected ← utilDuplicateString (.borrowed (collectedMethod config))
  let badActorEvent ← badActorNew fresh none (some sourceIp) (some destinationIp) none none
    (some transportType) none (some collected) (.borrowed config.nodeId)
  if 0 < packetLen then
    if (← sipMessageParser osip (strings .packet) packetLen badActorEvent) ≠ .success then
      badActorDestroy badActorEvent
      return .failure
    logParsed build sinks config badActorEvent
  else logParsed build sinks config badActorEvent

def dhtValueCallback (jansson : Jansson) (dbExists : CStr → EStateM Abort σ Bool) (fresh : Fresh)
    (data : List UInt8) (expired : Bool) : Program σ Unit := do
  if expired then return ()
  if data.length = 0 then return ()
  let receivedValueStr ← malloc (.string .c (.ofMemory data))
  let received ← loadString receivedValueStr
  match jansson.loadb received.bytes with
  | none => cFree receivedValueStr
  | some value =>
      let json ← malloc (.json value)
      match dhtValueUuid jansson config received with
      | none =>
          jsonDecref json
          cFree receivedValueStr
      | some eventUuid =>
          if ← onRest (dbExists eventUuid) then
            jsonDecref json
            cFree receivedValueStr
            return ()
          match ← jsonToBadActor jansson config fresh receivedValueStr with
          | none =>
              jsonDecref json
              cFree receivedValueStr
          | some badActorEvent =>
              let _ ← badActorLog build sinks config badActorEvent
              jsonDecref json
              cFree receivedValueStr
              badActorDestroy badActorEvent

end Logging

def cleanUpSipMessage (packet transportType clientIpAddr destIpAddr : ℕ) : Program σ Unit := do
  cStringFromRaw packet
  cStringFromRaw transportType
  cStringFromRaw clientIpAddr
  cStringFromRaw destIpAddr

-- Both ends of `log_sip_packet`: the strings are Rust's, so the event is destroyed without them.
def endSipMessage (packet transportType clientIpAddr destIpAddr sipMessage : ℕ) :
    Program σ Unit := do
  cleanUpSipMessage packet transportType clientIpAddr destIpAddr
  setField eventView sipMessage .packet none
  setField eventView sipMessage .transportType none
  setField eventView sipMessage .clientIpAddrStr none
  setField eventView sipMessage .destIpAddrStr none
  sipMessageEventDestroy sipMessage

def logSipPacket (sipLogEvent : ℕ → Program σ Exit) (listener : RustListener) (buf : List UInt8)
    (bytesRead : ℕ) (peerAddr listenAddr : SocketAddr) : Program σ Exit := do
  let packet := fromUtf8Lossy (buf.take bytesRead)
  if buf.length < bytesRead ∨ 0 ∈ packet then abort (.panic .logSipPacket)
  let packetPtr ← malloc (.string .rust (.ofMemory packet))
  let transportTypePtr ← malloc (.string .rust listener.transportType)
  let clientIpAddrPtr ← malloc (.string .rust peerAddr.text)
  let destIpAddrPtr ← malloc (.string .rust listenAddr.text)
  let sipMessage ← sipMessageEventNew (some packetPtr) bytesRead (some transportTypePtr)
    (some clientIpAddrPtr) (some destIpAddrPtr)
  if (← sipLogEvent sipMessage) ≠ .success then
    endSipMessage packetPtr transportTypePtr clientIpAddrPtr destIpAddrPtr sipMessage
    return .failure
  endSipMessage packetPtr transportTypePtr clientIpAddrPtr destIpAddrPtr sipMessage
  return .success

end OnHeap

end SentryPeer
