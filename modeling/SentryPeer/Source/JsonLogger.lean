import SentryPeer.Source.Types
import SentryPeer.Lib.JsonText

/-!
# The JSON codecs

`bad_actor_to_json` and `json_to_bad_actor` of `json_logger.c`, `bad_actor_to_json_rs` and
`json_to_bad_actor_rs` of `json_logger.rs`. jansson and serde_json are parameters as far as their text is concerned.
-/

namespace SentryPeer
open Lib

def packageName : CStr := .lit "sentrypeer"
def packageVersion : CStr := .lit "4.0.6"

structure Jansson where
  dumps : Json → CStr
  loadb : List UInt8 → Option Json

structure Serde where
  toText : Json → CStr
  fromText : List UInt8 → Option Json

-- `json_pack` with a format of `s:s` pairs: null when one of the strings is not UTF-8.
def jsonPack (members : List (String × CStr)) : Option Json :=
  if members.all fun member => validUtf8 member.2.bytes then
    some (flatObject (members.map fun member => (member.1, member.2.bytes)))
  else none

def orEmpty (string : Option CStr) : CStr := string.getD (.lit "")

def badActorFields (badActor : BadActor) : List (String × Option CStr) := [
  ("event_timestamp", badActor.eventTimestamp),
  ("event_uuid", badActor.eventUuid),
  ("created_by_node_id", badActor.createdByNodeId),
  ("collected_method", badActor.collectedMethod),
  ("transport_type", badActor.transportType),
  ("source_ip", badActor.sourceIp),
  ("destination_ip", badActor.destinationIp),
  ("called_number", badActor.calledNumber),
  ("sip_method", badActor.method),
  ("sip_user_agent", badActor.userAgent),
  ("sip_message", badActor.sipMessage)]

def badActorJson (badActor : BadActor) : Option Json :=
  jsonPack (("app_name", packageName) :: ("app_version", packageVersion) ::
    (badActorFields badActor).map fun field => (field.1, orEmpty field.2))

def badActorToJson (jansson : Jansson) (badActor : BadActor) : Option CStr :=
  (badActorJson badActor).map jansson.dumps

-- `CStr::from_ptr(..).to_str().unwrap()` behind the null check.
def strOrEmpty (site : Function) : Option CStr → Except Abort (List UInt8)
  | none => .ok []
  | some string => if validUtf8 string.bytes then .ok string.bytes else .error (.panic site)

def strFields (site : Function) (fields : List (String × Option CStr)) :
    Except Abort (List (String × List UInt8)) :=
  fields.mapM fun field => do return (field.1, ← strOrEmpty site field.2)

-- A `serde_json` map keeps its keys in order.
def serdeMap (members : List (String × List UInt8)) : Json :=
  flatObject (members.insertionSort fun a b => a.1 ≤ b.1)

def badActorJsonRs (badActor : BadActor) : Except Abort Json := do
  let fields ← strFields .badActorToJsonRs (badActorFields badActor)
  return serdeMap
    (("app_name", packageName.bytes) :: ("app_version", packageVersion.bytes) :: fields)

-- The text of a `serde_json` value has no zero byte, so `CString::new` takes it.
def badActorToJsonRs (serde : Serde) (badActor : BadActor) : Except Abort (Option CStr) := do
  return some (serde.toText (← badActorJsonRs badActor))

/-! ## Decoding -/

def badActorKeys : List String :=
  ["app_name", "app_version", "event_timestamp", "event_uuid", "created_by_node_id",
    "collected_method", "transport_type", "source_ip", "destination_ip", "called_number",
    "sip_method", "sip_user_agent", "sip_message"]

-- `json_unpack_ex` with `JSON_VALIDATE_ONLY`: every key is there with a string.
def jsonValidates (json : Json) (keys : List String) : Bool :=
  keys.all fun key => (json.get? key).any Json.isString

def jsonStringValue : Option Json → Option CStr
  | some (.string text) => some (.ofMemory text)
  | _ => none

def jsonField (json : Json) (key : String) : Except Abort CStr :=
  utilDuplicateString (jsonStringValue (json.get? key))

def badActorOfJson (config : Config) (fresh : Fresh) (json : Json) :
    Except Abort (Option BadActor) := do
  if !jsonValidates json badActorKeys then return none
  let badActor ← badActorNew fresh none none none none none none none none (some config.nodeId)
  let eventTimestamp ← jsonField json "event_timestamp"
  let eventUuid ← jsonField json "event_uuid"
  let createdByNodeId ← jsonField json "created_by_node_id"
  let collectedMethod ← jsonField json "collected_method"
  let transportType ← jsonField json "transport_type"
  let sourceIp ← jsonField json "source_ip"
  let destinationIp ← jsonField json "destination_ip"
  let calledNumber ← jsonField json "called_number"
  let method ← jsonField json "sip_method"
  let userAgent ← jsonField json "sip_user_agent"
  let sipMessage ← jsonField json "sip_message"
  return some { badActor with
    eventTimestamp := some eventTimestamp
    eventUuid := some eventUuid
    createdByNodeId := some createdByNodeId
    collectedMethod := some collectedMethod
    transportType := some transportType
    sourceIp := some sourceIp
    destinationIp := some destinationIp
    calledNumber := some calledNumber
    method := some method
    userAgent := some userAgent
    sipMessage := some sipMessage }

def jsonToBadActor (jansson : Jansson) (config : Config) (fresh : Fresh) (jsonToConvert : CStr) :
    Except Abort (Option BadActor) :=
  match jansson.loadb jsonToConvert.bytes with
  | none => .ok none
  | some json => badActorOfJson config fresh json

-- `CString::new(v[key].as_str().unwrap()).unwrap()`; indexing anything but an object gives null.
def cStringOf (site : Function) (v : Json) (key : String) : Except Abort CStr :=
  match v.get? key with
  | some (.string text) => if 0 ∈ text then .error (.panic site) else .ok (.ofMemory text)
  | _ => .error (.panic site)

def badActorOfValueRs (fresh : Fresh) (v : Json) : Except Abort BadActor := do
  let sipMessage ← cStringOf .jsonToBadActorRs v "sip_message"
  let sourceIp ← cStringOf .jsonToBadActorRs v "source_ip"
  let destinationIp ← cStringOf .jsonToBadActorRs v "destination_ip"
  let calledNumber ← cStringOf .jsonToBadActorRs v "called_number"
  let method ← cStringOf .jsonToBadActorRs v "sip_method"
  let transportType ← cStringOf .jsonToBadActorRs v "transport_type"
  let userAgent ← cStringOf .jsonToBadActorRs v "sip_user_agent"
  let collectedMethod ← cStringOf .jsonToBadActorRs v "collected_method"
  let createdByNodeId ← cStringOf .jsonToBadActorRs v "created_by_node_id"
  badActorNew fresh (some sipMessage) (some sourceIp) (some destinationIp) (some calledNumber)
    (some method) (some transportType) (some userAgent) (some collectedMethod)
    (some createdByNodeId)

-- There is no path that returns null.
def jsonToBadActorRs (serde : Serde) (fresh : Fresh) (jsonToConvert : CStr) :
    Except Abort (Option BadActor) :=
  if !validUtf8 jsonToConvert.bytes then .error (.panic .jsonToBadActorRs)
  else
    match serde.fromText jsonToConvert.bytes with
    | none => .error (.panic .jsonToBadActorRs)
    | some v => (badActorOfValueRs fresh v).map some

end SentryPeer
