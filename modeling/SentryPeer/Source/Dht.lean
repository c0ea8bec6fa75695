import SentryPeer.Source.SipLog
import SentryPeer.Source.JsonLogger
import SentryPeer.Source.Database

/-!
# The distributed hash table

`dht_value_callback` and `peer_to_peer_dht_save` of `peer_to_peer_dht.c`. OpenDHT is the list of the
values that have been put.
-/

namespace SentryPeer
open Lib

variable {σ : Type}

/-- The event a new value stands for; `none` when the callback turns the value down before it looks
into the database. -/
def dhtValueUuid (jansson : Jansson) (config : Config) (receivedValueStr : CStr) : Option CStr := do
  let json ← jansson.loadb receivedValueStr.bytes
  guard json.isObject
  let nodeId ← json.get? "created_by_node_id"
  let nodeIdStr ← jsonStringValue (some nodeId)
  guard (isValidUuid nodeIdStr)
  -- `strncmp` over the length of the own id
  guard (!config.nodeId.bytes.isPrefixOf nodeIdStr.bytes)
  let eventUuid ← json.get? "event_uuid"
  let eventUuidStr ← jsonStringValue (some eventUuid)
  guard (isValidUuid eventUuidStr)
  return eventUuidStr

def dhtValueCallback (build : Build) (jansson : Jansson) (sinks : Sinks σ)
    (dbExists : CStr → EStateM Abort σ Bool) (config : Config) (fresh : Fresh)
    (data : List UInt8) (expired : Bool) : EStateM Abort σ Unit := do
  if expired then return ()
  if data.length = 0 then return ()
  let receivedValueStr : CStr := .ofMemory data
  match dhtValueUuid jansson config receivedValueStr with
  | none => return ()
  | some eventUuid =>
      if ← dbExists eventUuid then return ()
      match ← fromExcept (jsonToBadActor jansson config fresh receivedValueStr) with
      | none => return ()
      | some badActor =>
          let _ ← badActorLog build sinks config badActor
          return ()

/-- `started` is whether `dht_node` is set, `created` whether `dht_value_new_from_string` succeeds. -/
def peerToPeerDhtSave (jansson : Jansson) (put : CStr → EStateM Abort σ Unit)
    (started created : Bool) (badActor : BadActor) : EStateM Abort σ Exit := do
  if !started then fromExcept (.error (.assertion .peerToPeerDhtSave))
  match badActorToJson jansson badActor with
  | none => return .failure
  | some badActorJson =>
      if !created then return .failure
      put badActorJson
      return .success

end SentryPeer
