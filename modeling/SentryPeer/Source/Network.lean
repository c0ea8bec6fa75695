import SentryPeer.Source.Dht
import Mathlib.Logic.Function.Basic

/-!
# Nodes that share a DHT

Every node has its config and its database; the values ever put on the DHT stay there and can be
delivered to any node, in any order and any number of times. A step is one call of `sip_log_event` or
of `dht_value_callback`, or a restart of a node.
-/

namespace SentryPeer
open Lib

structure Local where
  honey : List HoneyRow
  put : List CStr

structure SinkAnswers where
  jsonLog : Except Abort Exit
  insert : InsertCall → Bool
  webhook : Except Abort Exit
  dhtStarted : Bool
  dhtValueCreated : Bool

def nodeSinks (jansson : Jansson) (answers : SinkAnswers) : Sinks Local where
  jsonLogBadActor _ := fromExcept answers.jsonLog
  jsonLogBadActorRs _ := fromExcept answers.jsonLog
  dbInsertBadActor badActor := fun s =>
    let inserted := dbInsertBadActor answers.insert badActor s.honey
    .ok inserted.1 { s with honey := inserted.2 }
  jsonHttpPostBadActor _ := fromExcept answers.webhook
  jsonHttpPostBadActorRs _ := fromExcept answers.webhook
  peerToPeerDhtSave := peerToPeerDhtSave jansson
    (fun text => modify fun s => { s with put := s.put ++ [text] })
    answers.dhtStarted answers.dhtValueCreated

-- Every SELECT succeeds.
def nodeExists (eventUuid : CStr) : EStateM Abort Local Bool := fun s =>
  .ok (dbBadActorExists (fun _ => true) eventUuid s.honey) s

structure Network (ι : Type) where
  config : ι → Config
  honey : ι → List HoneyRow
  dht : List (ι × CStr)
  -- the UUIDs that `uuid_generate` has returned
  generated : List CStr

variable {ι : Type} [DecidableEq ι]

def Network.after {α : Type} (net : Network ι) (i : ι) (call : EStateM Abort Local α) : Network ι :=
  let final := finalState (call ⟨net.honey i, []⟩)
  { net with
    honey := Function.update net.honey i final.honey
    dht := net.dht ++ final.put.map fun text => (i, text) }

inductive NetworkStep (build : ι → Build) (jansson : Jansson) (osip : Osip) :
    Network ι → Network ι → Prop
  | log {net : Network ι} (i : ι) (fresh : Fresh) (event : SipMessageEvent) (answers : SinkAnswers)
      (unused : fresh.uuid ∉ net.generated) :
      NetworkStep build jansson osip net
        { net.after i (sipLogEvent (build i) osip (nodeSinks jansson answers) (net.config i) fresh
            event) with generated := fresh.uuid :: net.generated }
  | deliver {net : Network ι} (i : ι) (value : ι × CStr) (member : value ∈ net.dht)
      (expired : Bool) (fresh : Fresh) (answers : SinkAnswers)
      (unused : fresh.uuid ∉ net.generated) :
      NetworkStep build jansson osip net
        { net.after i (dhtValueCallback (build i) jansson (nodeSinks jansson answers) nodeExists
            (net.config i) fresh value.2.bytes expired) with
          generated := fresh.uuid :: net.generated }
  | restart {net : Network ι} (i : ι) (config : Config) (unused : config.nodeId ∉ net.generated) :
      NetworkStep build jansson osip net
        { net with
          config := Function.update net.config i config
          generated := config.nodeId :: net.generated }

def Network.Start (net : Network ι) : Prop := (∀ i, net.honey i = []) ∧ net.dht = []

end SentryPeer
