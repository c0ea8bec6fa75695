import SentryPeer.Source.OnHeap

/-!
# A node on values and on the heap

The packets of the Rust listeners and the values of the DHT, in any order, with the sinks over the
stores of the node.
-/

namespace SentryPeer
open Lib

/-- A packet that a listener has read, or a value that the DHT delivers. -/
inductive Input
  | packet (listener : RustListener) (payload : Payload) (peerAddr addr : SocketAddr) (fresh : Fresh)
      (answers : StoreAnswers)
  | value (data : List UInt8) (expired : Bool) (lookup : ExistsCall → Bool) (fresh : Fresh)
      (answers : StoreAnswers)

structure Node where
  build : Build
  osip : Osip
  jansson : Jansson
  serde : Serde
  config : Config

def Node.sinks (node : Node) (answers : StoreAnswers) : Sinks Stores :=
  storeSinks node.build node.jansson node.serde node.config answers

def Exit.count : Exit → ℕ
  | .success => 1
  | .failure => 0

-- A packet that `CString::new` refuses ends its task with a panic, before anything is made of it.
def handleInput (node : Node) : Input → EStateM Abort Stores ℕ
  | .packet listener payload peerAddr addr fresh answers =>
      match logSipPacketEvent listener (readPacketBuf payload.bytes) payload.bytes.length peerAddr
        addr with
      | .error _ => return 0
      | .ok event => do
          let exit ← sipLogEvent node.build node.osip (node.sinks answers) node.config fresh event
          return exit.count
  | .value data expired lookup fresh answers => do
      dhtValueCallback node.build node.jansson (node.sinks answers) (storeExists lookup) node.config
        fresh data expired
      return 0

/-- The packets that have been logged. -/
def nodeRun (node : Node) : List Input → EStateM Abort Stores ℕ
  | [] => return 0
  | input :: rest => do
      let logged ← handleInput node input
      return logged + (← nodeRun node rest)

namespace OnHeap

-- What the webhook sender allocates of its own is not here.
def postWebhook (answer : Except Abort Exit) (badActorEvent : ℕ) : Program Stores Exit := do
  let badActor ← readBadActor badActorEvent
  onRest (SentryPeer.postWebhook answer badActor)

def storeSinks (build : Build) (jansson : Jansson) (serde : Serde) (config : Config)
    (answers : StoreAnswers) : Sinks Stores where
  jsonLogBadActor := jsonLogBadActor build jansson serde answers.logIo
  jsonLogBadActorRs := jsonLogBadActorRs serde answers.logIo config
  dbInsertBadActor := dbInsertBadActor answers.insert
  jsonHttpPostBadActor := postWebhook answers.webhook
  jsonHttpPostBadActorRs := postWebhook answers.webhook
  peerToPeerDhtSave := peerToPeerDhtSave jansson
    (fun text => modify fun s => { s with put := s.put ++ [text] })
    answers.dhtStarted answers.dhtValueCreated

def sinks (node : Node) (answers : StoreAnswers) : Sinks Stores :=
  storeSinks node.build node.jansson node.serde node.config answers

def handleInput (node : Node) : Input → Program Stores ℕ
  | .packet listener payload peerAddr addr fresh answers =>
      match logSipPacketEvent listener (readPacketBuf payload.bytes) payload.bytes.length peerAddr
        addr with
      | .error _ => return 0
      | .ok _ => do
          let exit ← logSipPacket
            (sipLogEvent node.build node.osip (sinks node answers) node.config fresh) listener
            (readPacketBuf payload.bytes) payload.bytes.length peerAddr addr
          return exit.count
  | .value data expired lookup fresh answers => do
      dhtValueCallback node.build (sinks node answers) node.config node.jansson
        (storeExists lookup) fresh data expired
      return 0

def nodeRun (node : Node) : List Input → Program Stores ℕ
  | [] => return 0
  | input :: rest => do
      let logged ← handleInput node input
      return logged + (← nodeRun node rest)

end OnHeap

end SentryPeer
