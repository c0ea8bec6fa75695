import SentryPeer.Source.Network

/-!
# The stores of a node

`json_log_bad_actor` of `json_logger.c` and `json_log_bad_actor_rs` of `json_logger.rs` on the bytes
of the log file, and the sinks of `bad_actor_log` over everything a node writes to.
-/

namespace SentryPeer
open Lib

/-! ## The JSON log -/

/-- How the calls on the log file end. `arrived` is how many bytes of the line reach the file, `none`
when all of them do. -/
structure LogIo where
  opens : Bool
  writes : Bool
  arrived : Option Nat
  closes : Bool

def LogIo.append (io : LogIo) (file line : List UInt8) : List UInt8 :=
  match io.arrived with
  | none => file ++ line
  | some n => file ++ line.take n

-- The encoder of `json_log_bad_actor`, by the build.
def logEncoder (build : Build) (jansson : Jansson) (serde : Serde) (badActor : BadActor) :
    Except Abort (Option CStr) :=
  if build.rust then badActorToJsonRs serde badActor else .ok (badActorToJson jansson badActor)

-- The result of `fprintf` is not looked at.
def jsonLogBadActor (build : Build) (jansson : Jansson) (serde : Serde) (io : LogIo)
    (badActor : BadActor) (logfile : List UInt8) : Except Abort (Exit × List UInt8) := do
  if !io.opens then return (.failure, logfile)
  match ← logEncoder build jansson serde badActor with
  | none => return (.failure, logfile)
  | some jsonString =>
      let logfile := io.append logfile (jsonString.bytes ++ [0x0A])
      if !io.closes then return (.failure, logfile)
      return (.success, logfile)

-- What `BufWriter` still holds is written when it is dropped, and errors are not reported then. The
-- text of a `serde_json` value is a `String`, so `to_str` takes it.
def jsonLogBadActorRs (serde : Serde) (io : LogIo) (config : Config) (badActor : BadActor)
    (logfile : List UInt8) : Except Abort (Exit × List UInt8) :=
  if !validUtf8 config.jsonLogFile.bytes then .error (.panic .jsonLogBadActorRs)
  else do
    match ← badActorToJsonRs serde badActor with
    | none => .error (.nullPointer .jsonLogBadActorRs)
    | some json =>
        if !io.opens then return (.failure, logfile)
        let logfile := io.append logfile (json.bytes ++ [0x0A])
        if !io.writes then return (.failure, logfile)
        return (.success, logfile)

/-! ## The sinks -/

/-- `posts` are the events that the webhook sender has been called with. -/
structure Stores extends Local where
  jsonLog : List UInt8
  posts : List BadActor

structure StoreAnswers where
  logIo : LogIo
  insert : InsertCall → Bool
  webhook : Except Abort Exit
  dhtStarted : Bool
  dhtValueCreated : Bool

def onJsonLog (call : List UInt8 → Except Abort (Exit × List UInt8)) : EStateM Abort Stores Exit :=
  fun s =>
    match call s.jsonLog with
    | .ok (exit, logfile) => .ok exit { s with jsonLog := logfile }
    | .error abort => .error abort s

def postWebhook (answer : Except Abort Exit) (badActor : BadActor) : EStateM Abort Stores Exit := do
  modify fun s => { s with posts := s.posts ++ [badActor] }
  fromExcept answer

def storeSinks (build : Build) (jansson : Jansson) (serde : Serde) (config : Config)
    (answers : StoreAnswers) : Sinks Stores where
  jsonLogBadActor badActor :=
    onJsonLog (jsonLogBadActor build jansson serde answers.logIo badActor)
  jsonLogBadActorRs badActor := onJsonLog (jsonLogBadActorRs serde answers.logIo config badActor)
  dbInsertBadActor badActor := fun s =>
    let inserted := dbInsertBadActor answers.insert badActor s.honey
    .ok inserted.1 { s with honey := inserted.2 }
  jsonHttpPostBadActor := postWebhook answers.webhook
  jsonHttpPostBadActorRs := postWebhook answers.webhook
  peerToPeerDhtSave := peerToPeerDhtSave jansson
    (fun text => modify fun s => { s with put := s.put ++ [text] })
    answers.dhtStarted answers.dhtValueCreated

def emptyStores : Stores := ⟨⟨[], []⟩, [], []⟩

def faultlessIo : LogIo := ⟨true, true, none, true⟩

structure StoreAnswers.Faultless (answers : StoreAnswers) : Prop where
  logIo : answers.logIo = faultlessIo
  insert : ∀ call, answers.insert call = true
  webhook : answers.webhook = .ok .success

/-- The events of calls of `bad_actor_log` in which no sink fails, and what they have left. -/
inductive BadActorLogRun (build : Build) (jansson : Jansson) (serde : Serde) (config : Config) :
    List BadActor → Stores → Prop
  | nil : BadActorLogRun build jansson serde config [] emptyStores
  | log {events : List BadActor} {s t : Stores}
      (run : BadActorLogRun build jansson serde config events s) (badActor : BadActor)
      (answers : StoreAnswers) (faultless : answers.Faultless)
      (logged : badActorLog build (storeSinks build jansson serde config answers) config badActor s =
        .ok .success t) :
      BadActorLogRun build jansson serde config (events ++ [badActor]) t

def storeExists (succeeds : ExistsCall → Bool) (eventUuid : CStr) : EStateM Abort Stores Bool :=
  fun s => .ok (dbBadActorExists succeeds eventUuid s.honey) s

end SentryPeer
