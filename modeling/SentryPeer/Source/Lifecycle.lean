import SentryPeer.Source.Types

/-!
# Starting and stopping

`main` of `sentrypeer.c` beside the handlers that the SIP listeners start, one for each packet. The
daemon of `sip_daemon.c` is a thread that handles one packet after the other and is joined when it is
stopped; the runtime of `sip.rs` has many handlers at once and is sent a message when it is stopped.
-/

namespace SentryPeer

inductive MainStep
  | startHttp
  | startSip
  | startDht
  | listenDht
  | wait
  | stopHttp
  | stopSip
  | joinSip
  | stopDht
  | destroyConfig
  | return
  | exited
deriving DecidableEq

inductive Listener
  | unstarted
  | listening
  | ended
deriving DecidableEq

inductive DhtNode
  | unset
  | running
  | deleted
deriving DecidableEq

/-- How far a handler is. `returned` is with what `sip_log_event` returned. -/
inductive HandlerPhase
  | received
  | calling
  | parsed
  | stored
  | saved
  | returned (exit : Exit)
deriving DecidableEq

structure Lifecycle where
  main : MainStep
  httpDaemon : Bool
  sipDaemonThread : Bool
  sipChannel : Bool
  dhtNode : DhtNode
  configLive : Bool
  listener : Listener
  handlers : List HandlerPhase
deriving DecidableEq

inductive LifecycleFault
  -- the `assert` of `peer_to_peer_dht_save`
  | dhtNodeUnset
  | runnerDeleted
  | configDestroyed
  | httpNotStarted
  -- the `assert` of `shutdown_sip`, or `pthread_cancel` of no thread
  | sipNotStarted
  | dhtNotStarted
deriving DecidableEq

/-- A step of `main`, a packet that a listener takes up, a step of a handler, or the end of the
listeners. `succeeds` is what the calls of the step return. -/
inductive LifecycleEvent
  | main (succeeds : Bool)
  | packet
  | handler (i : Nat) (succeeds : Bool)
  | listenerEnds
deriving DecidableEq

def initialLifecycle : Lifecycle where
  main := .startHttp
  httpDaemon := false
  sipDaemonThread := false
  sipChannel := false
  dhtNode := .unset
  configLive := true
  listener := .unstarted
  handlers := []

section Steps
variable (build : Build) (config : Config)

def dhtMode : Bool := build.openDht && config.p2pDhtMode

def startHttp (succeeds : Bool) (s : Lifecycle) : Lifecycle :=
  if !config.apiMode then { s with main := .startSip }
  else if succeeds then { s with main := .startSip, httpDaemon := true }
  else { s with main := .exited }

def startSip (succeeds : Bool) (s : Lifecycle) : Lifecycle :=
  if !config.sipMode then { s with main := .startDht }
  else if config.newMode then
    if !build.rust then { s with main := .startDht }
    else if succeeds then
      { s with main := .startDht, listener := .listening, sipChannel := true }
    else { s with main := .exited }
  else if succeeds then
    { s with main := .startDht, listener := .listening, sipDaemonThread := true }
  else { s with main := .exited }

-- `dht_node` is set before the node is bootstrapped and listened to.
def startDht (s : Lifecycle) : Lifecycle :=
  if dhtMode build config then { s with main := .listenDht, dhtNode := .running }
  else { s with main := .wait }

def stopHttp (s : Lifecycle) : Except LifecycleFault Lifecycle :=
  if !config.apiMode then .ok { s with main := .stopSip }
  else if !s.httpDaemon then .error .httpNotStarted
  else .ok { s with main := .stopSip }

-- `pthread_cancel` fails where the thread is no more, and then there is no join.
def sipDaemonStop (succeeds : Bool) (s : Lifecycle) : Except LifecycleFault Lifecycle :=
  if config.newMode then
    if !build.rust then .ok { s with main := .stopDht }
    else if !s.sipChannel then .error .sipNotStarted
    else .ok { s with main := .stopDht }
  else if !s.sipDaemonThread then .error .sipNotStarted
  else if s.listener = .ended && !succeeds then .ok { s with main := .stopDht }
  else .ok { s with main := .joinSip }

def stopDht (s : Lifecycle) : Except LifecycleFault Lifecycle :=
  if !dhtMode build config then .ok { s with main := .destroyConfig }
  else if s.dhtNode ≠ .running then .error .dhtNotStarted
  else .ok { s with main := .destroyConfig, dhtNode := .deleted }

def mainStep (succeeds : Bool) (s : Lifecycle) : Except LifecycleFault Lifecycle :=
  match s.main with
  | .startHttp => .ok (startHttp config succeeds s)
  | .startSip => .ok (startSip build config succeeds s)
  | .startDht => .ok (startDht build config s)
  | .listenDht => .ok { s with main := .wait }
  | .wait => .ok { s with main := .stopHttp }
  | .stopHttp => stopHttp config s
  | .stopSip => sipDaemonStop build config succeeds s
  | .joinSip => .ok (if s.listener = .ended then { s with main := .stopDht } else s)
  | .stopDht => stopDht build config s
  | .destroyConfig => .ok { s with main := .return, configLive := false }
  | .return => .ok { s with main := .exited }
  | .exited => .ok s

def takePacket (s : Lifecycle) : Lifecycle :=
  if s.listener = .listening && (config.newMode || s.handlers.isEmpty) then
    { s with handlers := s.handlers ++ [.received] }
  else s

-- The handlers of the runtime copy what they read of the config before they call `log_sip_packet`.
def readsConfig : HandlerPhase → Bool
  | .returned exit => !config.newMode && exit = .success
  | _ => true

def Lifecycle.peerToPeerDhtSave (s : Lifecycle) (succeeds : Bool) :
    Except LifecycleFault HandlerPhase :=
  match s.dhtNode with
  | .unset => .error .dhtNodeUnset
  | .deleted => .error .runnerDeleted
  | .running => .ok (if succeeds then .saved else .returned .failure)

/-- The statements of `sip_log_event` and of its callers; `none` is the end of the handler. -/
def handlerNext (succeeds : Bool) (s : Lifecycle) :
    HandlerPhase → Except LifecycleFault (Option HandlerPhase)
  | .received => .ok (some .calling)
  | .calling => .ok (some (if succeeds then .parsed else .returned .failure))
  | .parsed => .ok (some (if succeeds then .stored else .returned .failure))
  | .stored =>
      if dhtMode build config then (s.peerToPeerDhtSave succeeds).map some
      else .ok (some .saved)
  | .saved => .ok (some (.returned .success))
  | .returned _ => .ok none

def Lifecycle.setHandler (s : Lifecycle) (i : Nat) : Option HandlerPhase → Lifecycle
  | some phase => { s with handlers := s.handlers.set i phase }
  | none => { s with handlers := s.handlers.eraseIdx i }

def handlerStep (i : Nat) (succeeds : Bool) (s : Lifecycle) : Except LifecycleFault Lifecycle :=
  match s.handlers[i]? with
  | none => .ok s
  | some phase =>
      if readsConfig config phase && !s.configLive then .error .configDestroyed
      else (handlerNext build config succeeds s phase).map (s.setHandler i)

-- A cancelled thread leaves its packet where it is. The runtime leaves its running handlers behind.
def endListener (s : Lifecycle) : Lifecycle :=
  if s.listener ≠ .listening then s
  else if config.newMode then { s with listener := .ended }
  else { s with listener := .ended, handlers := [] }

/-- An event that cannot happen in a state changes nothing. -/
def lifecycleStep (s : Lifecycle) (event : LifecycleEvent) : Except LifecycleFault Lifecycle :=
  if s.main = .exited then .ok s
  else
    match event with
    | .main succeeds => mainStep build config succeeds s
    | .packet => .ok (takePacket config s)
    | .handler i succeeds => handlerStep build config i succeeds s
    | .listenerEnds => .ok (endListener config s)

def lifecycleRun (events : List LifecycleEvent) : Except LifecycleFault Lifecycle :=
  events.foldlM (lifecycleStep build config) initialLifecycle

end Steps

end SentryPeer
