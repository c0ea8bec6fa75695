import SentryPeer.Source.SipDaemon

/-!
# The descriptors of the process

The select loop together with the kernel it calls and the other threads, which open and close
descriptors of their own. A call is recorded with the kernel as it was when the call was made and
with the round of the loop it belongs to.
-/

namespace SentryPeer
open Lib

/-- A call of the loop on a socket and what it gave: the descriptor of the new connection, or the
number of bytes. -/
inductive SysCall
  | accept (client : Option Nat)
  | recv (descriptor length : Nat)
  | close (descriptor : Nat)
  | recvmsg
deriving DecidableEq

def acceptCalls (answers : Answers) (s : Daemon) : List SysCall :=
  if s.i = s.socketListenTcp then [.accept (answers.accept.map Prod.fst)] else []

def clientCalls (answers : Answers) (s : Daemon) : List SysCall :=
  if s.i ≠ s.socketListenUdp ∧ s.i ≠ s.socketListenTcp then
    match answers.recv with
    | none | some [] => [.recv s.i 0, .close s.i]
    | some received => [.recv s.i received.length]
  else []

def udpCalls (s : Daemon) : List SysCall :=
  if s.socketListenUdp ∈ s.reads then [.recvmsg] else []

def visitCalls (config : Config) (answers : Answers) (s : Daemon) : List SysCall :=
  let entered := { s with tcpClientIpAddressBuffer := answers.stack }
  acceptCalls answers entered ++
    match acceptBranch answers entered with
    | .error _ => []
    | .ok accepted =>
        clientCalls answers accepted ++
          match clientBranch config answers accepted with
          | .error _ => []
          | .ok served => udpCalls served

/-- `connections` are the accepted connections that are open, numbered in the order of the accepts;
`others` are the descriptors of the other threads. -/
structure Kernel where
  others : Finset Nat
  connections : Nat → Option Nat
  accepts : Nat
  waiting : Nat
  datagrams : Nat
  received : Nat → Nat
  endOfStream : Nat → Bool

-- A failed `accept` takes its connection from the queue; one that comes back is an arrival.
def Kernel.call (kernel : Kernel) : SysCall → Kernel
  | .accept none => { kernel with waiting := kernel.waiting - 1 }
  | .accept (some client) => { kernel with
      waiting := kernel.waiting - 1
      connections := Function.update kernel.connections client (some kernel.accepts)
      accepts := kernel.accepts + 1
      received := Function.update kernel.received client 0
      endOfStream := Function.update kernel.endOfStream client false }
  | .recv descriptor length => { kernel with
      received :=
        Function.update kernel.received descriptor (kernel.received descriptor - length) }
  | .close descriptor => { kernel with
      connections := Function.update kernel.connections descriptor none }
  | .recvmsg => { kernel with datagrams := kernel.datagrams - 1 }

structure SelectRound where
  number : Nat
  master : Finset Nat
  ready : Finset Nat
  connections : Nat → Option Nat

structure Made where
  call : SysCall
  kernel : Kernel
  round : SelectRound

structure Process where
  daemon : Daemon
  kernel : Kernel
  round : SelectRound
  made : List Made

inductive ProcessEvent
  | loop (action : Action)
  | opens (descriptor : Nat)
  | closes (descriptor : Nat)
  | datagram
  | connection
  | data (descriptor length : Nat)
  | ends (descriptor : Nat)

namespace Process

def isOpen (s : Process) (descriptor : Nat) : Prop :=
  descriptor ∈ s.kernel.others ∨ descriptor = s.daemon.socketListenUdp ∨
    descriptor = s.daemon.socketListenTcp ∨ (s.kernel.connections descriptor).isSome

instance (s : Process) (descriptor : Nat) : Decidable (s.isOpen descriptor) :=
  inferInstanceAs (Decidable (_ ∨ _ ∨ _ ∨ _))

def makes (s : Process) (call : SysCall) : Process :=
  { s with
    kernel := s.kernel.call call
    made := s.made ++ [⟨call, s.kernel, s.round⟩] }

end Process

def loopStep (config : Config) (s : Process) (action : Action) : Option Process :=
  match action with
  | .select ready =>
      (daemonStep config action s.daemon).map fun daemon =>
        { s with
          daemon
          round := ⟨s.round.number + 1, s.daemon.master, ready, s.kernel.connections⟩ }
  | .visit answers =>
      if ∀ client ∈ answers.accept, ¬ s.isOpen client.1 then
        (daemonStep config action s.daemon).map fun daemon =>
          { (visitCalls config answers s.daemon).foldl Process.makes s with daemon }
      else none
  | .selectFails | .skip => (daemonStep config action s.daemon).map fun daemon => { s with daemon }

def processStep (config : Config) (s : Process) : ProcessEvent → Option Process
  | .loop action => loopStep config s action
  | .opens descriptor =>
      if s.isOpen descriptor then none
      else some { s with kernel := { s.kernel with others := insert descriptor s.kernel.others } }
  | .closes descriptor =>
      if descriptor ∈ s.kernel.others then
        some { s with kernel := { s.kernel with others := s.kernel.others.erase descriptor } }
      else none
  | .datagram => some { s with kernel := { s.kernel with datagrams := s.kernel.datagrams + 1 } }
  | .connection => some { s with kernel := { s.kernel with waiting := s.kernel.waiting + 1 } }
  | .data descriptor length => some { s with kernel := { s.kernel with
      received :=
        Function.update s.kernel.received descriptor (s.kernel.received descriptor + length) } }
  | .ends descriptor => some { s with kernel := { s.kernel with
      endOfStream := Function.update s.kernel.endOfStream descriptor true } }

structure Listeners where
  udp : Nat
  tcp : Nat
  distinct : udp ≠ tcp

def processInit (listeners : Listeners) : Process where
  daemon := daemonInit listeners.udp listeners.tcp
  kernel := {
    others := ∅
    connections := fun _ => none
    accepts := 0
    waiting := 0
    datagrams := 0
    received := fun _ => 0
    endOfStream := fun _ => false }
  round := ⟨0, ∅, ∅, fun _ => none⟩
  made := []

def ProcessMoves (config : Config) (met : Process → ProcessEvent → Prop) (s t : Process) : Prop :=
  ∃ event, met s event ∧ processStep config s event = some t

end SentryPeer
