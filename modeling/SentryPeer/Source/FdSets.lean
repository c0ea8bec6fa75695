import SentryPeer.Source.Descriptors

/-!
# The macros on the descriptor sets

`FD_SET`, `FD_ISSET` and `FD_CLR` of the select loop with the descriptor each is called with. An `fd_set`
has a bit for every descriptor below `FD_SETSIZE`, and the macros do not look at that.
-/

namespace SentryPeer
open Lib

def fdSetSize : Nat := 1024

inductive FdCall
  | fdSet (descriptor : Nat)
  | fdIsset (descriptor : Nat)
  | fdClr (descriptor : Nat)
deriving DecidableEq

def FdCall.descriptor : FdCall → Nat
  | .fdSet descriptor => descriptor
  | .fdIsset descriptor => descriptor
  | .fdClr descriptor => descriptor

def FdCall.apply (descriptors : Finset Nat) : FdCall → Finset Nat
  | .fdSet descriptor => insert descriptor descriptors
  | .fdIsset _ => descriptors
  | .fdClr descriptor => descriptors.erase descriptor

def acceptMacros (answers : Answers) (s : Daemon) : List FdCall :=
  if s.i = s.socketListenTcp then (answers.accept.map fun client => .fdSet client.1).toList else []

-- A `recv` that gives less than one byte.
def clientMacros (answers : Answers) (s : Daemon) : List FdCall :=
  if s.i ≠ s.socketListenUdp ∧ s.i ≠ s.socketListenTcp then
    match answers.recv with
    | none | some [] => [.fdClr s.i]
    | some _ => []
  else []

def visitMacros (config : Config) (answers : Answers) (s : Daemon) : List FdCall :=
  let entered := { s with tcpClientIpAddressBuffer := answers.stack }
  .fdIsset s.i :: (acceptMacros answers entered ++
    match acceptBranch answers entered with
    | .error _ => []
    | .ok accepted =>
        clientMacros answers accepted ++
          match clientBranch config answers accepted with
          | .error _ => []
          | .ok served => [.fdIsset served.socketListenUdp])

def eventMacros (config : Config) (s : Daemon) : ProcessEvent → List FdCall
  | .loop .skip => [.fdIsset s.i]
  | .loop (.visit answers) => visitMacros config answers s
  | _ => []

structure Watched where
  process : Process
  passed : List FdCall

def watchedStep (config : Config) (w : Watched) (event : ProcessEvent) : Option Watched :=
  (processStep config w.process event).map fun process =>
    ⟨process, w.passed ++ eventMacros config w.process.daemon event⟩

def watchedInit (listeners : Listeners) : Watched :=
  ⟨processInit listeners, [.fdSet listeners.udp, .fdSet listeners.tcp]⟩

def WatchedMoves (config : Config) (w v : Watched) : Prop :=
  ∃ event, watchedStep config w event = some v

end SentryPeer
