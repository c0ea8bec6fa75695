import SentryPeer.Source.Types
import Mathlib.Data.Finset.Basic

/-!
# The select loop of the C daemon

`sip_daemon_init` of `sip_daemon.c` from the point where both sockets are bound. The kernel, the
other threads and `sip_log_event` answer the calls of the loop; one action is a `select` or one
value of the scan variable `i`.
-/

namespace SentryPeer
open Lib

def packetBufferSize : Nat := 1024

/-- `read_packet_buf` after a call that delivered these bytes; it starts out zeroed. -/
def readPacketBuf (received : List UInt8) : List UInt8 :=
  received ++ List.replicate (packetBufferSize - received.length) 0

-- `util_duplicate_string` of an array: `strlen` may run past its end.
def duplicateBuffer (memory : List UInt8) : Except Abort CStr :=
  match strlen memory with
  | none => .error (.outOfBounds .sipDaemonInit)
  | some _ => .ok (.ofMemory memory)

-- The result of `recv` or `recvmsg` as a `size_t`: -1 is the largest one.
def packetLenOf : Option (List UInt8) → Nat
  | none => 0xFFFFFFFFFFFFFFFF
  | some received => received.length

def tcpEvent (recv : Option (List UInt8)) (clientIp : Option CStr)
    (destIp : Except Abort (Option CStr)) : Except Abort (Option SipMessageEvent) :=
  match recv with
  | none | some [] => .ok none
  | some received => do
      let destIp ← destIp
      if destIp.isNone then .error (.assertion .sipDaemonInit)
      let packet ← duplicateBuffer (readPacketBuf received)
      -- the address buffer has been written by an `accept`, or by whatever used the stack before
      let client ← match clientIp with
        | some text => .ok text
        | none => .error (.outOfBounds .sipDaemonInit)
      return some {
        packet := some packet
        packetLen := packetLenOf recv
        transportType := some (.lit "TCP")
        clientIpAddrStr := some client
        destIpAddrStr := destIp }

/-- The event of the UDP branch, `none` when `getnameinfo` fails and the daemon returns. A result
below 1 is only reported. -/
def udpEvent (recvmsg : Option (List UInt8)) (clientIp : Option CStr)
    (destIp : Except Abort (Option CStr)) : Except Abort (Option SipMessageEvent) :=
  match clientIp with
  | none => .ok none
  | some client => do
      let destIp ← destIp
      let packet ← duplicateBuffer (readPacketBuf (recvmsg.getD []))
      return some {
        packet := some packet
        packetLen := packetLenOf recvmsg
        transportType := some (.lit "UDP")
        clientIpAddrStr := some client
        destIpAddrStr := destIp }

/-! ## The loop -/

inductive Status
  | running
  | exited
  | aborted (abort : Abort)
deriving DecidableEq

/-- `dest_ip_address_buffer`: the event it was last put into may have been destroyed. -/
inductive DestIp
  | null
  | string (text : CStr)
  | freed
deriving DecidableEq

/-- What a branch uses: the address its own call gave, else what the pointer still is. -/
def DestIp.use (own : Option CStr) (old : DestIp) : Except Abort (Option CStr) :=
  match own, old with
  | some text, _ => .ok (some text)
  | none, .string text => .ok (some text)
  | none, .null => .ok none
  | none, .freed => .error (.useAfterFree .sipDaemonInit)

/-- An event handed to `sip_log_event`, the descriptor it was read from and the peer of the
connection open there. -/
structure Logged where
  descriptor : Nat
  peer : Option CStr
  event : SipMessageEvent
deriving DecidableEq

structure Daemon where
  socketListenUdp : Nat
  socketListenTcp : Nat
  master : Finset Nat
  reads : Finset Nat
  maxSocket : Nat
  i : Nat
  tcpClientIpAddressBuffer : Option CStr
  destIpAddressBuffer : DestIp
  status : Status
  -- the peers of the accepted connections, by descriptor
  peerOf : Nat → Option CStr
  lastAccept : Option Nat
  logged : List Logged

/-- What the calls made for one descriptor give: the old contents of the stack slot of the address
buffer, `accept` with the numeric host of the peer, and the TCP and UDP receptions. -/
structure Answers where
  stack : Option CStr
  accept : Option (Nat × CStr)
  acceptNameinfo : Bool
  recv : Option (List UInt8)
  sockname : Option CStr
  tcpLog : Except Abort Exit
  tcpReply : Exit
  recvmsg : Option (List UInt8)
  pktinfo : Option CStr
  udpNameinfo : Option CStr
  udpLog : Except Abort Exit
  udpReply : Exit

-- A branch of the body either falls through to the next one or leaves the iteration.
abbrev Branch := Except Daemon Daemon

def acceptBranch (answers : Answers) (s : Daemon) : Branch :=
  if s.i = s.socketListenTcp then
    match answers.accept with
    | none => .error s
    | some (client, peer) =>
        let s := { s with
          master := insert client s.master
          maxSocket := max client s.maxSocket
          peerOf := Function.update s.peerOf client (some peer)
          lastAccept := some client }
        if answers.acceptNameinfo then .ok { s with tcpClientIpAddressBuffer := some peer }
        else .error { s with status := .exited }
  else .ok s

-- `sip_log_event`, the reply in responsive mode, and the end of the event.
def logAndReply (config : Config) (log : Except Abort Exit) (reply : Exit) (s : Daemon) : Branch :=
  match log with
  | .error abort => .error { s with status := .aborted abort }
  | .ok .failure => .error s
  | .ok .success =>
      if config.sipResponsiveMode ∧ reply = .failure then .error s
      else .ok { s with destIpAddressBuffer := .freed }

/-- The end of the TCP and of the UDP branch, once the event is built or has failed. -/
def handleEvent (config : Config) (log : Except Abort Exit) (reply : Exit) (descriptor : Nat)
    (peer : Option CStr) (noEvent : Daemon → Daemon) (event : Except Abort (Option SipMessageEvent))
    (s : Daemon) : Branch :=
  match event with
  | .error abort => .error { s with status := .aborted abort }
  | .ok none => .error (noEvent s)
  | .ok (some event) =>
      logAndReply config log reply { s with
        destIpAddressBuffer := (event.destIpAddrStr.map DestIp.string).getD .null
        logged := s.logged ++ [⟨descriptor, peer, event⟩] }

def clientBranch (config : Config) (answers : Answers) (s : Daemon) : Branch :=
  if s.i ≠ s.socketListenUdp ∧ s.i ≠ s.socketListenTcp then
    handleEvent config answers.tcpLog answers.tcpReply s.i (s.peerOf s.i)
      (fun s => { s with
        master := s.master.erase s.i
        peerOf := Function.update s.peerOf s.i none })
      (tcpEvent answers.recv s.tcpClientIpAddressBuffer
        (s.destIpAddressBuffer.use answers.sockname)) s
  else .ok s

def udpBranch (config : Config) (answers : Answers) (s : Daemon) : Branch :=
  if s.socketListenUdp ∈ s.reads then
    handleEvent config answers.udpLog answers.udpReply s.socketListenUdp answers.udpNameinfo
      (fun s => { s with status := .exited })
      (udpEvent answers.recvmsg answers.udpNameinfo
        (s.destIpAddressBuffer.use answers.pktinfo)) s
  else .ok s

def visit (config : Config) (answers : Answers) (s : Daemon) : Daemon :=
  let entered := { s with tcpClientIpAddressBuffer := answers.stack }
  let left := match acceptBranch answers entered >>= clientBranch config answers >>=
      udpBranch config answers with
    | .ok s => s
    | .error s => s
  { left with i := left.i + 1 }

inductive Action
  | select (ready : Finset Nat)
  | selectFails
  | skip
  | visit (answers : Answers)

/-- `accept` gives a descriptor that is not open, and nothing delivers more than the buffer holds. -/
def Answers.possible (answers : Answers) (s : Daemon) : Prop :=
  (∀ client ∈ answers.accept, s.peerOf client.1 = none ∧ client.1 ≠ s.socketListenUdp ∧
    client.1 ≠ s.socketListenTcp) ∧
  (∀ received ∈ answers.recv, received.length ≤ packetBufferSize) ∧
  (∀ received ∈ answers.recvmsg, received.length ≤ packetBufferSize)

instance (answers : Answers) (s : Daemon) : Decidable (answers.possible s) :=
  inferInstanceAs (Decidable (_ ∧ _ ∧ _))

def daemonStep (config : Config) (action : Action) (s : Daemon) : Option Daemon :=
  if s.status = .running then
    match action with
    | .select ready =>
        if s.maxSocket < s.i ∧ ready ⊆ s.master then
          some { s with reads := ready, i := 1, destIpAddressBuffer := .null }
        else none
    | .selectFails => if s.maxSocket < s.i then some { s with status := .exited } else none
    | .skip => if s.i ≤ s.maxSocket ∧ s.i ∉ s.reads then some { s with i := s.i + 1 } else none
    | .visit answers =>
        if s.i ≤ s.maxSocket ∧ s.i ∈ s.reads ∧ answers.possible s then
          some (visit config answers s)
        else none
  else none

def daemonRun (config : Config) : List Action → Daemon → Option Daemon
  | [], s => some s
  | action :: rest, s => daemonStep config action s >>= daemonRun config rest

def daemonInit (udp tcp : Nat) : Daemon where
  socketListenUdp := udp
  socketListenTcp := tcp
  master := {udp, tcp}
  reads := ∅
  maxSocket := max tcp udp
  i := max tcp udp + 1
  tcpClientIpAddressBuffer := none
  destIpAddressBuffer := .null
  status := .running
  peerOf _ := none
  lastAccept := none
  logged := []

end SentryPeer
