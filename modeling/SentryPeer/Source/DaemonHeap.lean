import SentryPeer.Source.OnHeap
import SentryPeer.Source.SipDaemon

/-!
# The select loop on the heap

The body of the loop of `sip_daemon_init` with the strings it duplicates and the events it makes.
`dest_ip_address_buffer` is a pointer here; the field of the same name of `Daemon` is not used.
-/

namespace SentryPeer.OnHeap
open Lib

def readEvent {σ : Type} (sipEvent : ℕ) : Program σ SipMessageEvent := do
  let (strings, _) ← load eventView sipEvent
  let packetLen ← load Block.packetLen? sipEvent
  let texts ← readStrings strings [.packet, .transportType, .clientIpAddrStr, .destIpAddrStr]
  return {
    packet := texts .packet
    packetLen
    transportType := texts .transportType
    clientIpAddrStr := texts .clientIpAddrStr
    destIpAddrStr := texts .destIpAddrStr }

/-- From `sip_message_event_new` on; `false` is a `continue`. The event is what `sip_log_event` reads
through its pointer. -/
def handleEvent (config : Config) (log : Except Abort Exit) (reply : Exit) (descriptor : ℕ)
    (peer : Option CStr) (packet : Except Abort CStr) (packetLen : ℕ) (transportType client : CStr)
    (dest : Option ℕ) : Program Daemon Bool := do
  let packet ← onRest (fromExcept packet)
  let packetPtr ← malloc (.string .c packet)
  let transportPtr ← malloc (.string .c transportType)
  let clientPtr ← malloc (.string .c client)
  let sipEvent ← sipMessageEventNew (some packetPtr) packetLen (some transportPtr) (some clientPtr)
    dest
  let event ← readEvent sipEvent
  onRest (modify fun s => { s with logged := s.logged ++ [⟨descriptor, peer, event⟩] })
  let logged ← onRest (fromExcept log)
  if logged ≠ .success then return false
  if config.sipResponsiveMode ∧ reply = .failure then return false
  sipMessageEventDestroy sipEvent
  return true

def ownAddress {σ : Type} (own : Option CStr) (dest : Option ℕ) : Program σ (Option ℕ) :=
  match own with
  | some text => do return some (← malloc (.string .c text))
  | none => return dest

def acceptBranch (answers : Answers) : Program Daemon Bool := onRest fun s =>
  match SentryPeer.acceptBranch answers s with
  | .ok t => .ok true t
  | .error t => .ok false t

def clientBranch (config : Config) (answers : Answers) (dest : Option ℕ) :
    Program Daemon (Bool × Option ℕ) := do
  let s ← onRest get
  if s.i ≠ s.socketListenUdp ∧ s.i ≠ s.socketListenTcp then
    match answers.recv with
    | none | some [] =>
        onRest (set { s with
          master := s.master.erase s.i
          peerOf := Function.update s.peerOf s.i none })
        return (false, dest)
    | some received =>
        let dest ← ownAddress answers.sockname dest
        if dest.isNone then abort (.assertion .sipDaemonInit)
        match s.tcpClientIpAddressBuffer with
        | none => abort (.outOfBounds .sipDaemonInit)
        | some client =>
            let next ← handleEvent config answers.tcpLog answers.tcpReply s.i (s.peerOf s.i)
              (duplicateBuffer (readPacketBuf received)) received.length (.lit "TCP") client dest
            return (next, dest)
  else return (true, dest)

def udpBranch (config : Config) (answers : Answers) (dest : Option ℕ) :
    Program Daemon (Option ℕ) := do
  let s ← onRest get
  if s.socketListenUdp ∈ s.reads then
    let dest ← ownAddress answers.pktinfo dest
    match answers.udpNameinfo with
    | none =>
        onRest (set { s with status := .exited })
        return dest
    | some client =>
        let _ ← handleEvent config answers.udpLog answers.udpReply s.socketListenUdp (some client)
          (duplicateBuffer (readPacketBuf (answers.recvmsg.getD []))) (packetLenOf answers.recvmsg)
          (.lit "UDP") client dest
        return dest
  else return dest

def body (config : Config) (answers : Answers) (dest : Option ℕ) : Program Daemon (Option ℕ) := do
  if !(← acceptBranch answers) then return dest
  let (next, dest) ← clientBranch config answers dest
  if !next then return dest
  udpBranch config answers dest

def visit (config : Config) (answers : Answers) (dest : Option ℕ) : Program Daemon (Option ℕ) := do
  onRest (modify fun s => { s with tcpClientIpAddressBuffer := answers.stack })
  let dest ← body config answers dest
  onRest (modify fun s => { s with i := s.i + 1 })
  return dest

/-- `dest_ip_address_buffer` is declared in the body of the outer loop. -/
def daemonStep (config : Config) (dest : Option ℕ) : Action → Program Daemon (Option ℕ)
  | .select ready => do
      onRest (modify fun s => { s with reads := ready, i := 1 })
      return none
  | .selectFails => do
      onRest (modify fun s => { s with status := .exited })
      return dest
  | .skip => do
      onRest (modify fun s => { s with i := s.i + 1 })
      return dest
  | .visit answers => visit config answers dest

def daemonRun (config : Config) (actions : List Action) (dest : Option ℕ) :
    Program Daemon (Option ℕ) :=
  actions.foldlM (daemonStep config) dest

end SentryPeer.OnHeap
