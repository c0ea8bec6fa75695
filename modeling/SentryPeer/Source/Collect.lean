import SentryPeer.Source.Http
import SentryPeer.Source.Network
import SentryPeer.Source.SipDaemon

/-!
# Collectors

The events that the listeners hand to `sip_log_event`: `log_sip_packet` of `sip.rs` for the three
Rust listeners, and the UDP branch of the C daemon, which asks `getnameinfo` for the numeric host.
-/

namespace SentryPeer
open Lib

inductive RustListener
  | tcp
  | udp
  | tls
deriving DecidableEq

def RustListener.transportType : RustListener → CStr
  | .tcp => .lit "TCP"
  | .udp => .lit "UDP"
  | .tls => .lit "TLS"

-- `CString::new(..).unwrap()` panics on a zero byte, the slice on a length beyond the buffer.
def logSipPacketEvent (listener : RustListener) (buf : List UInt8) (bytesRead : Nat)
    (peerAddr listenAddr : SocketAddr) : Except Abort SipMessageEvent :=
  let packet := fromUtf8Lossy (buf.take bytesRead)
  if buf.length < bytesRead ∨ 0 ∈ packet then .error (.panic .logSipPacket)
  else .ok {
    packet := some (.ofMemory packet)
    packetLen := bytesRead
    transportType := some listener.transportType
    clientIpAddrStr := some peerAddr.text
    destIpAddrStr := some listenAddr.text }

inductive Collected
  | rust (listener : RustListener) (buf : List UInt8) (bytesRead : Nat)
      (peerAddr listenAddr : SocketAddr)
  | cUdp (recvmsg : Option (List UInt8)) (peer : Ipv4) (port : UInt16)
      (destIp : Except Abort (Option CStr))

def Collected.peer : Collected → IpAddr
  | .rust _ _ _ peerAddr _ => peerAddr.ip
  | .cUdp _ peer _ _ => .v4 peer

def Collected.event : Collected → Except Abort (Option SipMessageEvent)
  | .rust listener buf bytesRead peerAddr listenAddr =>
      (logSipPacketEvent listener buf bytesRead peerAddr listenAddr).map some
  | .cUdp recvmsg peer _ destIp => udpEvent recvmsg (some (IpAddr.v4 peer).text) destIp

/-- The packets that have been logged with `EXIT_SUCCESS`, in order, and the table they have left. -/
inductive LoggedRun : List Collected → List HoneyRow → Prop
  | nil : LoggedRun [] []
  | log {packets : List Collected} {honey : List HoneyRow} (run : LoggedRun packets honey)
      (packet : Collected) {event : SipMessageEvent} (received : packet.event = .ok (some event))
      (build : Build) (osip : Osip) (jansson : Jansson) (answers : SinkAnswers) (config : Config)
      (clock : Clock) (uuid : CStr) {after : Local}
      (logged : sipLogEvent build osip (nodeSinks jansson answers) config
        ⟨eventTimestamp clock, uuid⟩ event ⟨honey, []⟩ = .ok .success after) :
      LoggedRun (packets ++ [packet]) after.honey

end SentryPeer
