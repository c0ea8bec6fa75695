import SentryPeer.Source.Collect

/-!
# The handlers of the Rust listeners

`log_sip_packet` of `sip.rs` and the handlers of `udp.rs`, `tcp.rs` and `tls.rs`, each of which runs
in a task of its own. The effects of a handler are its calls of `sip_log_event`, which is a
parameter, and the replies it sends.
-/

namespace SentryPeer
open Lib

def sipPacket : CStr := .lit <| String.join [
  "SIP/2.0 200 OK\r\n",
  "Via: SIP/2.0/UDP 127.0.0.1:5061\r\n",
  "Call-ID: 1179563087@127.0.0.1\r\n",
  "From: <sip:sipsak@127.0.0.1>;tag=464eb44f\r\n",
  "To: <sip:asterisk@127.0.0.1>;tag=z9hG4bK.1c882828\r\n",
  "CSeq: 1 OPTIONS\r\n",
  "Accept: application/sdp, application/dialog-info+xml, ",
  "application/simple-message-summary, application/xpidf+xml, application/cpim-pidf+xml, ",
  "application/pidf+xml, application/pidf+xml, application/dialog-info+xml, ",
  "application/simple-message-summary, message/sipfrag;version=2.0\r\n",
  "Allow: OPTIONS, SUBSCRIBE, NOTIFY, PUBLISH, INVITE, ACK, BYE, CANCEL, UPDATE, PRACK, ",
  "REGISTER, REFER, MESSAGE\r\n",
  "Supported: 100rel, timer, replaces, norefersub\r\n",
  "Accept-Encoding: text/plain\r\n",
  "Accept-Language: en\r\n",
  "Server: FPBX-16.0.33(18.13.0)\r\n",
  "Content-Length:  0\r\n"]

inductive Effect
  | sipLogEvent (event : SipMessageEvent)
  | reply (listener : RustListener) (peerAddr : SocketAddr) (packet : CStr)
deriving DecidableEq

/-- What a read delivers into a zeroed buffer of 1024 bytes. -/
structure Payload where
  bytes : List UInt8
  fits : bytes.length ≤ packetBufferSize

section Handlers
variable (sipLogEvent : SipMessageEvent → Exit) (config : Config)

def logSipPacket (listener : RustListener) (buf : List UInt8) (bytesRead : Nat)
    (peerAddr listenAddr : SocketAddr) : EStateM Abort (List Effect) Exit := do
  let sipMessage ← fromExcept (logSipPacketEvent listener buf bytesRead peerAddr listenAddr)
  modify (· ++ [.sipLogEvent sipMessage])
  if sipLogEvent sipMessage ≠ .success then return .failure
  return .success

-- `write_all(SIP_PACKET).await.unwrap()`
def genSipReply (writes : Bool) (listener : RustListener) (peerAddr : SocketAddr) :
    EStateM Abort (List Effect) Unit := do
  modify (· ++ [.reply listener peerAddr sipPacket])
  if !writes then fromExcept (.error (.panic .genSipReply))

-- The result of `log_sip_packet` is only printed. The error of `send_to` is returned.
def handleUdpConnection (sends : Bool) (peerAddr : SocketAddr) (buf : List UInt8) (bytesRead : Nat)
    (addr : SocketAddr) : EStateM Abort (List Effect) Exit := do
  let _ ← logSipPacket sipLogEvent .udp buf bytesRead peerAddr addr
  if config.sipResponsiveMode then
    modify (· ++ [.reply .udp peerAddr sipPacket])
    if !sends then return .failure
  return .success

/-- The handlers of the two stream listeners, from the read on. -/
def handleStream (listener : RustListener) (read : Option Payload) (writes : Bool)
    (peerAddr addr : SocketAddr) : EStateM Abort (List Effect) Exit := do
  match read with
  | none => return .failure
  | some payload =>
      let _ ← logSipPacket sipLogEvent listener (readPacketBuf payload.bytes) payload.bytes.length
        peerAddr addr
      if config.sipResponsiveMode then genSipReply writes listener peerAddr
      return .success

def handleTcpConnection := handleStream sipLogEvent config .tcp

def handleTlsConnection (accepts : Bool) (read : Option Payload) (writes : Bool)
    (peerAddr addr : SocketAddr) : EStateM Abort (List Effect) Exit := do
  if !accepts then return .failure
  handleStream sipLogEvent config .tls read writes peerAddr addr

def handleRead (listener : RustListener) (payload : Payload) (sends : Bool)
    (peerAddr addr : SocketAddr) : EStateM Abort (List Effect) Exit :=
  match listener with
  | .udp => handleUdpConnection sipLogEvent config sends peerAddr (readPacketBuf payload.bytes)
      payload.bytes.length addr
  | .tcp => handleTcpConnection sipLogEvent config (some payload) sends peerAddr addr
  | .tls => handleTlsConnection sipLogEvent config true (some payload) sends peerAddr addr

end Handlers

end SentryPeer
