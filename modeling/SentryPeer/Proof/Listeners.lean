import SentryPeer.Lib.Utf8
import SentryPeer.Source.Conf
import SentryPeer.Source.Listeners

/-!
# Packets of the Rust listeners

A packet reaches `sip_log_event` as the text of its lossy decoding, with the number of bytes that
were read as its length. The only thing that can stop it on the way is a zero byte, which
`CString::new` refuses.
-/

namespace SentryPeer.Proof
open Lib

section Packets
variable (sipLogEvent : SipMessageEvent → Exit) (listener : RustListener)
  (peerAddr addr : SocketAddr) {buf : List UInt8} {bytesRead : Nat}

theorem logSipPacketEvent_noNul (within : bytesRead ≤ buf.length) (noNul : 0 ∉ buf.take bytesRead) :
    logSipPacketEvent listener buf bytesRead peerAddr addr = .ok {
      packet := some (.ofMemory (fromUtf8Lossy (buf.take bytesRead)))
      packetLen := bytesRead
      transportType := some listener.transportType
      clientIpAddrStr := some peerAddr.text
      destIpAddrStr := some addr.text } := by
  have kept : ¬ (buf.length < bytesRead ∨ 0 ∈ fromUtf8Lossy (buf.take bytesRead)) := by
    rw [(lossy_fromUtf8Lossy _).zero_mem_iff, not_or]
    exact ⟨Nat.not_lt.mpr within, noNul⟩
  rw [logSipPacketEvent, if_neg kept]

theorem logSipPacketEvent_nul (nul : 0 ∈ buf.take bytesRead) :
    logSipPacketEvent listener buf bytesRead peerAddr addr = .error (.panic .logSipPacket) := by
  rw [logSipPacketEvent, if_pos (.inr ((lossy_fromUtf8Lossy _).zero_mem_iff.mpr nul))]

variable {listener peerAddr addr}

theorem logSipPacket_ok {event : SipMessageEvent}
    (built : logSipPacketEvent listener buf bytesRead peerAddr addr = .ok event)
    (effects : List Effect) :
    logSipPacket sipLogEvent listener buf bytesRead peerAddr addr effects =
      .ok (sipLogEvent event) (effects ++ [.sipLogEvent event]) := by
  rw [logSipPacket, built, fromExcept_ok, pure_bind]
  cases returned : sipLogEvent event <;> rfl

theorem logSipPacket_error {abort : Abort}
    (failed : logSipPacketEvent listener buf bytesRead peerAddr addr = .error abort)
    (effects : List Effect) :
    logSipPacket sipLogEvent listener buf bytesRead peerAddr addr effects = .error abort effects := by
  rw [logSipPacket, failed]
  rfl

end Packets

/-! ## Handlers -/

/-- What a handler does besides logging. -/
def replies (config : Config) (listener : RustListener) (peerAddr : SocketAddr) : List Effect :=
  if config.sipResponsiveMode then [.reply listener peerAddr sipPacket] else []

/-- `log_sip_packet` returns after one call of `sip_log_event`, and the handler then replies. -/
structure PacketKept (sipLogEvent : SipMessageEvent → Exit) (config : Config)
    (listener : RustListener) (payload : Payload) (sends : Bool) (peerAddr addr : SocketAddr) :
    Prop where
  logged : ∃ event exit, logSipPacket sipLogEvent listener (readPacketBuf payload.bytes)
    payload.bytes.length peerAddr addr [] = .ok exit [.sipLogEvent event]
  handled : ∃ event, finalState (handleRead sipLogEvent config listener payload sends peerAddr addr
    []) = .sipLogEvent event :: replies config listener peerAddr

section Handlers
variable {sipLogEvent : SipMessageEvent → Exit} {config : Config} {listener : RustListener}
  {payload : Payload} {sends : Bool} {peerAddr addr : SocketAddr} {event : SipMessageEvent}

theorem take_readPacketBuf (received : List UInt8) :
    (readPacketBuf received).take received.length = received := by
  rw [readPacketBuf, List.take_left]

variable (sipLogEvent listener peerAddr addr) in
theorem logSipPacket_nul (nul : 0 ∈ payload.bytes) :
    logSipPacket sipLogEvent listener (readPacketBuf payload.bytes) payload.bytes.length peerAddr
      addr [] = .error (.panic .logSipPacket) [] := by
  rw [← take_readPacketBuf payload.bytes] at nul
  exact logSipPacket_error sipLogEvent (logSipPacketEvent_nul listener peerAddr addr nul) []

theorem handleStream_effects {exit : Exit}
    (logged : logSipPacket sipLogEvent listener (readPacketBuf payload.bytes) payload.bytes.length
      peerAddr addr [] = .ok exit [.sipLogEvent event]) :
    finalState (handleStream sipLogEvent config listener (some payload) sends peerAddr addr []) =
      .sipLogEvent event :: replies config listener peerAddr := by
  rw [handleStream, run_bind, logged]
  cases responsive : config.sipResponsiveMode with
  | false => simp [replies, responsive, finalState]
  | true => cases sends <;> simp [replies, responsive] <;> rfl

theorem handleUdpConnection_effects {exit : Exit}
    (logged : logSipPacket sipLogEvent .udp (readPacketBuf payload.bytes) payload.bytes.length
      peerAddr addr [] = .ok exit [.sipLogEvent event]) :
    finalState (handleUdpConnection sipLogEvent config sends peerAddr (readPacketBuf payload.bytes)
      payload.bytes.length addr []) = .sipLogEvent event :: replies config .udp peerAddr := by
  rw [handleUdpConnection, run_bind, logged]
  cases responsive : config.sipResponsiveMode with
  | false => simp [replies, responsive, finalState]
  | true => cases sends <;> simp [replies, responsive] <;> rfl

theorem handleRead_effects {exit : Exit}
    (logged : logSipPacket sipLogEvent listener (readPacketBuf payload.bytes) payload.bytes.length
      peerAddr addr [] = .ok exit [.sipLogEvent event]) :
    finalState (handleRead sipLogEvent config listener payload sends peerAddr addr []) =
      .sipLogEvent event :: replies config listener peerAddr := by
  cases listener with
  | udp => exact handleUdpConnection_effects logged
  | tcp => exact handleStream_effects logged
  | tls => exact handleStream_effects logged

end Handlers

theorem packet_kept_iff (sipLogEvent : SipMessageEvent → Exit) (config : Config)
    (listener : RustListener) (payload : Payload) (sends : Bool) (peerAddr addr : SocketAddr) :
    PacketKept sipLogEvent config listener payload sends peerAddr addr ↔ 0 ∉ payload.bytes := by
  have within : payload.bytes.length ≤ (readPacketBuf payload.bytes).length := by
    rw [readPacketBuf, List.length_append]
    exact Nat.le_add_right _ _
  constructor
  · rintro ⟨⟨event, exit, logged⟩, -⟩ nul
    rw [logSipPacket_nul sipLogEvent listener peerAddr addr nul] at logged
    cases logged
  · intro noNul
    rw [← take_readPacketBuf payload.bytes] at noNul
    have built := logSipPacketEvent_noNul listener peerAddr addr within noNul
    have logged := logSipPacket_ok sipLogEvent built []
    exact ⟨⟨_, _, logged⟩, ⟨_, handleRead_effects logged⟩⟩

def responsiveConfig : Config :=
  { sentrypeerConfigNew ⟨true, false⟩ (.lit "e1d4") with sipResponsiveMode := true }

def scannerAddr : SocketAddr := .v4 ⟨192, 0, 2, 1⟩ 5060

def listenAddr : SocketAddr := .v4 ⟨0, 0, 0, 0⟩ 5060

def nulPayload : Payload := ⟨[0x4F, 0x50, 0x54, 0x00], by decide⟩

/-- The probe is neither logged nor answered. -/
theorem packet_with_nul_lost :
    handleRead (fun _ => .success) responsiveConfig .udp nulPayload true scannerAddr listenAddr [] =
      .error (.panic .logSipPacket) [] ∧
    ¬ PacketKept (fun _ => .success) responsiveConfig .udp nulPayload true scannerAddr listenAddr := by
  have nul : 0 ∈ nulPayload.bytes := by decide
  have panics := logSipPacket_nul (fun _ => .success) .udp scannerAddr listenAddr nul
  constructor
  · rw [handleRead, handleUdpConnection, run_bind, panics]
  · rintro ⟨⟨event, exit, logged⟩, -⟩
    rw [panics] at logged
    cases logged

/-! ## The length of the packet -/

theorem logSipPacket_length (sipLogEvent : SipMessageEvent → Exit) (listener : RustListener)
    (peerAddr addr : SocketAddr) {buf : List UInt8} {bytesRead : Nat} (noNul : 0 ∉ buf)
    (within : bytesRead ≤ buf.length) :
    ∃ event packet, logSipPacket sipLogEvent listener buf bytesRead peerAddr addr [] =
        .ok (sipLogEvent event) [.sipLogEvent event] ∧
      event.packet = some packet ∧ event.packetLen ≤ packet.length ∧
      (validUtf8 (buf.take bytesRead) = true →
        event.packetLen = packet.length ∧ packet.bytes = buf.take bytesRead) := by
  have absent : 0 ∉ buf.take bytesRead := fun member => noNul (List.mem_of_mem_take member)
  have lossy := lossy_fromUtf8Lossy (buf.take bytesRead)
  have bytes : (CStr.ofMemory (fromUtf8Lossy (buf.take bytesRead))).bytes =
      fromUtf8Lossy (buf.take bytesRead) :=
    CStr.bytes_ofMemory (mt lossy.zero_mem_iff.mp absent)
  have read : (buf.take bytesRead).length = bytesRead := by
    rw [List.length_take, Nat.min_eq_left within]
  have built := logSipPacketEvent_noNul listener peerAddr addr within absent
  refine ⟨_, _, logSipPacket_ok sipLogEvent built [], rfl, ?_, fun valid => ?_⟩
  · rw [CStr.length, bytes]
    calc bytesRead = (buf.take bytesRead).length := read.symm
      _ ≤ _ := lossy.length_le
  · rw [CStr.length, bytes, fromUtf8Lossy_valid valid]
    exact ⟨read.symm, rfl⟩

theorem logSipPacket_length_truncated :
    ∃ event packet, logSipPacket (fun _ => .success) .tls [0x41, 0xE2, 0x82] 3 scannerAddr
        listenAddr [] = .ok .success [.sipLogEvent event] ∧
      event.packet = some packet ∧ event.packetLen ≤ packet.length := by
  obtain ⟨event, packet, logged, isPacket, within, -⟩ := logSipPacket_length (fun _ => .success) .tls
    scannerAddr listenAddr (show 0 ∉ [0x41, 0xE2, 0x82] by decide) (show 3 ≤ 3 by decide)
  exact ⟨event, packet, logged, isPacket, within⟩

end SentryPeer.Proof
