import SentryPeer.Source.SipDaemon

/-!
# Received packets and their copies

The daemon copies a packet as a string and passes on the number of bytes received. A packet that
fills the buffer has no terminator, a zero byte ends the copy early, and a failed `recvmsg` is
counted as the largest length there is.
-/

namespace SentryPeer.Proof
open Lib

theorem ofMemory_readPacketBuf (received : List UInt8) :
    (CStr.ofMemory (readPacketBuf received)).bytes = received.takeWhile (· != 0) := by
  have zeros : (List.replicate (packetBufferSize - received.length) (0 : UInt8)).takeWhile
      (· != 0) = [] := by
    cases packetBufferSize - received.length <;> simp [List.replicate_succ]
  change (readPacketBuf received).takeWhile (· != 0) = _
  rw [readPacketBuf, List.takeWhile_append, zeros]
  split
  · rename_i all
    have whole := (List.takeWhile_prefix (p := fun b : UInt8 => b != 0) (l := received)).eq_of_length all
    rw [List.append_nil, whole]
  · rfl

theorem strlen_readPacketBuf {received : List UInt8} (bounded : received.length ≤ packetBufferSize) :
    strlen (readPacketBuf received) = none ↔
      received.length = packetBufferSize ∧ 0 ∉ received := by
  rw [strlen_eq_none, readPacketBuf, List.mem_append, List.mem_replicate]
  constructor
  · intro absent
    refine ⟨?_, fun member => absent (.inl member)⟩
    by_contra short
    exact absent (.inr ⟨by omega, rfl⟩)
  · rintro ⟨full, absent⟩ (member | ⟨room, -⟩)
    · exact absent member
    · omega

def Copied (received : List UInt8) (packetLen : Nat) (packet : CStr) : Prop :=
  ∀ k < packetLen, ∃ byte, packet.stored[k]? = some byte ∧ received[k]? = some byte

/-- At most the last byte is zero, and a packet that fills the buffer ends in one. -/
def Terminated (received : List UInt8) : Prop :=
  0 ∉ received.dropLast ∧ (received.length < packetBufferSize ∨ received.getLast? = some 0)

instance (received : List UInt8) : Decidable (Terminated received) :=
  inferInstanceAs (Decidable (_ ∧ _))

theorem copied_terminated_iff {received : List UInt8}
    (bounded : received.length ≤ packetBufferSize) :
    (strlen (readPacketBuf received) ≠ none ∧
      Copied received received.length (.ofMemory (readPacketBuf received))) ↔
        Terminated received := by
  have bytes := ofMemory_readPacketBuf received
  have split_ := List.takeWhile_append_dropWhile (p := fun b : UInt8 => b != 0) (l := received)
  rw [ne_eq, strlen_readPacketBuf bounded]
  simp only [Copied, CStr.stored, bytes]
  generalize hp : received.takeWhile (· != 0) = before at split_ ⊢
  have nonzero : 0 ∉ before := by
    intro member
    rw [← hp] at member
    simpa using List.mem_takeWhile_imp member
  cases rest : received.dropWhile (· != 0) with
  | nil =>
      rw [rest, List.append_nil] at split_
      subst split_
      have absent : 0 ∉ before.dropLast := fun member => nonzero (List.dropLast_subset _ member)
      have last : before.getLast? ≠ some 0 := fun last => nonzero (List.mem_of_getLast? last)
      simp only [Terminated, absent, not_false_eq_true, true_and, last, or_false, nonzero, and_true]
      constructor
      · rintro ⟨short, -⟩
        omega
      · intro short
        refine ⟨by omega, fun k small => ⟨before[k], ?_, ?_⟩⟩
        · rw [List.getElem?_append_left small]
          exact List.getElem?_eq_getElem small
        · exact List.getElem?_eq_getElem small
  | cons zero tail =>
      have isZero : zero = 0 := by
        have first := List.head_dropWhile_not (p := fun b : UInt8 => b != 0) (l := received)
          (by simp [rest])
        simpa [rest] using first
      subst isZero
      rw [rest] at split_
      subst split_
      have member : (0 : UInt8) ∈ before ++ 0 :: tail := by simp
      simp only [member, not_true_eq_false, and_false, not_false_eq_true, true_and]
      cases tail with
      | nil =>
          have ok : Terminated (before ++ [0]) := by
            refine ⟨?_, .inr (by simp)⟩
            rw [List.dropLast_concat]
            exact nonzero
          refine ⟨fun _ => ok, fun _ k small => ?_⟩
          exact ⟨(before ++ [0])[k], List.getElem?_eq_getElem small, List.getElem?_eq_getElem small⟩
      | cons next more =>
          have inner : (0 : UInt8) ∈ (before ++ 0 :: next :: more).dropLast := by
            rw [List.dropLast_append_of_ne_nil (by simp)]
            simp
          refine ⟨fun copied => ?_, fun ok => absurd inner ok.1⟩
          obtain ⟨byte, inside, -⟩ := copied (before.length + 1) (by simp)
          simp at inside

/-! ## The two receptions -/

/-- A result of `recv` or `recvmsg` with the addresses the branch goes on with. A UDP client without
a name makes the daemon return. -/
inductive Reception
  | tcp (recv : Option (List UInt8)) (clientIp destIp : CStr)
  | udp (recvmsg : Option (List UInt8)) (clientIp destIp : Option CStr)

def Reception.result : Reception → Option (List UInt8)
  | .tcp recv _ _ => recv
  | .udp recvmsg _ _ => recvmsg

def Reception.event : Reception → Except Abort (Option SipMessageEvent)
  | .tcp recv clientIp destIp => tcpEvent recv (some clientIp) (.ok (some destIp))
  | .udp recvmsg clientIp destIp => udpEvent recvmsg clientIp (.ok destIp)

/-- No event, or one whose packet can be read up to `packet_len`. -/
def ReadsInside (reception : Reception) : Prop :=
  match reception.event with
  | .error _ => False
  | .ok none => True
  | .ok (some event) => ∃ packet, event.packet = some packet ∧
      Copied (reception.result.getD []) event.packetLen packet

def ReceptionFits : Reception → Prop
  | .tcp none _ _ => True
  | .tcp (some received) _ _ => Terminated received
  | .udp _ none _ => True
  | .udp none (some _) _ => False
  | .udp (some received) (some _) _ => Terminated received

theorem duplicateBuffer_eq {memory : List UInt8} :
    duplicateBuffer memory = if strlen memory = none then .error (.outOfBounds .sipDaemonInit)
      else .ok (.ofMemory memory) := by
  unfold duplicateBuffer
  cases strlen memory <;> rfl

theorem tcpEvent_received (received : List UInt8) (some_ : received ≠ []) (client dest : CStr) :
    tcpEvent (some received) (some client) (.ok (some dest)) =
      (duplicateBuffer (readPacketBuf received)).map fun packet => some {
        packet := some packet
        packetLen := received.length
        transportType := some (.lit "TCP")
        clientIpAddrStr := some client
        destIpAddrStr := some dest } := by
  cases received with
  | nil => exact absurd rfl some_
  | cons b bs =>
      simp only [tcpEvent]
      cases duplicateBuffer (readPacketBuf (b :: bs)) <;> rfl

theorem udpEvent_named (result : Option (List UInt8)) (client : CStr) (dest : Option CStr) :
    udpEvent result (some client) (.ok dest) =
      (duplicateBuffer (readPacketBuf (result.getD []))).map fun packet => some {
        packet := some packet
        packetLen := packetLenOf result
        transportType := some (.lit "UDP")
        clientIpAddrStr := some client
        destIpAddrStr := dest } := by
  simp only [udpEvent]
  cases duplicateBuffer (readPacketBuf (result.getD [])) <;> rfl

theorem readsInside_of_event (reception : Reception) {packetLen : Nat}
    {transport client dest : Option CStr}
    (built : reception.event = (duplicateBuffer (readPacketBuf (reception.result.getD []))).map
      fun packet => some ⟨some packet, packetLen, transport, client, dest⟩) :
    ReadsInside reception ↔ strlen (readPacketBuf (reception.result.getD [])) ≠ none ∧
      Copied (reception.result.getD []) packetLen
        (.ofMemory (readPacketBuf (reception.result.getD []))) := by
  rw [ReadsInside, built, duplicateBuffer_eq]
  by_cases outside : strlen (readPacketBuf (reception.result.getD [])) = none
  · rw [if_pos outside]
    simp only [Except.map, outside, ne_eq, not_true_eq_false, false_and]
  · rw [if_neg outside]
    simp only [Except.map, Option.some.injEq, exists_eq_left', ne_eq, outside, not_false_eq_true,
      true_and]

theorem reception_readsInside_iff (reception : Reception)
    (bounded : ∀ received ∈ reception.result, received.length ≤ packetBufferSize) :
    ReadsInside reception ↔ ReceptionFits reception := by
  cases reception with
  | tcp recv client dest =>
      cases recv with
      | none => exact Iff.rfl
      | some received =>
          cases received with
          | nil => exact ⟨fun _ => show Terminated [] by decide, fun _ => trivial⟩
          | cons b bs =>
              have built := tcpEvent_received (b :: bs) (by simp) client dest
              rw [readsInside_of_event (.tcp (some (b :: bs)) client dest) built]
              exact copied_terminated_iff (bounded _ rfl)
  | udp recvmsg client dest =>
      cases client with
      | none => cases recvmsg <;> exact Iff.rfl
      | some client =>
          have built := udpEvent_named recvmsg client dest
          rw [readsInside_of_event (.udp recvmsg (some client) dest) built]
          cases recvmsg with
          | some received => exact copied_terminated_iff (bounded _ rfl)
          | none =>
              refine ⟨fun inside => ?_, fun fits => fits.elim⟩
              obtain ⟨byte, -, none_⟩ := inside.2 0 (by decide)
              cases none_

theorem reception_readsInside_options :
    ReadsInside (.udp (some (CStr.lit "OPTIONS sip:100@192.0.2.2 SIP/2.0").bytes)
      (some (.lit "192.0.2.1")) (some (.lit "192.0.2.2"))) :=
  (reception_readsInside_iff _ fun received member => by cases member; decide).mpr
    (show Terminated _ by decide)

/-- A zero byte inside a packet, a packet that fills the buffer, and a failed `recvmsg`. -/
theorem reception_reads_outside :
    ¬ ReadsInside (.tcp (some [0x61, 0x00, 0x62]) (.lit "192.0.2.1") (.lit "192.0.2.2")) ∧
    ¬ ReadsInside (.udp (some (List.replicate packetBufferSize 0x61)) (some (.lit "192.0.2.1"))
      (some (.lit "192.0.2.2"))) ∧
    ¬ ReadsInside (.udp none (some (.lit "192.0.2.1")) (some (.lit "192.0.2.2"))) := by
  refine ⟨?_, ?_, ?_⟩
  · rintro ⟨packet, copy, copied⟩
    cases copy
    obtain ⟨byte, inside, -⟩ := copied 2 (by decide)
    cases inside
  · have length : (List.replicate packetBufferSize (0x61 : UInt8)).length = packetBufferSize :=
      List.length_replicate
    have full : strlen (readPacketBuf (List.replicate packetBufferSize 0x61)) = none := by
      refine (strlen_readPacketBuf length.le).mpr ⟨length, fun member => ?_⟩
      cases List.eq_of_mem_replicate member
    rw [readsInside_of_event (.udp _ (some _) (some _)) (udpEvent_named _ _ _)]
    exact fun inside => inside.1 full
  · rintro ⟨packet, copy, copied⟩
    cases copy
    obtain ⟨byte, -, none_⟩ := copied 0 (by decide)
    cases none_

end SentryPeer.Proof
