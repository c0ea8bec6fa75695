import SentryPeer.Proof.Descriptors

/-!
# Calls that would wait

What `select` has reported stays pending until the iteration of its own descriptor takes it, with one
exception: the UDP socket is read in every iteration that gets to its test, whatever descriptor the
iteration is for.
-/

namespace SentryPeer.Proof
open Lib

def pendingOn (udp tcp : Nat) (kernel : Kernel) (descriptor : Nat) : Prop :=
  if descriptor = udp then 0 < kernel.datagrams
  else if descriptor = tcp then 0 < kernel.waiting
  else 0 < kernel.received descriptor ∨ kernel.endOfStream descriptor = true

instance (udp tcp : Nat) (kernel : Kernel) (descriptor : Nat) :
    Decidable (pendingOn udp tcp kernel descriptor) :=
  inferInstanceAs (Decidable (ite _ _ (ite _ _ _)))

/-- What there is for a call to take at the moment it is made. -/
def pendingFor (kernel : Kernel) : SysCall → Prop
  | .accept _ => 0 < kernel.waiting
  | .recv descriptor _ => 0 < kernel.received descriptor ∨ kernel.endOfStream descriptor = true
  | .close _ => True
  | .recvmsg => 0 < kernel.datagrams

def recvmsgsIn (number : Nat) (made : List Made) : Nat :=
  made.countP fun m => m.call = .recvmsg ∧ m.round.number = number

structure NeverWaits (s : Process) : Prop where
  pending : ∀ m ∈ s.made, pendingFor m.kernel m.call
  oneRecvmsg : ∀ number, recvmsgsIn number s.made ≤ 1

/-- `select` reports exactly what is pending. -/
def SelectReports (s : Process) : ProcessEvent → Prop
  | .loop (.select ready) =>
      ready = s.daemon.master.filter
        (pendingOn s.daemon.socketListenUdp s.daemon.socketListenTcp s.kernel)
  | _ => True

/-- While the UDP socket is ready, only its own iteration gets to the UDP branch. -/
def UdpOwnIteration (config : Config) (s : Process) : ProcessEvent → Prop
  | .loop (.visit answers) =>
      s.daemon.socketListenUdp ∈ s.daemon.reads → s.daemon.i ≠ s.daemon.socketListenUdp →
        reachesUdpBranch config answers s.daemon = false
  | _ => True

/-! ## The invariant -/

structure Armed (udp tcp : Nat) (reads : Finset Nat) (i : Nat) (kernel : Kernel) (round : SelectRound)
    (made : List Made) : Prop where
  pending : ∀ descriptor ∈ reads, i ≤ descriptor → pendingOn udp tcp kernel descriptor
  -- the datagram of this round has not been read yet
  unread : udp ∈ reads → i ≤ udp → recvmsgsIn round.number made = 0
  waits : ∀ m ∈ made, pendingFor m.kernel m.call
  once : ∀ number, recvmsgsIn number made ≤ 1
  rounds : ∀ m ∈ made, m.round.number ≤ round.number

def ArmedAt (k : Sockets) (s : Process) : Prop :=
  Armed k.udp k.tcp k.reads k.i s.kernel s.round s.made

theorem armed_init (listeners : Listeners) :
    ArmedAt (sockets (processInit listeners).daemon) (processInit listeners) where
  pending descriptor member := by cases member
  unread member := by cases member
  waits m member := by cases member
  once _ := Nat.zero_le 1
  rounds m member := by cases member

theorem pendingOn_grows {udp tcp : Nat} {before after : Kernel} (grows : KernelGrows before after)
    {descriptor : Nat} (pending : pendingOn udp tcp before descriptor) :
    pendingOn udp tcp after descriptor := by
  unfold pendingOn at pending ⊢
  split
  · rw [if_pos ‹_›] at pending
    exact pending.trans_le grows.datagrams
  · rw [if_neg ‹_›] at pending
    split
    · rw [if_pos ‹_›] at pending
      exact pending.trans_le grows.waiting
    · rw [if_neg ‹_›] at pending
      exact pending.imp (fun data => data.trans_le (grows.received descriptor))
        (grows.endOfStream descriptor)

theorem pendingOn_of_same {udp tcp descriptor : Nat} {before after : Kernel}
    (datagrams : after.datagrams = before.datagrams)
    (waiting : descriptor ≠ tcp ∨ after.waiting = before.waiting)
    (received : after.received descriptor = before.received descriptor)
    (endOfStream : after.endOfStream descriptor = before.endOfStream descriptor)
    (pending : pendingOn udp tcp before descriptor) : pendingOn udp tcp after descriptor := by
  rw [pendingOn] at pending ⊢
  rw [datagrams, received, endOfStream]
  rcases waiting with notTcp | waiting
  · rw [if_neg notTcp] at pending ⊢
    exact pending
  · rw [waiting]
    exact pending

section Counts
variable {s : Process} {call : SysCall}

theorem recvmsgsIn_makes (other : call ≠ .recvmsg) (number : Nat) :
    recvmsgsIn number (s.makes call).made = recvmsgsIn number s.made := by
  simp [recvmsgsIn, Process.makes, other]

theorem recvmsgsIn_makes_recvmsg (number : Nat) :
    recvmsgsIn number (s.makes .recvmsg).made =
      recvmsgsIn number s.made + if s.round.number = number then 1 else 0 := by
  simp [recvmsgsIn, Process.makes, List.countP_append, List.countP_cons]

theorem recvmsgsIn_later {made : List Made} {last number : Nat}
    (rounds : ∀ m ∈ made, m.round.number ≤ last) (later : last < number) :
    recvmsgsIn number made = 0 := by
  apply List.countP_eq_zero.mpr
  intro m member isIn
  have atMost := rounds m member
  simp only [decide_eq_true_eq] at isIn
  omega

end Counts

section Calls
variable {udp tcp : Nat} {reads : Finset Nat} {i : Nat} {s : Process}

theorem Armed.next (armed : Armed udp tcp reads i s.kernel s.round s.made) :
    Armed udp tcp reads (i + 1) s.kernel s.round s.made where
  pending descriptor member after := armed.pending descriptor member (Nat.le_of_succ_le after)
  unread member after := armed.unread member (Nat.le_of_succ_le after)
  waits := armed.waits
  once := armed.once
  rounds := armed.rounds

theorem Armed.makes (call : SysCall) (armed : Armed udp tcp reads i s.kernel s.round s.made)
    (other : call ≠ .recvmsg) (pending : pendingFor s.kernel call)
    (keeps : ∀ descriptor ∈ reads, i ≤ descriptor → pendingOn udp tcp s.kernel descriptor →
      pendingOn udp tcp (s.kernel.call call) descriptor) :
    Armed udp tcp reads i (s.makes call).kernel (s.makes call).round (s.makes call).made where
  pending descriptor member after :=
    keeps descriptor member after (armed.pending descriptor member after)
  unread member after := (recvmsgsIn_makes other _).trans (armed.unread member after)
  waits := forall_made_makes call armed.waits pending
  once number := (recvmsgsIn_makes other number).trans_le (armed.once number)
  rounds := forall_made_makes call armed.rounds le_rfl

/-- The one `recvmsg` of a round is made by the iteration of the UDP socket. -/
theorem Armed.makes_recvmsg (armed : Armed udp tcp reads i s.kernel s.round s.made)
    (isUdp : i = udp) (isReady : udp ∈ reads) :
    Armed udp tcp reads (i + 1) (s.makes .recvmsg).kernel (s.makes .recvmsg).round
      (s.makes .recvmsg).made where
  pending descriptor member after := by
    have pending := armed.pending descriptor member (Nat.le_of_succ_le after)
    rw [pendingOn, if_neg (Nat.ne_of_gt (isUdp ▸ after))] at pending ⊢
    exact pending
  unread _ after := absurd (isUdp ▸ after) (Nat.not_succ_le_self udp)
  waits := by
    have pending := armed.pending udp isReady isUdp.le
    rw [pendingOn, if_pos rfl] at pending
    exact forall_made_makes .recvmsg armed.waits pending
  once number := by
    have none := armed.unread isReady isUdp.le
    have before := armed.once number
    rw [recvmsgsIn_makes_recvmsg]
    split
    · rename_i same
      rw [← same, none]
    · exact before
  rounds := forall_made_makes .recvmsg armed.rounds le_rfl

end Calls

/-! ## Steps and runs -/

theorem udpTail_of_ne {k : Sockets} {reaches : Bool}
    (own : k.udp ∈ k.reads → k.i ≠ k.udp → reaches = false) (other : k.i ≠ k.udp) :
    udpTail reaches k = [] := by
  apply if_neg
  rintro ⟨isReaching, member⟩
  rw [own member other] at isReaching
  cases isReaching

theorem ArmedAt.visit {listeners : Listeners} {config : Config} {answers : Answers} {s : Process}
    (inv : DescriptorInv listeners s) (armed : ArmedAt (sockets s.daemon) s)
    (isReady : s.daemon.i ∈ s.daemon.reads)
    (fresh : ∀ client ∈ answers.accept, ¬ s.isOpen client.1)
    (own : UdpOwnIteration config s (.loop (.visit answers))) :
    ArmedAt (sockets (SentryPeer.visit config answers s.daemon))
      { (visitCalls config answers s.daemon).foldl Process.makes s with
        daemon := SentryPeer.visit config answers s.daemon } := by
  obtain ⟨moved, move, after⟩ := visit_moves config answers s.daemon
  rw [after]
  have pending := armed.pending (sockets s.daemon).i isReady le_rfl
  have distinct : (sockets s.daemon).udp ≠ (sockets s.daemon).tcp := by
    rw [inv.tracked.udp, inv.tracked.tcp]
    exact listeners.distinct
  have own : (sockets s.daemon).udp ∈ (sockets s.daemon).reads →
      (sockets s.daemon).i ≠ (sockets s.daemon).udp → _ := own
  generalize visitCalls config answers s.daemon = calls at move
  suffices holds : ArmedAt { moved with i := s.daemon.i + 1 } (calls.foldl Process.makes s) from
    holds
  cases move with
  | refused listener =>
      rw [pendingOn, if_neg (listener.trans_ne distinct.symm), if_pos listener] at pending
      refine armed.next.makes _ (by simp) pending fun descriptor _ later => ?_
      exact pendingOn_of_same rfl (.inl (Nat.ne_of_gt (listener ▸ later))) rfl rfl
  | accepted listener client peer isClient =>
      rw [pendingOn, if_neg (listener.trans_ne distinct.symm), if_pos listener] at pending
      rw [udpTail_of_ne own (listener.trans_ne distinct.symm)]
      have free := fresh (client, peer) isClient
      simp only [Process.isOpen, not_or] at free
      obtain ⟨-, notUdp, notTcp, closed⟩ := free
      refine armed.next.makes _ (by simp) pending fun descriptor member later => ?_
      have other := inv.tracked.ne_of_closed (Option.not_isSome_iff_eq_none.mp closed) notUdp notTcp
        member (Nat.le_of_succ_le later)
      exact pendingOn_of_same rfl (.inl (Nat.ne_of_gt (listener ▸ later)))
        (Function.update_of_ne other _ _) (Function.update_of_ne other _ _)
  | datagram isUdp =>
      rcases foldl_udpTail (reachesUdpBranch config answers s.daemon) (sockets s.daemon) s with
        none | ⟨-, member, one⟩
      · rw [none]
        exact armed.next
      · rw [one]
        exact armed.makes_recvmsg isUdp member
  | closed notUdp notTcp =>
      rw [pendingOn, if_neg notUdp, if_neg notTcp] at pending
      have received := armed.next.makes (.recv (sockets s.daemon).i 0) (by simp) pending
        fun descriptor _ later => pendingOn_of_same rfl (.inr rfl)
          (Function.update_of_ne (Nat.ne_of_gt later) _ _) rfl
      exact received.makes _ (by simp) trivial fun descriptor _ _ =>
        pendingOn_of_same rfl (.inr rfl) rfl rfl
  | served notUdp notTcp length =>
      rw [pendingOn, if_neg notUdp, if_neg notTcp] at pending
      rw [udpTail_of_ne own notUdp]
      exact armed.next.makes (.recv (sockets s.daemon).i length) (by simp) pending
        fun descriptor _ later => pendingOn_of_same rfl (.inr rfl)
          (Function.update_of_ne (Nat.ne_of_gt later) _ _) rfl

theorem ArmedAt.step {listeners : Listeners} {config : Config} {s t : Process}
    {event : ProcessEvent} (inv : DescriptorInv listeners s) (armed : ArmedAt (sockets s.daemon) s)
    (reports : SelectReports s event) (own : UdpOwnIteration config s event)
    (move : ProcessMove config s t event) : ArmedAt (sockets t.daemon) t := by
  cases move with
  | quiet event same grows sameRound sameMade =>
      rw [ArmedAt, same, sameRound, sameMade]
      exact ⟨fun descriptor member after =>
          pendingOn_grows grows (armed.pending descriptor member after),
        armed.unread, armed.waits, armed.once, armed.rounds⟩
  | select ready isReady after sameKernel round sameMade =>
      rw [ArmedAt, after, sameKernel, round, sameMade]
      refine ⟨fun descriptor member _ => ?_, fun _ _ => ?_, armed.waits, armed.once, ?_⟩
      · rw [reports] at member
        exact (Finset.mem_filter.mp member).2
      · exact recvmsgsIn_later armed.rounds (Nat.lt_succ_self _)
      · exact fun m member => (armed.rounds m member).trans (Nat.le_succ _)
  | skip after sameKernel sameRound sameMade =>
      rw [ArmedAt, after, sameKernel, sameRound, sameMade]
      exact armed.next
  | visit answers isReady fresh after =>
      subst after
      exact armed.visit inv isReady fresh own

structure WaitInv (listeners : Listeners) (s : Process) : Prop where
  descriptors : DescriptorInv listeners s
  armed : ArmedAt (sockets s.daemon) s

theorem daemon_never_waits (config : Config) (listeners : Listeners) (s : Process)
    (run : Relation.ReflTransGen
      (ProcessMoves config fun s event => SelectReports s event ∧ UdpOwnIteration config s event)
      (processInit listeners) s) : NeverWaits s := by
  have initial : WaitInv listeners (processInit listeners) :=
    ⟨descriptorInv_init listeners, armed_init listeners⟩
  have inv : WaitInv listeners s := by
    refine invariant_of_step ?_ initial run
    rintro a b ⟨event, ⟨reports, own⟩, step⟩ ⟨inv, armed⟩
    have move := processStep_move step
    exact ⟨inv.step move, armed.step inv reports own move⟩
  exact ⟨inv.armed.waits, inv.armed.once⟩

instance (s : Process) (event : ProcessEvent) : Decidable (SelectReports s event) :=
  match event with
  | .loop (.select ready) => inferInstanceAs (Decidable (ready = _))
  | .loop .selectFails | .loop .skip | .loop (.visit _) | .opens _ | .closes _ | .datagram
  | .connection | .data _ _ | .ends _ => isTrue trivial

instance (config : Config) (s : Process) (event : ProcessEvent) :
    Decidable (UdpOwnIteration config s event) :=
  match event with
  | .loop (.visit _) => inferInstanceAs (Decidable (_ → _ → _))
  | .loop .selectFails | .loop .skip | .loop (.select _) | .opens _ | .closes _ | .datagram
  | .connection | .data _ _ | .ends _ => isTrue trivial

def datagramAnswers : Answers :=
  { quietAnswers none with
    recvmsg := some (CStr.lit "OPTIONS").bytes
    pktinfo := some (.lit "192.0.2.2")
    udpNameinfo := some clientA }

def oneByOne : List ProcessEvent :=
  [.datagram, .loop (.select {3}), .loop .skip, .loop .skip, .loop (.visit datagramAnswers),
    .connection, .loop .skip, .loop (.select {4}), .loop .skip, .loop .skip, .loop .skip,
    .loop (.visit { quietAnswers none with accept := some (5, clientB) })]

theorem daemon_never_waits_one_by_one :
    ∃ s, processRun daemonConfig oneByOne (processInit listeners34) = some s ∧
      s.made.map Made.call = [.recvmsg, .accept (some 5)] ∧ NeverWaits s := by
  have calls : (processRun daemonConfig oneByOne (processInit listeners34)).map
      (fun s => s.made.map Made.call) = some [.recvmsg, .accept (some 5)] := by decide
  obtain ⟨s, ran, isCalls⟩ := Option.map_eq_some_iff.mp calls
  exact ⟨s, ran, isCalls, daemon_never_waits daemonConfig listeners34 s
    (processRun_moves (by decide) ran)⟩

/-- A datagram and a client in the same round: the iteration of the TCP listener reads the UDP socket
once more. -/
def together : List ProcessEvent :=
  [.datagram, .connection, .loop (.select {3, 4}), .loop .skip, .loop .skip,
    .loop (.visit datagramAnswers),
    .loop (.visit { datagramAnswers with accept := some (5, clientB) })]

theorem daemon_waits_for_second_datagram :
    ∃ s, Relation.ReflTransGen (ProcessMoves daemonConfig SelectReports) (processInit listeners34) s ∧
      s.made.map (fun m => (m.call, m.kernel.datagrams)) =
        [(.recvmsg, 1), (.accept (some 5), 0), (.recvmsg, 0)] ∧ ¬ NeverWaits s := by
  have calls : (processRun daemonConfig together (processInit listeners34)).map
      (fun s => s.made.map fun m => (m.call, m.kernel.datagrams)) =
        some [(.recvmsg, 1), (.accept (some 5), 0), (.recvmsg, 0)] := by decide
  obtain ⟨s, ran, isCalls⟩ := Option.map_eq_some_iff.mp calls
  refine ⟨s, processRun_moves (by decide) ran, isCalls, fun never => ?_⟩
  have last : (SysCall.recvmsg, 0) ∈ s.made.map fun m => (m.call, m.kernel.datagrams) := by
    rw [isCalls]
    decide
  obtain ⟨m, member, isLast⟩ := List.mem_map.mp last
  obtain ⟨isRecvmsg, noDatagram⟩ := Prod.mk.inj isLast
  have pending := never.pending m member
  rw [isRecvmsg] at pending
  exact absurd pending (Nat.not_lt.mpr noDatagram.le)

end SentryPeer.Proof
