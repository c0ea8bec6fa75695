import SentryPeer.Proof.SipDaemon
import SentryPeer.Source.Descriptors

/-!
# The bookkeeping of the descriptors

`master` is changed while a copy of it is scanned, and a descriptor that is closed in a round may be
given out again in the same round. A descriptor of the copy that the scan has not reached yet is not
closed by anything but its own iteration, so it still is what `select` reported.
-/

namespace SentryPeer.Proof
open Lib

/-! ## What an iteration does -/

structure Sockets where
  udp : Nat
  tcp : Nat
  master : Finset Nat
  reads : Finset Nat
  maxSocket : Nat
  i : Nat
  peerOf : Nat → Option CStr

def sockets (s : Daemon) : Sockets :=
  ⟨s.socketListenUdp, s.socketListenTcp, s.master, s.reads, s.maxSocket, s.i, s.peerOf⟩

def reachesUdpBranch (config : Config) (answers : Answers) (s : Daemon) : Bool :=
  match acceptBranch answers { s with tcpClientIpAddressBuffer := answers.stack } >>=
      clientBranch config answers with
  | .ok _ => true
  | .error _ => false

def udpTail (reaches : Bool) (s : Sockets) : List SysCall :=
  if reaches = true ∧ s.udp ∈ s.reads then [.recvmsg] else []

/-- The calls of an iteration and the sockets after it, apart from the scan variable. -/
inductive SocketMove (answers : Answers) (reaches : Bool) (s : Sockets) :
    List SysCall → Sockets → Prop
  | refused (listener : s.i = s.tcp) : SocketMove answers reaches s [.accept none] s
  | accepted (listener : s.i = s.tcp) (client : Nat) (peer : CStr)
      (isClient : answers.accept = some (client, peer)) :
      SocketMove answers reaches s (.accept (some client) :: udpTail reaches s)
        { s with
          master := insert client s.master
          maxSocket := max client s.maxSocket
          peerOf := Function.update s.peerOf client (some peer) }
  | datagram (isUdp : s.i = s.udp) : SocketMove answers reaches s (udpTail reaches s) s
  | closed (notUdp : s.i ≠ s.udp) (notTcp : s.i ≠ s.tcp) :
      SocketMove answers reaches s [.recv s.i 0, .close s.i]
        { s with
          master := s.master.erase s.i
          peerOf := Function.update s.peerOf s.i none }
  | served (notUdp : s.i ≠ s.udp) (notTcp : s.i ≠ s.tcp) (length : Nat) :
      SocketMove answers reaches s (.recv s.i length :: udpTail reaches s) s

theorem handleEvent_sockets {config : Config} {log : Except Abort Exit} {reply : Exit}
    {descriptor : Nat} {peer : Option CStr} {noEvent : Daemon → Daemon}
    {event : Except Abort (Option SipMessageEvent)} {s : Daemon}
    (same : event = .ok none → sockets (noEvent s) = sockets s) :
    sockets (branchState (handleEvent config log reply descriptor peer noEvent event s)) =
      sockets s := by
  rcases handleEvent_state config log reply descriptor peer noEvent event s with
    ⟨_, -, state⟩ | ⟨isNone, state⟩ | ⟨_, _, _, -, state⟩
  · rw [state]
    rfl
  · rw [state]
    exact same isNone
  · rw [state]
    rfl

theorem udpBranch_sockets (config : Config) (answers : Answers) (s : Daemon) :
    sockets (branchState (udpBranch config answers s)) = sockets s := by
  unfold udpBranch
  split
  · exact handleEvent_sockets fun _ => rfl
  · rfl

theorem tcpEvent_ne_none {received : List UInt8} (data : received ≠ []) {client : Option CStr}
    {dest : Except Abort (Option CStr)} : tcpEvent (some received) client dest ≠ .ok none := by
  obtain ⟨b, bs, rfl⟩ := List.exists_cons_of_ne_nil data
  intro absent
  simp only [tcpEvent] at absent
  obtain ⟨destIp, -, absent⟩ := bind_eq_ok.mp absent
  cases destIp with
  | none => cases absent
  | some destIp =>
      obtain ⟨packet, -, absent⟩ := bind_eq_ok.mp absent
      cases client with
      | none => cases absent
      | some client => cases absent

theorem bind_udpBranch_sockets (config : Config) (answers : Answers) (first : Branch) :
    sockets (branchState (first >>= udpBranch config answers)) = sockets (branchState first) := by
  cases first with
  | error s => rfl
  | ok s => exact udpBranch_sockets config answers s

theorem visit_sockets (config : Config) (answers : Answers) (s : Daemon) :
    sockets (visit config answers s) =
      { sockets (branchState (acceptBranch answers
          { s with tcpClientIpAddressBuffer := answers.stack } >>= clientBranch config answers))
        with i := s.i + 1 } := by
  have position := body_i config answers { s with tcpClientIpAddressBuffer := answers.stack }
  change sockets { branchState _ with i := (branchState _).i + 1 } = _
  rw [position, ← bind_udpBranch_sockets config answers]
  rfl

theorem udpTail_false (s : Sockets) : udpTail false s = [] := by
  simp [udpTail]

theorem udpTail_true (s : Daemon) : udpTail true (sockets s) = udpCalls s := by
  simp only [udpTail, sockets, true_and, udpCalls]

theorem clientBranch_listener (config : Config) (answers : Answers) {s : Daemon}
    (listener : s.i = s.socketListenUdp ∨ s.i = s.socketListenTcp) :
    clientBranch config answers s = .ok s ∧ clientCalls answers s = [] := by
  have idle : ¬ (s.i ≠ s.socketListenUdp ∧ s.i ≠ s.socketListenTcp) := by
    rintro ⟨notUdp, notTcp⟩
    exact listener.elim notUdp notTcp
  rw [clientBranch, if_neg idle, clientCalls, if_neg idle]
  exact ⟨rfl, rfl⟩

structure Iteration (config : Config) (answers : Answers) (s : Daemon) (calls : List SysCall)
    (reaches : Bool) (last : Daemon) : Prop where
  calls : visitCalls config answers s = calls
  reaches : reachesUdpBranch config answers s = reaches
  after : sockets (visit config answers s) = { sockets last with i := s.i + 1 }

section Moves
variable {config : Config} {answers : Answers} {s t u : Daemon}

theorem iteration_refused
    (first : acceptBranch answers { s with tcpClientIpAddressBuffer := answers.stack } = .error t) :
    Iteration config answers s (acceptCalls answers s) false t where
  calls := by
    rw [visitCalls, first, List.append_nil]
    rfl
  reaches := by
    rw [reachesUdpBranch, first]
    rfl
  after := by
    rw [visit_sockets, first]
    rfl

theorem iteration_left
    (first : acceptBranch answers { s with tcpClientIpAddressBuffer := answers.stack } = .ok t)
    (second : clientBranch config answers t = .error u) :
    Iteration config answers s (acceptCalls answers s ++ clientCalls answers t) false u where
  calls := by
    rw [visitCalls, first]
    dsimp only
    rw [second, List.append_nil]
    rfl
  reaches := by
    have both : acceptBranch answers { s with tcpClientIpAddressBuffer := answers.stack } >>=
        clientBranch config answers = .error u := by
      rw [first]
      exact second
    rw [reachesUdpBranch, both]
  after := by
    rw [visit_sockets, first]
    change { sockets (branchState (clientBranch config answers t)) with i := s.i + 1 } = _
    rw [second]
    rfl

theorem iteration_through
    (first : acceptBranch answers { s with tcpClientIpAddressBuffer := answers.stack } = .ok t)
    (second : clientBranch config answers t = .ok u) :
    Iteration config answers s
      (acceptCalls answers s ++ (clientCalls answers t ++ udpCalls u)) true u where
  calls := by
    rw [visitCalls, first]
    dsimp only
    rw [second]
    rfl
  reaches := by
    have both : acceptBranch answers { s with tcpClientIpAddressBuffer := answers.stack } >>=
        clientBranch config answers = .ok u := by
      rw [first]
      exact second
    rw [reachesUdpBranch, both]
  after := by
    rw [visit_sockets, first]
    change { sockets (branchState (clientBranch config answers t)) with i := s.i + 1 } = _
    rw [second]
    rfl

def VisitMoves (config : Config) (answers : Answers) (s : Daemon) : Prop :=
  ∃ moved, SocketMove answers (reachesUdpBranch config answers s) (sockets s)
      (visitCalls config answers s) moved ∧
    sockets (visit config answers s) = { moved with i := s.i + 1 }

theorem Iteration.moves {calls : List SysCall} {reaches : Bool} {last : Daemon}
    (iteration : Iteration config answers s calls reaches last)
    (moved : SocketMove answers reaches (sockets s) calls (sockets last)) :
    VisitMoves config answers s := by
  refine ⟨sockets last, ?_, iteration.after⟩
  rw [iteration.calls, iteration.reaches]
  exact moved

theorem visit_moves_tcp (listener : s.i = s.socketListenTcp) : VisitMoves config answers s := by
  have calls : acceptCalls answers s = [.accept (answers.accept.map Prod.fst)] := if_pos listener
  cases accepted : answers.accept with
  | none =>
      have first : acceptBranch answers { s with tcpClientIpAddressBuffer := answers.stack } =
          .error { s with tcpClientIpAddressBuffer := answers.stack } := by
        rw [acceptBranch, if_pos listener, accepted]
      apply (iteration_refused first).moves
      rw [calls, accepted]
      exact .refused listener
  | some connection =>
      obtain ⟨client, peer⟩ := connection
      cases nameinfo : answers.acceptNameinfo with
      | false =>
          have first : acceptBranch answers { s with tcpClientIpAddressBuffer := answers.stack } =
              .error { withClient s client peer with
                tcpClientIpAddressBuffer := answers.stack
                status := .exited } := by
            rw [acceptBranch, if_pos listener, accepted]
            dsimp only
            rw [nameinfo]
            rfl
          apply (iteration_refused first).moves
          rw [calls, accepted, ← udpTail_false (sockets s)]
          exact @SocketMove.accepted answers false (sockets s) listener client peer accepted
      | true =>
          have first : acceptBranch answers { s with tcpClientIpAddressBuffer := answers.stack } =
              .ok { withClient s client peer with tcpClientIpAddressBuffer := some peer } := by
            rw [acceptBranch, if_pos listener, accepted]
            dsimp only
            rw [nameinfo]
            rfl
          obtain ⟨passes, noCalls⟩ := clientBranch_listener config answers
            (s := { withClient s client peer with tcpClientIpAddressBuffer := some peer })
            (.inr listener)
          apply (iteration_through first passes).moves
          rw [calls, accepted, noCalls]
          have moved := @SocketMove.accepted answers true (sockets s) listener client peer accepted
          rw [udpTail_true] at moved
          exact moved

theorem visit_moves_udp (other : s.i ≠ s.socketListenTcp) (isUdp : s.i = s.socketListenUdp) :
    VisitMoves config answers s := by
  have first : acceptBranch answers { s with tcpClientIpAddressBuffer := answers.stack } =
      .ok { s with tcpClientIpAddressBuffer := answers.stack } := if_neg other
  obtain ⟨passes, noCalls⟩ := clientBranch_listener config answers
    (s := { s with tcpClientIpAddressBuffer := answers.stack }) (.inl isUdp)
  apply (iteration_through first passes).moves
  rw [acceptCalls, if_neg other, noCalls]
  have moved := @SocketMove.datagram answers true (sockets s) isUdp
  rw [udpTail_true] at moved
  exact moved

theorem visit_moves_served (notUdp : s.i ≠ s.socketListenUdp) (notTcp : s.i ≠ s.socketListenTcp)
    {received : List UInt8} (isReceived : answers.recv = some received) (data : received ≠ []) :
    VisitMoves config answers s := by
  have first : acceptBranch answers { s with tcpClientIpAddressBuffer := answers.stack } =
      .ok { s with tcpClientIpAddressBuffer := answers.stack } := if_neg notTcp
  have accepts : acceptCalls answers s = [] := if_neg notTcp
  have calls : clientCalls answers { s with tcpClientIpAddressBuffer := answers.stack } =
      [.recv s.i received.length] := by
    obtain ⟨b, bs, rfl⟩ := List.exists_cons_of_ne_nil data
    rw [clientCalls, if_pos ⟨notUdp, notTcp⟩, isReceived]
  have same : sockets (branchState (clientBranch config answers
      { s with tcpClientIpAddressBuffer := answers.stack })) = sockets s := by
    rw [clientBranch, if_pos ⟨notUdp, notTcp⟩, isReceived]
    exact handleEvent_sockets fun absent => absurd absent (tcpEvent_ne_none data)
  cases second : clientBranch config answers
      { s with tcpClientIpAddressBuffer := answers.stack } with
  | error u =>
      rw [second] at same
      replace same : sockets u = sockets s := same
      apply (iteration_left first second).moves
      rw [accepts, calls, same, List.nil_append, ← udpTail_false (sockets s)]
      exact @SocketMove.served answers false (sockets s) notUdp notTcp received.length
  | ok u =>
      rw [second] at same
      replace same : sockets u = sockets s := same
      apply (iteration_through first second).moves
      rw [accepts, calls, ← udpTail_true, same, List.nil_append]
      exact @SocketMove.served answers true (sockets s) notUdp notTcp received.length

theorem visit_moves_closed (notUdp : s.i ≠ s.socketListenUdp) (notTcp : s.i ≠ s.socketListenTcp)
    (noData : answers.recv = none ∨ answers.recv = some []) : VisitMoves config answers s := by
  have first : acceptBranch answers { s with tcpClientIpAddressBuffer := answers.stack } =
      .ok { s with tcpClientIpAddressBuffer := answers.stack } := if_neg notTcp
  have calls : clientCalls answers { s with tcpClientIpAddressBuffer := answers.stack } =
      [.recv s.i 0, .close s.i] := by
    rw [clientCalls, if_pos ⟨notUdp, notTcp⟩]
    rcases noData with none | empty
    · rw [none]
    · rw [empty]
  have second : clientBranch config answers { s with tcpClientIpAddressBuffer := answers.stack } =
      .error { s with
        tcpClientIpAddressBuffer := answers.stack
        master := s.master.erase s.i
        peerOf := Function.update s.peerOf s.i none } := by
    rw [clientBranch, if_pos ⟨notUdp, notTcp⟩]
    rcases noData with none | empty
    · rw [none]
      rfl
    · rw [empty]
      rfl
  apply (iteration_left first second).moves
  rw [calls, acceptCalls, if_neg notTcp]
  exact @SocketMove.closed answers false (sockets s) notUdp notTcp

theorem visit_moves (config : Config) (answers : Answers) (s : Daemon) :
    VisitMoves config answers s := by
  by_cases listener : s.i = s.socketListenTcp
  · exact visit_moves_tcp listener
  · by_cases isUdp : s.i = s.socketListenUdp
    · exact visit_moves_udp listener isUdp
    · cases received : answers.recv with
      | none => exact visit_moves_closed isUdp listener (.inl received)
      | some bytes =>
          by_cases empty : bytes = []
          · exact visit_moves_closed isUdp listener (.inr (empty ▸ received))
          · exact visit_moves_served isUdp listener received empty

end Moves

/-! ## What a step of the process does -/

structure KernelGrows (before after : Kernel) : Prop where
  connections : after.connections = before.connections
  waiting : before.waiting ≤ after.waiting
  datagrams : before.datagrams ≤ after.datagrams
  received : ∀ descriptor, before.received descriptor ≤ after.received descriptor
  endOfStream : ∀ descriptor, before.endOfStream descriptor = true →
    after.endOfStream descriptor = true

theorem KernelGrows.refl (kernel : Kernel) : KernelGrows kernel kernel :=
  ⟨rfl, le_rfl, le_rfl, fun _ => le_rfl, fun _ ended => ended⟩

inductive ProcessMove (config : Config) (s t : Process) : ProcessEvent → Prop
  | quiet (event : ProcessEvent) (same : sockets t.daemon = sockets s.daemon)
      (grows : KernelGrows s.kernel t.kernel) (sameRound : t.round = s.round)
      (sameMade : t.made = s.made) : ProcessMove config s t event
  | select (ready : Finset Nat) (isReady : ready ⊆ s.daemon.master)
      (after : sockets t.daemon = { sockets s.daemon with reads := ready, i := 1 })
      (sameKernel : t.kernel = s.kernel)
      (round : t.round = ⟨s.round.number + 1, s.daemon.master, ready, s.kernel.connections⟩)
      (sameMade : t.made = s.made) : ProcessMove config s t (.loop (.select ready))
  | skip (after : sockets t.daemon = { sockets s.daemon with i := s.daemon.i + 1 })
      (sameKernel : t.kernel = s.kernel) (sameRound : t.round = s.round)
      (sameMade : t.made = s.made) : ProcessMove config s t (.loop .skip)
  | visit (answers : Answers) (isReady : s.daemon.i ∈ s.daemon.reads)
      (fresh : ∀ client ∈ answers.accept, ¬ s.isOpen client.1)
      (after : t = { (visitCalls config answers s.daemon).foldl Process.makes s with
        daemon := visit config answers s.daemon }) :
      ProcessMove config s t (.loop (.visit answers))

theorem daemonStep_select {config : Config} {ready : Finset Nat} {s t : Daemon}
    (step : daemonStep config (.select ready) s = some t) :
    ready ⊆ s.master ∧ sockets t = { sockets s with reads := ready, i := 1 } := by
  simp only [daemonStep] at step
  split at step
  · split at step
    · rename_i enabled
      cases step
      exact ⟨enabled.2, rfl⟩
    · cases step
  · cases step

theorem daemonStep_selectFails {config : Config} {s t : Daemon}
    (step : daemonStep config .selectFails s = some t) : sockets t = sockets s := by
  simp only [daemonStep] at step
  split at step
  · split at step
    · cases step
      rfl
    · cases step
  · cases step

theorem daemonStep_skip {config : Config} {s t : Daemon}
    (step : daemonStep config .skip s = some t) : sockets t = { sockets s with i := s.i + 1 } := by
  simp only [daemonStep] at step
  split at step
  · split at step
    · cases step
      rfl
    · cases step
  · cases step

theorem daemonStep_visit {config : Config} {answers : Answers} {s t : Daemon}
    (step : daemonStep config (.visit answers) s = some t) :
    s.i ∈ s.reads ∧ t = visit config answers s := by
  simp only [daemonStep] at step
  split at step
  · split at step
    · rename_i enabled
      cases step
      exact ⟨enabled.2.1, rfl⟩
    · cases step
  · cases step

theorem loopStep_move {config : Config} {s t : Process} {action : Action}
    (step : loopStep config s action = some t) : ProcessMove config s t (.loop action) := by
  cases action with
  | select ready =>
      obtain ⟨daemon, stepped, rfl⟩ := Option.map_eq_some_iff.mp step
      obtain ⟨isReady, after⟩ := daemonStep_select stepped
      exact .select ready isReady after rfl rfl rfl
  | selectFails =>
      obtain ⟨daemon, stepped, rfl⟩ := Option.map_eq_some_iff.mp step
      exact .quiet _ (daemonStep_selectFails stepped) (.refl _) rfl rfl
  | skip =>
      obtain ⟨daemon, stepped, rfl⟩ := Option.map_eq_some_iff.mp step
      exact .skip (daemonStep_skip stepped) rfl rfl rfl
  | visit answers =>
      simp only [loopStep] at step
      split at step
      · rename_i fresh
        obtain ⟨daemon, stepped, rfl⟩ := Option.map_eq_some_iff.mp step
        obtain ⟨isReady, rfl⟩ := daemonStep_visit stepped
        exact .visit answers isReady fresh rfl
      · cases step

theorem processStep_move {config : Config} {s t : Process} {event : ProcessEvent}
    (step : processStep config s event = some t) : ProcessMove config s t event := by
  cases event with
  | loop action => exact loopStep_move step
  | opens descriptor =>
      simp only [processStep] at step
      split at step
      · cases step
      · cases step
        exact .quiet _ rfl ⟨rfl, le_rfl, le_rfl, fun _ => le_rfl, fun _ ended => ended⟩ rfl rfl
  | closes descriptor =>
      simp only [processStep] at step
      split at step
      · cases step
        exact .quiet _ rfl ⟨rfl, le_rfl, le_rfl, fun _ => le_rfl, fun _ ended => ended⟩ rfl rfl
      · cases step
  | datagram =>
      cases step
      exact .quiet _ rfl ⟨rfl, le_rfl, Nat.le_succ _, fun _ => le_rfl, fun _ ended => ended⟩ rfl rfl
  | connection =>
      cases step
      exact .quiet _ rfl ⟨rfl, Nat.le_succ _, le_rfl, fun _ => le_rfl, fun _ ended => ended⟩ rfl rfl
  | data descriptor length =>
      cases step
      refine .quiet _ rfl ⟨rfl, le_rfl, le_rfl, fun other => ?_, fun _ ended => ended⟩ rfl rfl
      change _ ≤ Function.update s.kernel.received descriptor _ other
      by_cases same : other = descriptor
      · subst same
        rw [Function.update_self]
        exact Nat.le_add_right _ _
      · rw [Function.update_of_ne same]
  | ends descriptor =>
      cases step
      refine .quiet _ rfl ⟨rfl, le_rfl, le_rfl, fun _ => le_rfl, fun other ended => ?_⟩ rfl rfl
      by_cases same : other = descriptor
      · subst same
        exact Function.update_self _ _ _
      · exact (Function.update_of_ne same _ _).trans ended

/-! ## The invariant -/

/-- The sockets of the loop against the connections that are open in the kernel. -/
structure Tracked (listeners : Listeners) (k : Sockets) (connections : Nat → Option Nat)
    (round : SelectRound) : Prop where
  udp : k.udp = listeners.udp
  tcp : k.tcp = listeners.tcp
  members : ∀ descriptor, descriptor ∈ k.master ↔
    descriptor = k.udp ∨ descriptor = k.tcp ∨ (connections descriptor).isSome = true
  bounded : ∀ descriptor ∈ k.master, descriptor ≤ k.maxSocket
  peers : ∀ descriptor, (k.peerOf descriptor).isSome = (connections descriptor).isSome
  ready : k.reads = round.ready
  selected : round.ready ⊆ round.master
  -- what the scan has not reached yet is what `select` reported
  pending : ∀ descriptor ∈ k.reads, k.i ≤ descriptor →
    descriptor = k.udp ∨ descriptor = k.tcp ∨
      ∃ connection, connections descriptor = some connection ∧
        round.connections descriptor = some connection

/-- A `recv` is on the connection that `select` reported. -/
def RecvAsSelected (m : Made) : Prop :=
  match m.call with
  | .recv descriptor _ =>
      descriptor ∈ m.round.master ∧ descriptor ∈ m.round.ready ∧
        ∃ connection, m.round.connections descriptor = some connection ∧
          m.kernel.connections descriptor = some connection
  | _ => True

structure DescriptorInv (listeners : Listeners) (s : Process) : Prop where
  tracked : Tracked listeners (sockets s.daemon) s.kernel.connections s.round
  recvs : ∀ m ∈ s.made, RecvAsSelected m

theorem descriptorInv_init (listeners : Listeners) :
    DescriptorInv listeners (processInit listeners) where
  tracked := {
    udp := rfl
    tcp := rfl
    members := fun descriptor => by
      simp [processInit, daemonInit, sockets]
    bounded := fun descriptor member => by
      rcases Finset.mem_insert.mp member with rfl | member
      · exact le_max_right _ _
      · rw [Finset.mem_singleton.mp member]
        exact le_max_left _ _
    peers := fun _ => rfl
    ready := rfl
    selected := Finset.Subset.refl _
    pending := fun descriptor member => by cases member }
  recvs m member := by cases member

section Tracked
variable {listeners : Listeners} {k : Sockets} {connections : Nat → Option Nat} {round : SelectRound}

theorem Tracked.next (tracked : Tracked listeners k connections round) :
    Tracked listeners { k with i := k.i + 1 } connections round where
  udp := tracked.udp
  tcp := tracked.tcp
  members := tracked.members
  bounded := tracked.bounded
  peers := tracked.peers
  ready := tracked.ready
  selected := tracked.selected
  pending descriptor member after := tracked.pending descriptor member (Nat.le_of_succ_le after)

/-- A descriptor that is not open is none that the scan still has to get to. -/
theorem Tracked.ne_of_closed (tracked : Tracked listeners k connections round)
    {client descriptor : Nat} (free : connections client = none) (notUdp : client ≠ k.udp)
    (notTcp : client ≠ k.tcp) (member : descriptor ∈ k.reads) (after : k.i ≤ descriptor) :
    descriptor ≠ client := by
  intro same
  subst same
  rcases tracked.pending descriptor member after with isUdp | isTcp | ⟨_, isOpen, -⟩
  · exact notUdp isUdp
  · exact notTcp isTcp
  · rw [free] at isOpen
    cases isOpen

theorem Tracked.accept (tracked : Tracked listeners k connections round) {client : Nat} (number : Nat)
    (peer : CStr) (free : connections client = none) (notUdp : client ≠ k.udp) (notTcp : client ≠ k.tcp) :
    Tracked listeners { k with
        master := insert client k.master
        maxSocket := max client k.maxSocket
        peerOf := Function.update k.peerOf client (some peer) }
      (Function.update connections client (some number)) round where
  udp := tracked.udp
  tcp := tracked.tcp
  members descriptor := by
    rw [Finset.mem_insert]
    by_cases same : descriptor = client
    · simp [same]
    · rw [Function.update_of_ne same, tracked.members descriptor]
      simp only [same, false_or]
  bounded descriptor member := by
    rcases Finset.mem_insert.mp member with rfl | member
    · exact le_max_left _ _
    · exact (tracked.bounded descriptor member).trans (le_max_right _ _)
  peers descriptor := by
    by_cases same : descriptor = client
    · simp [same]
    · simp only [Function.update_of_ne same]
      exact tracked.peers descriptor
  ready := tracked.ready
  selected := tracked.selected
  pending descriptor member after := by
    rw [Function.update_of_ne (tracked.ne_of_closed free notUdp notTcp member after)]
    exact tracked.pending descriptor member after

theorem Tracked.close (tracked : Tracked listeners k connections round) (notUdp : k.i ≠ k.udp)
    (notTcp : k.i ≠ k.tcp) :
    Tracked listeners { k with
        master := k.master.erase k.i
        peerOf := Function.update k.peerOf k.i none
        i := k.i + 1 }
      (Function.update connections k.i none) round where
  udp := tracked.udp
  tcp := tracked.tcp
  members descriptor := by
    rw [Finset.mem_erase, tracked.members descriptor]
    by_cases same : descriptor = k.i
    · simp [same, notUdp, notTcp]
    · rw [Function.update_of_ne same]
      simp only [ne_eq, same, not_false_eq_true, true_and]
  bounded descriptor member := tracked.bounded descriptor (Finset.mem_of_mem_erase member)
  peers descriptor := by
    by_cases same : descriptor = k.i
    · simp [same]
    · simp only [Function.update_of_ne same]
      exact tracked.peers descriptor
  ready := tracked.ready
  selected := tracked.selected
  pending descriptor member after := by
    rw [Function.update_of_ne (Nat.ne_of_gt after)]
    exact tracked.pending descriptor member (Nat.le_of_succ_le after)

theorem Tracked.select (tracked : Tracked listeners k connections round) {ready : Finset Nat} (number : Nat)
    (isReady : ready ⊆ k.master) :
    Tracked listeners { k with reads := ready, i := 1 } connections
      ⟨number, k.master, ready, connections⟩ where
  udp := tracked.udp
  tcp := tracked.tcp
  members := tracked.members
  bounded := tracked.bounded
  peers := tracked.peers
  ready := rfl
  selected := isReady
  pending descriptor member _ := by
    apply ((tracked.members descriptor).mp (isReady member)).imp_right
    apply Or.imp_right
    intro isOpen
    obtain ⟨connection, isConnection⟩ := Option.isSome_iff_exists.mp isOpen
    exact ⟨connection, isConnection, isConnection⟩

theorem Tracked.recv (tracked : Tracked listeners k connections round) (isReady : k.i ∈ k.reads)
    (notUdp : k.i ≠ k.udp) (notTcp : k.i ≠ k.tcp) :
    k.i ∈ round.master ∧ k.i ∈ round.ready ∧
      ∃ connection, round.connections k.i = some connection ∧
        connections k.i = some connection := by
  have inRound : k.i ∈ round.ready := tracked.ready ▸ isReady
  refine ⟨tracked.selected inRound, inRound, ?_⟩
  rcases tracked.pending k.i isReady le_rfl with isUdp | isTcp | ⟨connection, isOpen, wasOpen⟩
  · exact absurd isUdp notUdp
  · exact absurd isTcp notTcp
  · exact ⟨connection, wasOpen, isOpen⟩

end Tracked

/-! ## Steps and runs -/

theorem forall_made_makes {P : Made → Prop} {s : Process} (call : SysCall)
    (before : ∀ m ∈ s.made, P m) (new : P ⟨call, s.kernel, s.round⟩) :
    ∀ m ∈ (s.makes call).made, P m := by
  intro m member
  rcases List.mem_append.mp member with old | isNew
  · exact before m old
  · rw [List.mem_singleton.mp isNew]
    exact new

theorem foldl_udpTail (reaches : Bool) (k : Sockets) (s : Process) :
    (udpTail reaches k).foldl Process.makes s = s ∨
      (reaches = true ∧ k.udp ∈ k.reads ∧
        (udpTail reaches k).foldl Process.makes s = s.makes .recvmsg) := by
  unfold udpTail
  split
  · rename_i both
    exact .inr ⟨both.1, both.2, rfl⟩
  · exact .inl rfl

theorem foldl_udpTail_recvs (reaches : Bool) (k : Sockets) {s : Process}
    (recvs : ∀ m ∈ s.made, RecvAsSelected m) :
    let t := (udpTail reaches k).foldl Process.makes s
    t.kernel.connections = s.kernel.connections ∧ t.round = s.round ∧
      ∀ m ∈ t.made, RecvAsSelected m := by
  rcases foldl_udpTail reaches k s with none | ⟨-, -, one⟩
  · rw [none]
    exact ⟨rfl, rfl, recvs⟩
  · rw [one]
    exact ⟨rfl, rfl, forall_made_makes _ recvs trivial⟩

theorem DescriptorInv.visit {listeners : Listeners} {config : Config} {answers : Answers}
    {s : Process} (inv : DescriptorInv listeners s) (isReady : s.daemon.i ∈ s.daemon.reads)
    (fresh : ∀ client ∈ answers.accept, ¬ s.isOpen client.1) :
    DescriptorInv listeners { (visitCalls config answers s.daemon).foldl Process.makes s with
      daemon := visit config answers s.daemon } := by
  obtain ⟨moved, move, after⟩ := visit_moves config answers s.daemon
  have tracked := inv.tracked
  generalize visitCalls config answers s.daemon = calls at move
  -- the invariant of the result, from the sockets and the kernel that the calls leave
  suffices holds : Tracked listeners { moved with i := s.daemon.i + 1 }
      (calls.foldl Process.makes s).kernel.connections (calls.foldl Process.makes s).round ∧
        ∀ m ∈ (calls.foldl Process.makes s).made, RecvAsSelected m from
    ⟨after ▸ holds.1, holds.2⟩
  cases move with
  | refused => exact ⟨tracked.next, forall_made_makes _ inv.recvs trivial⟩
  | accepted listener client peer isClient =>
      have free := fresh (client, peer) isClient
      simp only [Process.isOpen, not_or] at free
      obtain ⟨-, notUdp, notTcp, closed⟩ := free
      have accepted := (tracked.accept s.kernel.accepts peer
        (Option.not_isSome_iff_eq_none.mp closed) notUdp notTcp).next
      obtain ⟨connections, round, recvs⟩ := foldl_udpTail_recvs
        (reachesUdpBranch config answers s.daemon) (sockets s.daemon)
        (forall_made_makes (.accept (some client)) inv.recvs trivial)
      rw [List.foldl_cons]
      refine ⟨?_, recvs⟩
      rw [connections, round]
      exact accepted
  | datagram isUdp =>
      obtain ⟨connections, round, recvs⟩ := foldl_udpTail_recvs
        (reachesUdpBranch config answers s.daemon) (sockets s.daemon) inv.recvs
      refine ⟨?_, recvs⟩
      rw [connections, round]
      exact tracked.next
  | closed notUdp notTcp =>
      have recvs := forall_made_makes (.recv (sockets s.daemon).i 0) inv.recvs
        (tracked.recv isReady notUdp notTcp)
      exact ⟨tracked.close notUdp notTcp, forall_made_makes _ recvs trivial⟩
  | served notUdp notTcp length =>
      have recvs := forall_made_makes (.recv (sockets s.daemon).i length) inv.recvs
        (tracked.recv isReady notUdp notTcp)
      obtain ⟨connections, round, recvs⟩ := foldl_udpTail_recvs
        (reachesUdpBranch config answers s.daemon) (sockets s.daemon) recvs
      rw [List.foldl_cons]
      refine ⟨?_, recvs⟩
      rw [connections, round]
      exact tracked.next

theorem DescriptorInv.step {listeners : Listeners} {config : Config} {s t : Process}
    {event : ProcessEvent} (inv : DescriptorInv listeners s) (move : ProcessMove config s t event) :
    DescriptorInv listeners t := by
  have tracked := inv.tracked
  cases move with
  | quiet event same grows sameRound sameMade =>
      refine ⟨?_, sameMade ▸ inv.recvs⟩
      rw [same, grows.connections, sameRound]
      exact tracked
  | select ready isReady after sameKernel round sameMade =>
      refine ⟨?_, sameMade ▸ inv.recvs⟩
      rw [after, sameKernel, round]
      exact tracked.select _ isReady
  | skip after sameKernel sameRound sameMade =>
      refine ⟨?_, sameMade ▸ inv.recvs⟩
      rw [after, sameKernel, sameRound]
      exact tracked.next
  | visit answers isReady fresh after =>
      subst after
      exact inv.visit isReady fresh

theorem descriptorInv_of_run {config : Config} {met : Process → ProcessEvent → Prop}
    {listeners : Listeners} {s : Process}
    (run : Relation.ReflTransGen (ProcessMoves config met) (processInit listeners) s) :
    DescriptorInv listeners s := by
  refine invariant_of_step ?_ (descriptorInv_init listeners) run
  rintro a b ⟨event, -, step⟩ inv
  exact inv.step (processStep_move step)

def AtSelect (s : Process) : Prop :=
  s.daemon.status = .running ∧ s.daemon.maxSocket < s.daemon.i

/-- `master` is the listeners and the open connections, and the scan gets to all of it. -/
def MasterExact (listeners : Listeners) (s : Process) : Prop :=
  (∀ descriptor, descriptor ∈ s.daemon.master ↔ descriptor = listeners.udp ∨
    descriptor = listeners.tcp ∨ (s.kernel.connections descriptor).isSome = true) ∧
  ∀ descriptor ∈ s.daemon.master, descriptor ≤ s.daemon.maxSocket

theorem daemon_descriptors (config : Config) (listeners : Listeners) (s : Process)
    (run : Relation.ReflTransGen (ProcessMoves config fun _ _ => True)
      (processInit listeners) s) :
    (AtSelect s → MasterExact listeners s) ∧ ∀ m ∈ s.made, RecvAsSelected m := by
  have inv := descriptorInv_of_run run
  refine ⟨fun _ => ⟨fun descriptor => ?_, inv.tracked.bounded⟩, inv.recvs⟩
  rw [← inv.tracked.udp, ← inv.tracked.tcp]
  exact inv.tracked.members descriptor

def processRun (config : Config) (events : List ProcessEvent) (s : Process) : Option Process :=
  events.foldlM (processStep config) s

def EventsMeet (config : Config) (met : Process → ProcessEvent → Prop) :
    List ProcessEvent → Process → Prop
  | [], _ => True
  | event :: rest, s => met s event ∧
      ∀ t ∈ processStep config s event, EventsMeet config met rest t

instance decideEventsMeet (config : Config) (met : Process → ProcessEvent → Prop)
    [∀ s event, Decidable (met s event)] :
    ∀ events s, Decidable (EventsMeet config met events s)
  | [], _ => isTrue trivial
  | _ :: rest, _ =>
      have (t : Process) : Decidable (EventsMeet config met rest t) :=
        decideEventsMeet config met rest t
      inferInstanceAs (Decidable (_ ∧ _))

theorem processRun_moves {config : Config} {met : Process → ProcessEvent → Prop}
    {events : List ProcessEvent} {s t : Process} (meets : EventsMeet config met events s)
    (ran : processRun config events s = some t) :
    Relation.ReflTransGen (ProcessMoves config met) s t := by
  induction events generalizing s with
  | nil =>
      cases ran
      exact .refl
  | cons event rest ih =>
      rw [processRun, List.foldlM_cons] at ran
      obtain ⟨u, step, ran⟩ := Option.bind_eq_some_iff.mp ran
      exact .head ⟨event, meets.1, step⟩ (ih (meets.2 u step) ran)

/-- A client below the listeners ends its stream, and its descriptor is given out again in the round
that closes it. -/
def reusedInRound : List ProcessEvent :=
  [.connection, .loop (.select {4}), .loop .skip, .loop .skip, .loop .skip,
    .loop (.visit { quietAnswers none with accept := some (2, clientA) }),
    .ends 2, .connection, .loop (.select {2, 4}), .loop .skip, .loop (.visit (quietAnswers none)),
    .loop .skip, .loop (.visit { quietAnswers none with accept := some (2, clientB) })]

def listeners34 : Listeners := ⟨3, 4, by decide⟩

theorem daemon_descriptors_reused :
    ∃ s, processRun daemonConfig reusedInRound (processInit listeners34) = some s ∧
      s.made.map Made.call = [.accept (some 2), .recv 2 0, .close 2, .accept (some 2)] ∧
      AtSelect s ∧ MasterExact listeners34 s ∧ ∀ m ∈ s.made, RecvAsSelected m := by
  have final : (processRun daemonConfig reusedInRound (processInit listeners34)).map
      (fun s => (s.made.map Made.call, s.daemon.status, s.daemon.maxSocket, s.daemon.i)) =
        some ([.accept (some 2), .recv 2 0, .close 2, .accept (some 2)], .running, 4, 5) := by decide
  obtain ⟨s, ran, state⟩ := Option.map_eq_some_iff.mp final
  simp only [Prod.mk.injEq] at state
  obtain ⟨calls, running, maxSocket, position⟩ := state
  have atSelect : AtSelect s := ⟨running, by rw [maxSocket, position]; decide⟩
  obtain ⟨master, recvs⟩ := daemon_descriptors daemonConfig listeners34 s
    (processRun_moves (by decide) ran)
  exact ⟨s, ran, calls, atSelect, master atSelect, recvs⟩

end SentryPeer.Proof
