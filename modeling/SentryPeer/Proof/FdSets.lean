import SentryPeer.Source.FdSets
import SentryPeer.Proof.Descriptors

/-!
# Descriptors beyond the sets

The scan stays at or below `max_socket`, which is a listener or a descriptor that `accept` gave. Nothing
else bounds what the macros are called with.
-/

namespace SentryPeer.Proof
open Lib

/-! ## The macros of an iteration -/

theorem clientMacros_descriptor {answers : Answers} {s : Daemon} {call : FdCall}
    (member : call ∈ clientMacros answers s) : call.descriptor = s.i := by
  unfold clientMacros at member
  split at member
  · split at member
    · rw [List.mem_singleton.mp member]
      rfl
    · rw [List.mem_singleton.mp member]
      rfl
    · cases member
  · cases member

theorem clientBranch_udp (config : Config) (answers : Answers) (s : Daemon) :
    (branchState (clientBranch config answers s)).socketListenUdp = s.socketListenUdp := by
  unfold clientBranch
  split
  · rcases handleEvent_state config answers.tcpLog answers.tcpReply s.i (s.peerOf s.i)
      (fun s => { s with
        master := s.master.erase s.i
        peerOf := Function.update s.peerOf s.i none })
      (tcpEvent answers.recv s.tcpClientIpAddressBuffer
        (s.destIpAddressBuffer.use answers.sockname)) s with
      ⟨_, -, state⟩ | ⟨-, state⟩ | ⟨_, _, _, -, state⟩
    · rw [state]
    · rw [state]
    · rw [state]
  · rfl

theorem visitMacros_descriptor {config : Config} {answers : Answers} {s : Daemon} {call : FdCall}
    (member : call ∈ visitMacros config answers s) :
    call.descriptor = s.i ∨ call.descriptor = s.socketListenUdp ∨
      (s.i = s.socketListenTcp ∧ answers.accept.map Prod.fst = some call.descriptor) := by
  simp only [visitMacros, List.mem_cons, List.mem_append] at member
  rcases member with rfl | isAccept | later
  · exact .inl rfl
  · unfold acceptMacros at isAccept
    split at isAccept
    · rename_i listener
      obtain ⟨client, isClient, rfl⟩ := Option.map_eq_some_iff.mp (Option.mem_toList.mp isAccept)
      exact .inr (.inr ⟨listener, by rw [isClient]; rfl⟩)
    · cases isAccept
  · split at later
    · cases later
    · rename_i t accepted
      obtain ⟨-, sameI, sameUdp, -⟩ := acceptBranch_ok accepted
      rcases List.mem_append.mp later with isClient | isUdp
      · exact .inl ((clientMacros_descriptor isClient).trans sameI)
      · split at isUdp
        · cases isUdp
        · rename_i u served
          rw [List.mem_singleton.mp isUdp]
          have sameServed := clientBranch_udp config answers t
          rw [served] at sameServed
          exact .inr (.inl (sameServed.trans sameUdp))

theorem fdSet_mem_visitMacros {config : Config} {answers : Answers} {s : Daemon} {client : Nat}
    (listener : s.i = s.socketListenTcp) (isClient : answers.accept.map Prod.fst = some client) :
    .fdSet client ∈ visitMacros config answers s := by
  obtain ⟨accepted, isAccepted, rfl⟩ := Option.map_eq_some_iff.mp isClient
  refine List.mem_cons_of_mem _ (List.mem_append_left _ ?_)
  rw [acceptMacros, if_pos listener, isAccepted]
  exact List.mem_singleton.mpr rfl

theorem foldl_clientMacros (config : Config) (answers : Answers) (s : Daemon) :
    (clientMacros answers s).foldl FdCall.apply s.master =
      (branchState (clientBranch config answers s)).master := by
  unfold clientMacros clientBranch
  by_cases isClient : s.i ≠ s.socketListenUdp ∧ s.i ≠ s.socketListenTcp
  · rw [if_pos isClient, if_pos isClient]
    cases received : answers.recv with
    | none => rfl
    | some bytes =>
        cases bytes with
        | nil => rfl
        | cons b bs =>
            exact (congrArg Sockets.master (handleEvent_sockets fun absent =>
              absurd absent (tcpEvent_ne_none (List.cons_ne_nil b bs)))).symm
  · rw [if_neg isClient, if_neg isClient]
    rfl

theorem foldl_acceptMacros (answers : Answers) (s : Daemon) :
    (acceptMacros answers s).foldl FdCall.apply s.master =
      (branchState (acceptBranch answers s)).master := by
  unfold acceptMacros acceptBranch
  by_cases listener : s.i = s.socketListenTcp
  · rw [if_pos listener, if_pos listener]
    cases answers.accept with
    | none => rfl
    | some client => cases answers.acceptNameinfo <;> rfl
  · rw [if_neg listener, if_neg listener]
    rfl

/-- The macros are all that changes `master`. -/
theorem foldl_visitMacros (config : Config) (answers : Answers) (s : Daemon) :
    (visitMacros config answers s).foldl FdCall.apply s.master =
      (visit config answers s).master := by
  have after := congrArg Sockets.master (visit_sockets config answers s)
  refine Eq.trans ?_ after.symm
  have accepts := foldl_acceptMacros answers { s with tcpClientIpAddressBuffer := answers.stack }
  unfold visitMacros
  rw [List.foldl_cons, List.foldl_append]
  change List.foldl FdCall.apply (List.foldl FdCall.apply s.master _) _ = _
  rw [accepts]
  cases first : acceptBranch answers { s with tcpClientIpAddressBuffer := answers.stack } with
  | error t => rfl
  | ok t =>
      have serves := foldl_clientMacros config answers t
      change List.foldl FdCall.apply t.master (_ ++ _) = (branchState (clientBranch config answers t)).master
      rw [List.foldl_append, serves]
      cases clientBranch config answers t <;> rfl

/-! ## What `accept` gives -/

theorem accept_notMem_clientCalls {client : Option Nat} (answers : Answers) (s : Daemon) :
    .accept client ∉ clientCalls answers s := by
  unfold clientCalls
  split
  · split <;> simp
  · simp

theorem accept_notMem_udpCalls {client : Option Nat} (s : Daemon) :
    .accept client ∉ udpCalls s := by
  unfold udpCalls
  split <;> simp

theorem accept_mem_visitCalls {config : Config} {answers : Answers} {s : Daemon} {client : Nat} :
    .accept (some client) ∈ visitCalls config answers s ↔
      s.i = s.socketListenTcp ∧ answers.accept.map Prod.fst = some client := by
  have first : .accept (some client) ∈ acceptCalls answers s ↔
      s.i = s.socketListenTcp ∧ answers.accept.map Prod.fst = some client := by
    unfold acceptCalls
    split
    · rename_i listener
      simp [listener, eq_comm]
    · rename_i other
      simp [other]
  rw [← first]
  constructor
  · intro member
    rcases List.mem_append.mp member with isAccept | later
    · exact isAccept
    · split at later
      · cases later
      · rename_i t accepted
        rcases List.mem_append.mp later with isClient | isUdp
        · exact absurd isClient (accept_notMem_clientCalls answers t)
        · split at isUdp
          · cases isUdp
          · rename_i u served
            exact absurd isUdp (accept_notMem_udpCalls u)
  · exact fun isAccept => List.mem_append_left _ isAccept

theorem SocketMove.udp_maxSocket {answers : Answers} {reaches : Bool} {k moved : Sockets}
    {calls : List SysCall} (move : SocketMove answers reaches k calls moved) :
    moved.udp = k.udp ∧ (moved.maxSocket = k.maxSocket ∨
      ∃ client, (k.i = k.tcp ∧ answers.accept.map Prod.fst = some client) ∧
        moved.maxSocket = max client k.maxSocket) := by
  cases move with
  | accepted listener client peer isClient =>
      exact ⟨rfl, .inr ⟨client, ⟨listener, by rw [isClient]; rfl⟩, rfl⟩⟩
  | refused listener => exact ⟨rfl, .inl rfl⟩
  | datagram isUdp => exact ⟨rfl, .inl rfl⟩
  | closed notUdp notTcp => exact ⟨rfl, .inl rfl⟩
  | served notUdp notTcp length => exact ⟨rfl, .inl rfl⟩

theorem foldl_makes_calls (calls : List SysCall) (s : Process) :
    (calls.foldl Process.makes s).made.map Made.call = s.made.map Made.call ++ calls := by
  induction calls generalizing s with
  | nil => exact (List.append_nil _).symm
  | cons first rest ih =>
      rw [List.foldl_cons, ih, Process.makes, List.map_append, List.append_assoc]
      rfl

/-! ## Runs -/

structure DescriptorsBelow (bound : Nat) (listeners : Listeners) (calls : List SysCall) : Prop where
  udp : listeners.udp < bound
  tcp : listeners.tcp < bound
  accepts : ∀ client, .accept (some client) ∈ calls → client < bound

theorem DescriptorsBelow.of_append {bound : Nat} {listeners : Listeners} {calls later : List SysCall}
    (below : DescriptorsBelow bound listeners (calls ++ later)) :
    DescriptorsBelow bound listeners calls :=
  ⟨below.udp, below.tcp, fun client member => below.accepts client (List.mem_append_left _ member)⟩

structure FdInv (listeners : Listeners) (w : Watched) : Prop where
  udp : w.process.daemon.socketListenUdp = listeners.udp
  listening : .fdSet listeners.udp ∈ w.passed ∧ .fdSet listeners.tcp ∈ w.passed
  accepted : ∀ client, .accept (some client) ∈ w.process.made.map Made.call →
    .fdSet client ∈ w.passed
  bounded : ∀ bound, DescriptorsBelow bound listeners (w.process.made.map Made.call) →
    w.process.daemon.maxSocket < bound ∧ ∀ call ∈ w.passed, call.descriptor < bound

theorem fdInv_init (listeners : Listeners) : FdInv listeners (watchedInit listeners) where
  udp := rfl
  listening := ⟨List.mem_cons_self, List.mem_cons_of_mem _ List.mem_cons_self⟩
  accepted client member := by cases member
  bounded bound below := by
    refine ⟨max_lt below.tcp below.udp, fun call member => ?_⟩
    rcases List.mem_cons.mp member with rfl | member
    · exact below.udp
    · rw [List.mem_singleton.mp member]
      exact below.tcp

/-- What a step may do: call macros on what the scan is at, on the UDP listener and on what `accept`
gives, and move `max_socket` to the last of these. -/
structure FdMove (w : Watched) (process : Process) (macros : List FdCall) (calls : List SysCall) :
    Prop where
  udp : process.daemon.socketListenUdp = w.process.daemon.socketListenUdp
  made : process.made.map Made.call = w.process.made.map Made.call ++ calls
  accepted : ∀ client, .accept (some client) ∈ calls → .fdSet client ∈ macros
  maxSocket : process.daemon.maxSocket = w.process.daemon.maxSocket ∨
    ∃ client, .accept (some client) ∈ calls ∧
      process.daemon.maxSocket = max client w.process.daemon.maxSocket
  macros : ∀ call ∈ macros, call.descriptor ≤ w.process.daemon.maxSocket ∨
    call.descriptor = w.process.daemon.socketListenUdp ∨ .accept (some call.descriptor) ∈ calls

theorem FdInv.move {listeners : Listeners} {w : Watched} {process : Process} {macros : List FdCall}
    {calls : List SysCall} (inv : FdInv listeners w) (move : FdMove w process macros calls) :
    FdInv listeners ⟨process, w.passed ++ macros⟩ where
  udp := move.udp.trans inv.udp
  listening := ⟨List.mem_append_left _ inv.listening.1, List.mem_append_left _ inv.listening.2⟩
  accepted client member := by
    rw [move.made, List.mem_append] at member
    rcases member with old | new
    · exact List.mem_append_left _ (inv.accepted client old)
    · exact List.mem_append_right _ (move.accepted client new)
  bounded bound below := by
    rw [move.made] at below
    obtain ⟨isMax, passed⟩ := inv.bounded bound below.of_append
    have accepts (client : Nat) (member : .accept (some client) ∈ calls) : client < bound :=
      below.accepts client (List.mem_append_right _ member)
    refine ⟨?_, fun call member => ?_⟩
    · rcases move.maxSocket with same | ⟨client, member, raised⟩
      · rw [same]
        exact isMax
      · rw [raised]
        exact max_lt (accepts client member) isMax
    · rcases List.mem_append.mp member with old | new
      · exact passed call old
      · rcases move.macros call new with scanned | isUdp | isClient
        · exact scanned.trans_lt isMax
        · rw [isUdp, inv.udp]
          exact below.udp
        · exact accepts _ isClient

theorem fdMove_scan {w : Watched} {process : Process} {macros : List FdCall}
    (udp : process.daemon.socketListenUdp = w.process.daemon.socketListenUdp)
    (maxSocket : process.daemon.maxSocket = w.process.daemon.maxSocket)
    (made : process.made = w.process.made)
    (scanned : ∀ call ∈ macros, call.descriptor ≤ w.process.daemon.maxSocket) :
    FdMove w process macros [] where
  udp := udp
  made := by rw [made, List.append_nil]
  accepted client member := by cases member
  maxSocket := .inl maxSocket
  macros call member := .inl (scanned call member)

theorem fdMove_quiet {w : Watched} {process : Process}
    (same : sockets process.daemon = sockets w.process.daemon)
    (made : process.made = w.process.made) : FdMove w process [] [] :=
  fdMove_scan (congrArg Sockets.udp same) (congrArg Sockets.maxSocket same) made
    (List.forall_mem_nil _)

theorem daemonStep_scan {config : Config} {action : Action} {s t : Daemon}
    (step : daemonStep config action s = some t)
    (scans : action = .skip ∨ ∃ answers, action = .visit answers) : s.i ≤ s.maxSocket := by
  rcases scans with rfl | ⟨answers, rfl⟩
  · simp only [daemonStep] at step
    split at step
    · split at step
      · rename_i enabled
        exact enabled.1
      · cases step
    · cases step
  · simp only [daemonStep] at step
    split at step
    · split at step
      · rename_i enabled
        exact enabled.1
      · cases step
    · cases step

theorem fdMove_visit {config : Config} {answers : Answers} {w : Watched}
    (inScan : w.process.daemon.i ≤ w.process.daemon.maxSocket) :
    FdMove w { (visitCalls config answers w.process.daemon).foldl Process.makes w.process with
        daemon := visit config answers w.process.daemon }
      (visitMacros config answers w.process.daemon) (visitCalls config answers w.process.daemon) where
  udp := by
    obtain ⟨moved, move, after⟩ := visit_moves config answers w.process.daemon
    exact (congrArg Sockets.udp after).trans move.udp_maxSocket.1
  made := foldl_makes_calls _ _
  accepted client member := by
    obtain ⟨listener, isClient⟩ := accept_mem_visitCalls.mp member
    exact fdSet_mem_visitMacros listener isClient
  maxSocket := by
    obtain ⟨moved, move, after⟩ := visit_moves config answers w.process.daemon
    have isMax : (visit config answers w.process.daemon).maxSocket = moved.maxSocket :=
      congrArg Sockets.maxSocket after
    rcases move.udp_maxSocket.2 with same | ⟨client, isClient, raised⟩
    · exact .inl (isMax.trans same)
    · exact .inr ⟨client, accept_mem_visitCalls.mpr isClient, isMax.trans raised⟩
  macros call member := by
    rcases visitMacros_descriptor member with isI | isUdp | isClient
    · exact .inl (isI ▸ inScan)
    · exact .inr (.inl isUdp)
    · exact .inr (.inr (accept_mem_visitCalls.mpr isClient))

theorem FdInv.step {listeners : Listeners} {config : Config} {w v : Watched}
    (inv : FdInv listeners w) (moves : WatchedMoves config w v) : FdInv listeners v := by
  obtain ⟨event, step⟩ := moves
  obtain ⟨process, stepped, rfl⟩ := Option.map_eq_some_iff.mp step
  cases event with
  | loop action =>
      cases action with
      | select ready =>
          obtain ⟨daemon, ran, rfl⟩ := Option.map_eq_some_iff.mp stepped
          have after := (daemonStep_select ran).2
          exact inv.move (fdMove_scan (congrArg Sockets.udp after) (congrArg Sockets.maxSocket after)
            rfl (List.forall_mem_nil _))
      | selectFails =>
          obtain ⟨daemon, ran, rfl⟩ := Option.map_eq_some_iff.mp stepped
          exact inv.move (fdMove_quiet (daemonStep_selectFails ran) rfl)
      | skip =>
          obtain ⟨daemon, ran, rfl⟩ := Option.map_eq_some_iff.mp stepped
          have after := daemonStep_skip ran
          refine inv.move (fdMove_scan (congrArg Sockets.udp after)
            (congrArg Sockets.maxSocket after) rfl fun call member => ?_)
          rw [List.mem_singleton.mp member]
          exact daemonStep_scan ran (.inl rfl)
      | visit answers =>
          simp only [processStep, loopStep] at stepped
          split at stepped
          · obtain ⟨daemon, ran, rfl⟩ := Option.map_eq_some_iff.mp stepped
            obtain ⟨-, rfl⟩ := daemonStep_visit ran
            exact inv.move (fdMove_visit (daemonStep_scan ran (.inr ⟨answers, rfl⟩)))
          · cases stepped
  | opens descriptor =>
      cases processStep_move stepped with
      | quiet event same grows sameRound sameMade => exact inv.move (fdMove_quiet same sameMade)
  | closes descriptor =>
      cases processStep_move stepped with
      | quiet event same grows sameRound sameMade => exact inv.move (fdMove_quiet same sameMade)
  | datagram => exact inv.move (fdMove_quiet (by cases stepped; rfl) (by cases stepped; rfl))
  | connection => exact inv.move (fdMove_quiet (by cases stepped; rfl) (by cases stepped; rfl))
  | data descriptor length =>
      exact inv.move (fdMove_quiet (by cases stepped; rfl) (by cases stepped; rfl))
  | ends descriptor =>
      exact inv.move (fdMove_quiet (by cases stepped; rfl) (by cases stepped; rfl))

theorem fdInv_of_run {listeners : Listeners} {config : Config} {w : Watched}
    (run : Relation.ReflTransGen (WatchedMoves config) (watchedInit listeners) w) :
    FdInv listeners w :=
  invariant_of_step (fun _ _ moves inv => inv.step moves) (fdInv_init listeners) run

theorem fd_sets_in_bounds_iff (config : Config) (listeners : Listeners) (w : Watched)
    (run : Relation.ReflTransGen (WatchedMoves config) (watchedInit listeners) w) :
    (∀ call ∈ w.passed, call.descriptor < fdSetSize) ↔
      DescriptorsBelow fdSetSize listeners (w.process.made.map Made.call) := by
  have inv := fdInv_of_run run
  constructor
  · intro passed
    exact ⟨passed _ inv.listening.1, passed _ inv.listening.2,
      fun client member => passed _ (inv.accepted client member)⟩
  · exact fun below => (inv.bounded fdSetSize below).2

def watchedRun (config : Config) (events : List ProcessEvent) (w : Watched) : Option Watched :=
  events.foldlM (watchedStep config) w

theorem watchedRun_moves {config : Config} {events : List ProcessEvent} {w v : Watched}
    (ran : watchedRun config events w = some v) :
    Relation.ReflTransGen (WatchedMoves config) w v := by
  induction events generalizing w with
  | nil =>
      cases ran
      exact .refl
  | cons event rest ih =>
      obtain ⟨u, stepped, ran⟩ := Option.bind_eq_some_iff.mp ran
      exact .head ⟨event, stepped⟩ (ih ran)

def firstClient : List ProcessEvent :=
  [.opens 0, .opens 1, .opens 2, .connection, .loop (.select {4}), .loop .skip, .loop .skip,
    .loop .skip, .loop (.visit { quietAnswers none with accept := some (5, clientA) })]

theorem fd_sets_first_client :
    ∃ w, watchedRun daemonConfig firstClient (watchedInit listeners34) = some w ∧
      w.process.made.map Made.call = [.accept (some 5)] ∧
      ∀ call ∈ w.passed, call.descriptor < fdSetSize := by
  have final : (watchedRun daemonConfig firstClient (watchedInit listeners34)).map
      (fun w => w.process.made.map Made.call) = some [.accept (some 5)] := by decide
  obtain ⟨w, ran, calls⟩ := Option.map_eq_some_iff.mp final
  refine ⟨w, ran, calls, (fd_sets_in_bounds_iff daemonConfig listeners34 w (watchedRun_moves ran)).mpr ?_⟩
  rw [calls]
  refine ⟨by decide, by decide, fun client member => ?_⟩
  cases List.mem_singleton.mp member
  decide

/-! ## A thousand idle clients -/

/-- So many clients are connected and silent, on the descriptors from 5 on; the scan is at `i`. -/
structure Idle (n i : Nat) (reads : Finset Nat) (w : Watched) : Prop where
  status : w.process.daemon.status = .running
  udp : w.process.daemon.socketListenUdp = 3
  tcp : w.process.daemon.socketListenTcp = 4
  maxSocket : w.process.daemon.maxSocket = 4 + n
  i : w.process.daemon.i = i
  reads : w.process.daemon.reads = reads
  master : 4 ∈ w.process.daemon.master
  others : w.process.kernel.others = {0, 1, 2}
  connections : ∀ d, 5 + n ≤ d → w.process.kernel.connections d = none
  peers : ∀ d, 5 + n ≤ d → w.process.daemon.peerOf d = none

section Enabled
variable (config : Config) {w : Watched} (status : w.process.daemon.status = .running)
include status

theorem watchedStep_select_eq {ready : Finset Nat}
    (enabled : w.process.daemon.maxSocket < w.process.daemon.i ∧ ready ⊆ w.process.daemon.master) :
    watchedStep config w (.loop (.select ready)) = some
      ⟨{ w.process with
          daemon := { w.process.daemon with
            reads := ready, i := 1, destIpAddressBuffer := .null }
          round := ⟨w.process.round.number + 1, w.process.daemon.master, ready,
            w.process.kernel.connections⟩ }, w.passed ++ []⟩ := by
  simp only [watchedStep, processStep, loopStep, daemonStep, if_pos status, if_pos enabled]
  rfl

theorem watchedStep_skip_eq (enabled : w.process.daemon.i ≤ w.process.daemon.maxSocket ∧
      w.process.daemon.i ∉ w.process.daemon.reads) :
    watchedStep config w (.loop .skip) = some
      ⟨{ w.process with daemon := { w.process.daemon with i := w.process.daemon.i + 1 } },
        w.passed ++ [.fdIsset w.process.daemon.i]⟩ := by
  simp only [watchedStep, processStep, loopStep, daemonStep, if_pos status, if_pos enabled]
  rfl

theorem watchedStep_visit_eq {answers : Answers}
    (fresh : ∀ client ∈ answers.accept, ¬ w.process.isOpen client.1)
    (enabled : w.process.daemon.i ≤ w.process.daemon.maxSocket ∧
      w.process.daemon.i ∈ w.process.daemon.reads ∧ answers.possible w.process.daemon) :
    watchedStep config w (.loop (.visit answers)) = some
      ⟨{ (visitCalls config answers w.process.daemon).foldl Process.makes w.process with
          daemon := visit config answers w.process.daemon },
        w.passed ++ visitMacros config answers w.process.daemon⟩ := by
  simp only [watchedStep, processStep, loopStep, if_pos fresh, daemonStep, if_pos status,
    if_pos enabled]
  rfl

end Enabled

theorem visit_accepts (config : Config) {s : Daemon} (listener : s.i = s.socketListenTcp)
    (noDatagram : s.socketListenUdp ∉ s.reads) (client : Nat) (peer : CStr) :
    visit config { quietAnswers none with accept := some (client, peer) } s = { s with
      tcpClientIpAddressBuffer := some peer
      master := insert client s.master
      maxSocket := max client s.maxSocket
      peerOf := Function.update s.peerOf client (some peer)
      lastAccept := some client
      i := s.i + 1 } ∧
    visitCalls config { quietAnswers none with accept := some (client, peer) } s =
      [.accept (some client)] := by
  constructor
  · simp [visit, acceptBranch, clientBranch, udpBranch, listener, noDatagram, quietAnswers, bind,
      Except.bind]
  · simp [visitCalls, acceptCalls, clientCalls, udpCalls, acceptBranch, clientBranch, listener,
      noDatagram, quietAnswers]

section Idle
variable {n i : Nat} {reads : Finset Nat} {w : Watched}

theorem Idle.select (idle : Idle n (5 + n) reads w) :
    ∃ v, WatchedMoves daemonConfig w v ∧ Idle n 1 {4} v := by
  have enabled : w.process.daemon.maxSocket < w.process.daemon.i ∧ {4} ⊆ w.process.daemon.master := by
    rw [idle.maxSocket, idle.i, Finset.singleton_subset_iff]
    exact ⟨by omega, idle.master⟩
  refine ⟨_, ⟨_, watchedStep_select_eq daemonConfig idle.status enabled⟩, ?_⟩
  exact ⟨idle.status, idle.udp, idle.tcp, idle.maxSocket, rfl, rfl, idle.master, idle.others,
    idle.connections, idle.peers⟩

theorem Idle.skip (idle : Idle n i {4} w) (inScan : i ≤ 4 + n) (other : i ≠ 4) :
    ∃ v, WatchedMoves daemonConfig w v ∧ Idle n (i + 1) {4} v := by
  have enabled : w.process.daemon.i ≤ w.process.daemon.maxSocket ∧
      w.process.daemon.i ∉ w.process.daemon.reads := by
    rw [idle.maxSocket, idle.i, idle.reads, Finset.mem_singleton]
    exact ⟨inScan, other⟩
  refine ⟨_, ⟨_, watchedStep_skip_eq daemonConfig idle.status enabled⟩, ?_⟩
  exact ⟨idle.status, idle.udp, idle.tcp, idle.maxSocket, congrArg (· + 1) idle.i, idle.reads,
    idle.master, idle.others, idle.connections, idle.peers⟩

theorem Idle.accept (idle : Idle n 4 {4} w) :
    ∃ v, WatchedMoves daemonConfig w v ∧ Idle (n + 1) 5 {4} v ∧ .fdSet (5 + n) ∈ v.passed := by
  have free : ¬ w.process.isOpen (5 + n) := by
    simp only [Process.isOpen, idle.others, idle.udp, idle.tcp, idle.connections (5 + n) le_rfl]
    simp
    omega
  have listener : w.process.daemon.i = w.process.daemon.socketListenTcp := idle.i.trans idle.tcp.symm
  have possible : Answers.possible { quietAnswers none with accept := some (5 + n, clientA) }
      w.process.daemon := by
    refine ⟨?_, ?_, ?_⟩
    · rintro client ⟨⟩
      rw [idle.udp, idle.tcp]
      exact ⟨idle.peers (5 + n) le_rfl, by omega, by omega⟩
    · rintro received ⟨⟩
    · rintro received ⟨⟩
  have enabled : w.process.daemon.i ≤ w.process.daemon.maxSocket ∧
      w.process.daemon.i ∈ w.process.daemon.reads ∧
      Answers.possible { quietAnswers none with accept := some (5 + n, clientA) }
        w.process.daemon := by
    refine ⟨?_, ?_, possible⟩
    · rw [idle.maxSocket, idle.i]
      omega
    · rw [idle.i, idle.reads]
      exact Finset.mem_singleton_self 4
  refine ⟨_, ⟨_, watchedStep_visit_eq daemonConfig idle.status ?_ enabled⟩, ?_, ?_⟩
  · rintro client ⟨⟩
    exact free
  · have noDatagram : w.process.daemon.socketListenUdp ∉ w.process.daemon.reads := by
      rw [idle.udp, idle.reads]
      decide
    obtain ⟨visited, calls⟩ := visit_accepts daemonConfig listener noDatagram (5 + n) clientA
    rw [visited, calls]
    refine ⟨idle.status, idle.udp, idle.tcp, ?_, congrArg (· + 1) idle.i, idle.reads,
      Finset.mem_insert_of_mem idle.master, idle.others, fun d above => ?_, fun d above => ?_⟩
    · show max (5 + n) w.process.daemon.maxSocket = 4 + (n + 1)
      rw [idle.maxSocket]
      omega
    · exact (Function.update_of_ne (by omega) _ _).trans (idle.connections d (by omega))
    · exact (Function.update_of_ne (by omega) _ _).trans (idle.peers d (by omega))
  · exact List.mem_append_right _ (fdSet_mem_visitMacros listener rfl)

theorem Idle.skips (k : Nat) (idle : Idle n i {4} w) (inScan : i + k ≤ 5 + n)
    (other : 4 < i ∨ i + k ≤ 4) :
    ∃ v, Relation.ReflTransGen (WatchedMoves daemonConfig) w v ∧ Idle n (i + k) {4} v := by
  induction k with
  | zero => exact ⟨w, .refl, idle⟩
  | succ k ih =>
      obtain ⟨v, run, reached⟩ := ih (by omega) (by omega)
      obtain ⟨u, move, skipped⟩ := reached.skip (by omega) (by omega)
      exact ⟨u, run.tail move, skipped⟩

theorem Idle.round (idle : Idle n (5 + n) reads w) :
    ∃ v, Relation.ReflTransGen (WatchedMoves daemonConfig) w v ∧ Idle (n + 1) 5 {4} v ∧
      .fdSet (5 + n) ∈ v.passed := by
  obtain ⟨first, selects, selected⟩ := idle.select
  obtain ⟨second, scans, scanned⟩ := selected.skips 3 (by omega) (by omega)
  obtain ⟨v, accepts, accepted⟩ := scanned.accept
  exact ⟨v, (Relation.ReflTransGen.head selects scans).tail accepts, accepted⟩

end Idle

/-- The loop before its first round; the standard streams have the lowest descriptors. -/
def standardStreams : Watched :=
  ⟨{ processInit listeners34 with
    kernel := { (processInit listeners34).kernel with others := {2, 1, 0} } },
    (watchedInit listeners34).passed⟩

theorem idle_reached (n : Nat) :
    ∃ reads w, Relation.ReflTransGen (WatchedMoves daemonConfig) (watchedInit listeners34) w ∧
      Idle n (5 + n) reads w := by
  induction n with
  | zero =>
      have opened : watchedRun daemonConfig [.opens 0, .opens 1, .opens 2]
          (watchedInit listeners34) = some standardStreams := rfl
      refine ⟨∅, _, watchedRun_moves opened, ?_⟩
      exact ⟨rfl, rfl, rfl, rfl, rfl, rfl, by decide, by decide, fun _ _ => rfl, fun _ _ => rfl⟩
  | succ n ih =>
      obtain ⟨reads, w, run, idle⟩ := ih
      obtain ⟨v, round, accepted, -⟩ := idle.round
      obtain ⟨u, scans, scanned⟩ := accepted.skips (n + 1) (by omega) (by omega)
      exact ⟨{4}, u, (run.trans round).trans scans, scanned⟩

/-- The thousand and twentieth client that connects and sends nothing gets the descriptor 1024. -/
theorem fd_sets_thousand_idle_clients :
    ∃ w, Relation.ReflTransGen (WatchedMoves daemonConfig) (watchedInit listeners34) w ∧
      ¬ ∀ call ∈ w.passed, call.descriptor < fdSetSize := by
  obtain ⟨reads, w, run, idle⟩ := idle_reached 1019
  obtain ⟨v, round, -, passed⟩ := idle.round
  refine ⟨v, run.trans round, fun below => ?_⟩
  exact absurd (below _ passed) (Nat.lt_irrefl 1024)

end SentryPeer.Proof
