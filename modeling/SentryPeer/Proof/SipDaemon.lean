import SentryPeer.Proof.Receive
import SentryPeer.Source.Conf

/-!
# Which peer an event is attributed to

The address of a TCP client is kept in one buffer that only `accept` writes. It is the right one for
an event exactly as long as the connection the data came from is the last one accepted.
-/

namespace SentryPeer.Proof
open Lib

def branchState : Branch → Daemon
  | .ok s => s
  | .error s => s

theorem handleEvent_state (config : Config) (log : Except Abort Exit) (reply : Exit)
    (descriptor : Nat) (peer : Option CStr) (noEvent : Daemon → Daemon)
    (event : Except Abort (Option SipMessageEvent)) (s : Daemon) :
    (∃ abort, event = .error abort ∧
      branchState (handleEvent config log reply descriptor peer noEvent event s) =
        { s with status := .aborted abort }) ∨
    (event = .ok none ∧
      branchState (handleEvent config log reply descriptor peer noEvent event s) = noEvent s) ∨
    (∃ built dest status, event = .ok (some built) ∧
      branchState (handleEvent config log reply descriptor peer noEvent event s) =
        { s with
          destIpAddressBuffer := dest
          status := status
          logged := s.logged ++ [⟨descriptor, peer, built⟩] }) := by
  cases event with
  | error abort => exact .inl ⟨abort, rfl, rfl⟩
  | ok event =>
      cases event with
      | none => exact .inr (.inl ⟨rfl, rfl⟩)
      | some built =>
          refine .inr (.inr ⟨built, ?_⟩)
          simp only [handleEvent, logAndReply]
          cases log with
          | error abort => exact ⟨_, _, trivial, rfl⟩
          | ok exit =>
              cases exit with
              | failure => exact ⟨_, s.status, trivial, rfl⟩
              | success =>
                  simp only
                  split_ifs
                  · exact ⟨_, s.status, trivial, rfl⟩
                  · exact ⟨_, s.status, trivial, rfl⟩

theorem tcpEvent_client {recv : Option (List UInt8)} {client : Option CStr}
    {dest : Except Abort (Option CStr)} {event : SipMessageEvent}
    (built : tcpEvent recv client dest = .ok (some event)) :
    event.clientIpAddrStr = client ∧ recv.getD [] ≠ [] := by
  cases recv with
  | none => cases built
  | some received =>
      cases received with
      | nil => cases built
      | cons b bs =>
          refine ⟨?_, List.cons_ne_nil b bs⟩
          simp only [tcpEvent] at built
          obtain ⟨destIp, -, built⟩ := bind_eq_ok.mp built
          cases destIp with
          | none => cases built
          | some destIp =>
              obtain ⟨packet, -, built⟩ := bind_eq_ok.mp built
              cases client with
              | none => cases built
              | some client =>
                  cases built
                  rfl

/-! ## The invariant -/

def Known (s : Daemon) (descriptor : Nat) : Prop :=
  descriptor = s.socketListenUdp ∨ descriptor = s.socketListenTcp ∨
    (s.peerOf descriptor).isSome = true

/-- Events read from a client carry the peer of the connection open on its descriptor. -/
def Attributed (s : Daemon) : Prop :=
  ∀ entry ∈ s.logged, entry.descriptor ≠ s.socketListenUdp →
    ∃ peer, entry.peer = some peer ∧ entry.event.clientIpAddrStr = some peer

/-- The invariant while descriptors up to and including `done` have been visited. -/
structure DaemonInv (done : Nat) (s : Daemon) : Prop where
  opened : ∀ descriptor ∈ s.master, Known s descriptor
  pending : ∀ descriptor ∈ s.reads, done < descriptor → Known s descriptor
  address : ∀ descriptor peer, s.status = .running → s.lastAccept = some descriptor →
    s.peerOf descriptor = some peer → s.tcpClientIpAddressBuffer = some peer
  attributed : Attributed s

theorem daemonInv_init (udp tcp : Nat) : DaemonInv (max tcp udp) (daemonInit udp tcp) where
  opened descriptor member := by
    rcases Finset.mem_insert.mp member with equal | member
    · exact .inl equal
    · exact .inr (.inl (Finset.mem_singleton.mp member))
  pending descriptor member := by cases member
  address descriptor peer _ last := by cases last
  attributed entry member := by cases member

def withClient (s : Daemon) (client : Nat) (peer : CStr) : Daemon :=
  { s with
    master := insert client s.master
    maxSocket := max client s.maxSocket
    peerOf := Function.update s.peerOf client (some peer)
    lastAccept := some client }

theorem known_withClient {s : Daemon} {client descriptor : Nat} {peer : CStr}
    (known : descriptor = client ∨ Known s descriptor) :
    Known (withClient s client peer) descriptor := by
  by_cases same : descriptor = client
  · exact .inr (.inr (by simp [withClient, same]))
  · rcases known with equal | equal | equal | open_
    · exact absurd equal same
    · exact .inl equal
    · exact .inr (.inl equal)
    · exact .inr (.inr (by simpa [withClient, same] using open_))

theorem acceptBranch_inv (answers : Answers) {s : Daemon} {done : Nat} (inv : DaemonInv done s) :
    DaemonInv done (branchState (acceptBranch answers s)) := by
  unfold acceptBranch
  split
  · cases accepted : answers.accept with
    | none => exact inv
    | some client =>
        obtain ⟨client, peer⟩ := client
        have opened (descriptor : Nat) (member : descriptor ∈ insert client s.master) :
            Known (withClient s client peer) descriptor :=
          known_withClient ((Finset.mem_insert.mp member).imp_right (inv.opened descriptor))
        have pending (descriptor : Nat) (member : descriptor ∈ s.reads) (after : done < descriptor) :
            Known (withClient s client peer) descriptor :=
          known_withClient (.inr (inv.pending descriptor member after))
        simp only
        split
        · refine ⟨opened, pending, ?_, inv.attributed⟩
          intro descriptor other _ last current
          cases last
          rw [← current]
          exact (Function.update_self client (some peer) s.peerOf).symm
        · refine ⟨opened, pending, ?_, inv.attributed⟩
          intro descriptor other running
          cases running
  · exact inv

theorem daemonInv_logged {s : Daemon} {done : Nat} {dest : DestIp} {status : Status}
    {logged : List Logged} (inv : DaemonInv done s) (running : s.status = .running)
    (attributed : Attributed { s with logged := logged }) :
    DaemonInv done { s with
      destIpAddressBuffer := dest
      status := status
      logged := logged } where
  opened := inv.opened
  pending := inv.pending
  address descriptor peer _ := inv.address descriptor peer running
  attributed := attributed

theorem attributed_append {s : Daemon} {entry : Logged} (before : Attributed s)
    (new : entry.descriptor ≠ s.socketListenUdp →
      ∃ peer, entry.peer = some peer ∧ entry.event.clientIpAddrStr = some peer) :
    Attributed { s with logged := s.logged ++ [entry] } := by
  intro other member
  rcases List.mem_append.mp member with old | isNew
  · exact before other old
  · rw [List.mem_singleton.mp isNew]
    exact new

/-- What a step has to do for the address to be right: the stack slot of the buffer keeps its
contents, and data is only read from the connection accepted last. -/
def KeepsAddress (action : Action) (s : Daemon) : Prop :=
  match action with
  | .visit answers =>
      answers.stack = s.tcpClientIpAddressBuffer ∧
        (s.i ≠ s.socketListenUdp → s.i ≠ s.socketListenTcp → answers.recv.getD [] ≠ [] →
          s.lastAccept = some s.i)
  | _ => True

instance (action : Action) (s : Daemon) : Decidable (KeepsAddress action s) :=
  match action with
  | .visit _ => inferInstanceAs (Decidable (_ ∧ _))
  | .select _ | .selectFails | .skip => isTrue trivial

theorem clientBranch_inv {config : Config} {answers : Answers} {s : Daemon}
    (inv : DaemonInv s.i s) (running : s.status = .running)
    (current : Known s s.i)
    (last : s.i ≠ s.socketListenUdp → s.i ≠ s.socketListenTcp →
      answers.recv.getD [] ≠ [] → s.lastAccept = some s.i) :
    DaemonInv s.i (branchState (clientBranch config answers s)) := by
  unfold clientBranch
  split
  · rename_i isClient
    obtain ⟨peer, open_⟩ : ∃ peer, s.peerOf s.i = some peer := by
      rcases current with equal | equal | open_
      · exact absurd equal isClient.1
      · exact absurd equal isClient.2
      · exact Option.isSome_iff_exists.mp open_
    rcases handleEvent_state config answers.tcpLog answers.tcpReply s.i (s.peerOf s.i)
      (fun s => { s with
        master := s.master.erase s.i
        peerOf := Function.update s.peerOf s.i none })
      (tcpEvent answers.recv s.tcpClientIpAddressBuffer
        (s.destIpAddressBuffer.use answers.sockname)) s with
      ⟨abort, -, state⟩ | ⟨-, state⟩ | ⟨event, dest, status, built, state⟩
    · rw [state]
      exact daemonInv_logged inv running inv.attributed
    · rw [state]
      have keeps {descriptor : Nat} (other : descriptor ≠ s.i) (known : Known s descriptor) :
          Known { s with
            master := s.master.erase s.i
            peerOf := Function.update s.peerOf s.i none } descriptor := by
        simpa [Known, other] using known
      refine ⟨?_, ?_, ?_, inv.attributed⟩
      · intro descriptor member
        obtain ⟨other, member⟩ := Finset.mem_erase.mp member
        exact keeps other (inv.opened descriptor member)
      · intro descriptor member after
        exact keeps (Nat.ne_of_gt after) (inv.pending descriptor member after)
      · intro descriptor other stillRunning lastIs opened
        by_cases same : descriptor = s.i
        · simp [same] at opened
        · exact inv.address descriptor other running lastIs (by simpa [same] using opened)
    · rw [state]
      obtain ⟨client, data⟩ := tcpEvent_client built
      apply daemonInv_logged inv running
      apply attributed_append inv.attributed
      intro _
      refine ⟨peer, open_, ?_⟩
      rw [client]
      exact inv.address s.i peer running (last isClient.1 isClient.2 data) open_
  · exact inv

theorem udpBranch_inv {config : Config} {answers : Answers} {s : Daemon} {done : Nat}
    (inv : DaemonInv done s) (running : s.status = .running) :
    DaemonInv done (branchState (udpBranch config answers s)) := by
  unfold udpBranch
  split
  · rcases handleEvent_state config answers.udpLog answers.udpReply s.socketListenUdp
      answers.udpNameinfo (fun s => { s with status := .exited })
      (udpEvent answers.recvmsg answers.udpNameinfo
        (s.destIpAddressBuffer.use answers.pktinfo)) s with
      ⟨abort, -, state⟩ | ⟨-, state⟩ | ⟨event, dest, status, built, state⟩
    · rw [state]
      exact daemonInv_logged inv running inv.attributed
    · rw [state]
      exact daemonInv_logged inv running inv.attributed
    · rw [state]
      apply daemonInv_logged inv running
      exact attributed_append inv.attributed fun client => absurd rfl client
  · exact inv

/-! ## Steps and runs -/

theorem branchState_bind {P : Daemon → Prop} {first : Branch} {rest : Daemon → Branch}
    (left : P (branchState first)) (goesOn : ∀ t, first = .ok t → P (branchState (rest t))) :
    P (branchState (first >>= rest)) := by
  cases first with
  | error t => exact left
  | ok t => exact goesOn t rfl

theorem handleEvent_ok {config : Config} {log : Except Abort Exit} {reply : Exit} {descriptor : Nat}
    {peer : Option CStr} {noEvent : Daemon → Daemon} {event : Except Abort (Option SipMessageEvent)}
    {s t : Daemon} (ok : handleEvent config log reply descriptor peer noEvent event s = .ok t) :
    t.status = s.status ∧ t.i = s.i := by
  cases event with
  | error abort => cases ok
  | ok event =>
      cases event with
      | none => cases ok
      | some built =>
          simp only [handleEvent, logAndReply] at ok
          cases log with
          | error abort => cases ok
          | ok exit =>
              cases exit with
              | failure => cases ok
              | success =>
                  simp only at ok
                  split_ifs at ok
                  cases ok
                  exact ⟨rfl, rfl⟩

theorem clientBranch_ok {config : Config} {answers : Answers} {s t : Daemon}
    (ok : clientBranch config answers s = .ok t) : t.status = s.status ∧ t.i = s.i := by
  unfold clientBranch at ok
  split at ok
  · exact handleEvent_ok ok
  · cases ok
    exact ⟨rfl, rfl⟩

theorem acceptBranch_ok {answers : Answers} {s t : Daemon} (ok : acceptBranch answers s = .ok t) :
    t.status = s.status ∧ t.i = s.i ∧ t.socketListenUdp = s.socketListenUdp ∧
      t.socketListenTcp = s.socketListenTcp ∧ (s.i ≠ s.socketListenTcp → t = s) := by
  unfold acceptBranch at ok
  split at ok
  · rename_i isListener
    cases accepted : answers.accept with
    | none => simp [accepted] at ok
    | some client =>
        simp only [accepted] at ok
        split at ok
        · cases ok
          exact ⟨rfl, rfl, rfl, rfl, fun other => absurd isListener other⟩
        · cases ok
  · cases ok
    exact ⟨rfl, rfl, rfl, rfl, fun _ => rfl⟩

theorem handleEvent_i {config : Config} {log : Except Abort Exit} {reply : Exit} {descriptor : Nat}
    {peer : Option CStr} {noEvent : Daemon → Daemon} {event : Except Abort (Option SipMessageEvent)}
    {s : Daemon} (same : (noEvent s).i = s.i) :
    (branchState (handleEvent config log reply descriptor peer noEvent event s)).i = s.i := by
  rcases handleEvent_state config log reply descriptor peer noEvent event s with
    ⟨_, -, state⟩ | ⟨-, state⟩ | ⟨_, _, _, -, state⟩
  · rw [state]
  · rw [state, same]
  · rw [state]

theorem body_i (config : Config) (answers : Answers) (s : Daemon) :
    (branchState (acceptBranch answers s >>= clientBranch config answers >>=
      udpBranch config answers)).i = s.i := by
  have accept : (branchState (acceptBranch answers s)).i = s.i := by
    unfold acceptBranch
    split
    · cases answers.accept with
      | none => rfl
      | some connection =>
          simp only
          split
          · rfl
          · rfl
    · rfl
  have client (t : Daemon) : (branchState (clientBranch config answers t)).i = t.i := by
    unfold clientBranch
    split
    · exact handleEvent_i rfl
    · rfl
  have udp (t : Daemon) : (branchState (udpBranch config answers t)).i = t.i := by
    unfold udpBranch
    split
    · exact handleEvent_i rfl
    · rfl
  apply branchState_bind (P := fun t => t.i = s.i)
  · apply branchState_bind (P := fun t => t.i = s.i) accept
    intro t first
    rw [client, (acceptBranch_ok first).2.1]
  · intro u both
    obtain ⟨t, first, second⟩ := bind_eq_ok.mp both
    rw [udp, (clientBranch_ok second).2, (acceptBranch_ok first).2.1]

theorem visit_inv (config : Config) {answers : Answers} {s : Daemon} {done : Nat}
    (next : done + 1 = s.i) (inv : DaemonInv done s) (running : s.status = .running)
    (ready : s.i ∈ s.reads) (keeps : KeepsAddress (.visit answers) s) :
    DaemonInv s.i (branchState (acceptBranch answers { s with
      tcpClientIpAddressBuffer := answers.stack } >>= clientBranch config answers >>=
        udpBranch config answers)) := by
  obtain ⟨kept, last⟩ := keeps
  have current : Known s s.i := inv.pending s.i ready (by omega)
  have entered : DaemonInv s.i { s with tcpClientIpAddressBuffer := answers.stack } := by
    refine ⟨inv.opened, fun descriptor member after => inv.pending descriptor member (by omega),
      ?_, inv.attributed⟩
    rw [kept]
    exact inv.address
  have accepted := acceptBranch_inv answers entered
  have client (t : Daemon)
      (first : acceptBranch answers { s with tcpClientIpAddressBuffer := answers.stack } = .ok t) :
      DaemonInv s.i (branchState (clientBranch config answers t)) := by
    rw [first] at accepted
    obtain ⟨-, position, -, tcp, same⟩ := acceptBranch_ok first
    by_cases listener : s.i = s.socketListenTcp
    · -- the branch of a listener does nothing
      have idle : clientBranch config answers t = .ok t := by
        unfold clientBranch
        rw [if_neg]
        rintro ⟨-, other⟩
        rw [position, tcp] at other
        exact other listener
      rw [idle]
      exact accepted
    · obtain rfl := same listener
      exact clientBranch_inv (s := { s with tcpClientIpAddressBuffer := answers.stack }) accepted
        running current last
  have handled := branchState_bind accepted client
  apply branchState_bind handled
  intro u both
  rw [both] at handled
  obtain ⟨t, first, second⟩ := bind_eq_ok.mp both
  have status : u.status = .running := by
    rw [(clientBranch_ok second).1, (acceptBranch_ok first).1]
    exact running
  exact udpBranch_inv handled status

def ScanInv (s : Daemon) : Prop := ∃ done, done + 1 = s.i ∧ DaemonInv done s

theorem daemonStep_inv {config : Config} {action : Action} {s t : Daemon} (inv : ScanInv s)
    (keeps : KeepsAddress action s) (step : daemonStep config action s = some t) : ScanInv t := by
  obtain ⟨done, next, inv⟩ := inv
  unfold daemonStep at step
  split at step
  · rename_i running
    cases action with
    | select ready =>
        simp only at step
        split at step
        · rename_i enabled
          cases step
          refine ⟨0, rfl, inv.opened, ?_, inv.address, inv.attributed⟩
          intro descriptor member _
          exact inv.opened descriptor (enabled.2 member)
        · cases step
    | selectFails =>
        simp only at step
        split at step
        · cases step
          exact ⟨done, next, daemonInv_logged inv running inv.attributed⟩
        · cases step
    | skip =>
        simp only at step
        split at step
        · cases step
          refine ⟨s.i, rfl, inv.opened, ?_, inv.address, inv.attributed⟩
          intro descriptor member after
          exact inv.pending descriptor member (by omega)
        · cases step
    | visit answers =>
        simp only at step
        split at step
        · rename_i enabled
          cases step
          have body := visit_inv config next inv running enabled.2.1 keeps
          have position := body_i config answers { s with tcpClientIpAddressBuffer := answers.stack }
          refine ⟨s.i, ?_, body.opened, ?_, body.address, body.attributed⟩
          · change _ = (branchState _).i + 1
            rw [position]
          · exact body.pending
        · cases step
  · cases step

def StepsMeet (config : Config) (condition : Action → Daemon → Prop) : List Action → Daemon → Prop
  | [], _ => True
  | action :: rest, s => condition action s ∧
      match daemonStep config action s with
      | none => True
      | some t => StepsMeet config condition rest t

instance (config : Config) (condition : Action → Daemon → Prop)
    [∀ action s, Decidable (condition action s)] :
    ∀ actions s, Decidable (StepsMeet config condition actions s)
  | [], _ => isTrue trivial
  | action :: rest, s =>
      @instDecidableAnd _ _ _ (match daemonStep config action s with
        | none => isTrue trivial
        | some t => instDecidableStepsMeet config condition rest t)

theorem daemonRun_inv {config : Config} {actions : List Action} {s t : Daemon} (inv : ScanInv s)
    (keeps : StepsMeet config KeepsAddress actions s)
    (ran : daemonRun config actions s = some t) : ScanInv t := by
  induction actions generalizing s with
  | nil =>
      cases ran
      exact inv
  | cons action rest ih =>
      obtain ⟨u, step, ran⟩ := Option.bind_eq_some_iff.mp ran
      obtain ⟨now, later⟩ := keeps
      rw [step] at later
      exact ih (daemonStep_inv inv now step) later ran

theorem daemonRun_attributed (config : Config) (udp tcp : Nat) (actions : List Action) (s : Daemon)
    (ran : daemonRun config actions (daemonInit udp tcp) = some s)
    (keeps : StepsMeet config KeepsAddress actions (daemonInit udp tcp)) : Attributed s := by
  obtain ⟨done, -, inv⟩ := daemonRun_inv ⟨_, rfl, daemonInv_init udp tcp⟩ keeps ran
  exact inv.attributed

def quietAnswers (stack : Option CStr) : Answers where
  stack := stack
  accept := none
  acceptNameinfo := true
  recv := none
  sockname := some (.lit "192.0.2.2")
  tcpLog := .ok .success
  tcpReply := .success
  recvmsg := none
  pktinfo := none
  udpNameinfo := none
  udpLog := .ok .success
  udpReply := .success

def connects (listener client : Nat) (stack : Option CStr) (peer : CStr) (max : Nat) : List Action :=
  [.select {listener}] ++ List.replicate (listener - 1) .skip ++
    [.visit { quietAnswers stack with accept := some (client, peer) }] ++
    List.replicate (max - listener) .skip

def sends (client : Nat) (stack : Option CStr) (packet : CStr) : List Action :=
  [.select {client}] ++ List.replicate (client - 1) .skip ++
    [.visit { quietAnswers stack with recv := some packet.bytes }]

def clientA : CStr := .lit "192.0.2.10"
def clientB : CStr := .lit "198.51.100.20"

def oneClient : List Action :=
  connects 4 5 none clientA 5 ++ sends 5 (some clientA) (.lit "OPTIONS sip:100 SIP/2.0")

def daemonConfig : Config := sentrypeerConfigNew ⟨false, false⟩ (.lit "e1d4")

theorem daemonRun_one_client_attributed :
    ∃ s, daemonRun daemonConfig oneClient (daemonInit 3 4) = some s ∧ s.logged.length = 1 ∧
      Attributed s := by
  have logs : (daemonRun daemonConfig oneClient (daemonInit 3 4)).map (fun s => s.logged.length) =
      some 1 := by decide
  obtain ⟨s, ran, length⟩ := Option.map_eq_some_iff.mp logs
  exact ⟨s, ran, length, daemonRun_attributed daemonConfig 3 4 oneClient s ran (by decide)⟩

def twoClients : List Action :=
  connects 4 5 none clientA 5 ++ connects 4 6 (some clientA) clientB 6 ++
    sends 5 (some clientB) (.lit "OPTIONS sip:100 SIP/2.0")

theorem daemonRun_two_clients_misattributed :
    ∃ s, daemonRun daemonConfig twoClients (daemonInit 3 4) = some s ∧
      (s.logged.map fun entry => (entry.descriptor, entry.peer, entry.event.clientIpAddrStr)) =
        [(5, some clientA, some clientB)] ∧ ¬ Attributed s := by
  have logs : (daemonRun daemonConfig twoClients (daemonInit 3 4)).map
      (fun s => (s.socketListenUdp, s.logged.map fun entry =>
        (entry.descriptor, entry.peer, entry.event.clientIpAddrStr))) =
      some (3, [(5, some clientA, some clientB)]) := by decide
  obtain ⟨s, ran, state⟩ := Option.map_eq_some_iff.mp logs
  obtain ⟨udp, entries⟩ := Prod.mk.inj state
  refine ⟨s, ran, entries, fun attributed => ?_⟩
  obtain ⟨entry, member, values⟩ := List.mem_map.mp (entries ▸ List.mem_singleton_self
    (5, some clientA, some clientB))
  simp only [Prod.mk.injEq] at values
  obtain ⟨peer, isPeer, source⟩ := attributed entry member (by rw [values.1, udp]; decide)
  rw [values.2.1] at isPeer
  rw [values.2.2, ← isPeer] at source
  exact absurd source (by decide)

end SentryPeer.Proof
