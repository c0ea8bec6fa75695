import SentryPeer.Proof.Ownership
import SentryPeer.Proof.SipDaemon
import SentryPeer.Source.DaemonHeap

/-!
# What the select loop leaves on the heap

An event that is logged and answered is destroyed. One that is not stays behind with its strings, and
`dest_ip_address_buffer` still points to the last of them.
-/

namespace SentryPeer.OnHeap
open Lib Pointwise
open Proof (branchState acceptBranch_ok clientBranch_ok quietAnswers clientA daemonConfig)

/-- The string of a `dest_ip_address_buffer` that may be used. -/
def destString : DestIp → Option CStr
  | .string text => some text
  | _ => none

def destAt (dest : DestIp) (p : Option ℕ) : Assertion Block :=
  if dest = .freed then 0 else stringAt .c p (destString dest)

/-- Whether the iteration goes on to the end of an event that `sip_log_event` has returned from. -/
def answered (config : Config) (log reply : Exit) : Bool :=
  log = .success ∧ ¬(config.sipResponsiveMode = true ∧ reply = .failure)

variable {P R : Assertion Block} {allocator : Allocator}

theorem readEvent_spec {σ γ : Type} {c : γ} (p : ℕ) (strings : Strings EventField)
    (event : SipMessageEvent) :
    Simulates (σ := σ) (eventAt allocator p strings event) (readEvent p) (pure c)
      fun read _ => ⋃ _ : read = event, eventAt allocator p strings event := by
  unfold readEvent eventAt
  apply Simulates.load rfl
    (rfl : eventView (.sipMessageEvent strings event.packetLen) = some (strings, _))
  apply Simulates.load rfl
    (rfl : Block.packetLen? (.sipMessageEvent strings event.packetLen) = some _)
  apply (readStrings_spec (c := ()) _ (add_comm _ _)).bindPure
  intro read
  apply Simulates.iUnion
  intro same
  apply Simulates.pure
  apply subset_given
  simp only [List.forall_mem_cons] at same
  obtain ⟨h1, h2, h3, h4, -⟩ := same
  simp only [h1, h2, h3, h4]
  rfl

theorem handleEvent_runs (config : Config) {log : Except Abort Exit} {exit : Exit} (reply : Exit)
    (descriptor : ℕ) (peer : Option CStr) {packet : Except Abort CStr} {text : CStr} (packetLen : ℕ)
    (transportType client : CStr) (dest : Option ℕ) (destText : Option CStr) (s : Daemon)
    (built : packet = .ok text) (logged : log = .ok exit) :
    Runs (stringAt .c dest destText) (handleEvent config log reply descriptor peer packet packetLen
        transportType client dest) s
      { s with logged := s.logged ++ [⟨descriptor, peer,
        ⟨some text, packetLen, some transportType, some client, destText⟩⟩] }
      fun next => ⋃ _ : next = answered config exit reply,
        if next then 0 else stringAt .c dest destText + blocks 4 := by
  subst built logged
  unfold handleEvent
  apply Runs.onRest rfl
  apply Runs.steps (Simulates.malloc _ _ ())
  intro packetPtr
  apply Runs.steps (Simulates.malloc _ _ ())
  intro transportPtr
  apply Runs.steps (Simulates.malloc _ _ ())
  intro clientPtr
  apply Runs.steps (Simulates.malloc _ _ ())
  intro sipEvent
  have lent : eventAt .c sipEvent (eventStrings (some packetPtr) (some transportPtr)
      (some clientPtr) dest) ⟨some text, packetLen, some transportType, some client, destText⟩ = _ :=
    eventAt_strings _ rfl rfl rfl _
  refine Runs.imp (P := eventAt .c sipEvent (eventStrings (some packetPtr) (some transportPtr)
    (some clientPtr) dest) ⟨some text, packetLen, some transportType, some client, destText⟩) ?_
    (Eq.subset (by rw [lent]; ac_rfl)) fun _ => subset_rfl
  have lost : eventAt .c sipEvent (eventStrings (some packetPtr) (some transportPtr)
      (some clientPtr) dest) ⟨some text, packetLen, some transportType, some client, destText⟩ ⊆
      stringAt .c dest destText + blocks 4 := by
    rw [lent, add_left_comm]
    apply Set.add_subset_add_left
    have few := pointsTo_add_blocks packetPtr (Block.string .c text) 0
    rw [blocks_zero, add_zero] at few
    refine (Set.add_subset_add_left (Set.add_subset_add_left (Set.add_subset_add_left few))).trans ?_
    refine (Set.add_subset_add_left (Set.add_subset_add_left (pointsTo_add_blocks _ _ 1))).trans ?_
    exact (Set.add_subset_add_left (pointsTo_add_blocks _ _ 2)).trans (pointsTo_add_blocks _ _ 3)
  apply Runs.steps (readEvent_spec (c := ()) sipEvent _ _)
  intro event
  apply Runs.iUnion
  rintro rfl
  refine Runs.onRest rfl ?_
  refine Runs.onRest rfl ?_
  cases exit with
  | failure => exact Runs.pure (lost.trans (subset_given _ rfl))
  | success =>
      by_cases unsent : config.sipResponsiveMode = true ∧ reply = .failure
      · rw [if_pos unsent]
        refine Runs.pure (lost.trans (subset_given _ ?_))
        simp [answered, unsent]
      · rw [if_neg unsent]
        apply Runs.imp _ (recordAt_intro (fun strings => .sipMessageEvent strings packetLen) _)
          fun _ => subset_rfl
        apply Runs.steps (sipMessageEventDestroy_spec (c := ()) _)
        intro _
        refine Runs.pure (Set.Subset.trans ?_ (subset_given _ ?_))
        · exact subset_rfl
        · simp [answered, unsent]

/-! ## What is kept -/

def pending : DestIp → ℕ
  | .string _ => 1
  | _ => 0

/-- The blocks of events that were not destroyed: four for each, and their destination strings, of
which there are `least` to `most`. -/
def keptAt (events least most : ℕ) (dest : DestIp) (p : Option ℕ) : Assertion Block :=
  ⋃ k, ⋃ _ : least ≤ k + pending dest ∧ k + pending dest ≤ most,
    destAt dest p + blocks (4 * events + k)

theorem keptAt_intro {events least most k : ℕ} (dest : DestIp) (p : Option ℕ)
    (bounds : least ≤ k + pending dest ∧ k + pending dest ≤ most) :
    destAt dest p + blocks (4 * events + k) ⊆ keptAt events least most dest p :=
  Set.subset_iUnion₂ (s := fun k (_ : least ≤ k + pending dest ∧ k + pending dest ≤ most) =>
    destAt dest p + blocks (4 * events + k)) k bounds

theorem keptAt_mono {events least least' most most' : ℕ} {dest : DestIp} {p : Option ℕ}
    (lower : least' ≤ least) (upper : most ≤ most') :
    keptAt events least most dest p ⊆ keptAt events least' most' dest p :=
  Set.iUnion₂_subset fun _ bounds => keptAt_intro dest p (by omega)

theorem destAt_subset_blocks (dest : DestIp) (p : Option ℕ) :
    destAt dest p ⊆ blocks (pending dest) := by
  cases dest with
  | null => exact (stringAt_none p).trans blocks_zero.ge
  | freed => exact blocks_zero.ge
  | string text =>
      cases p with
      | none => exact Set.empty_subset _
      | some p =>
          have one := pointsTo_add_blocks p (Block.string .c text) 0
          rw [blocks_zero, add_zero] at one
          exact one

theorem keptAt_forget (events least most : ℕ) (dest : DestIp) (p : Option ℕ) :
    keptAt events least most dest p ⊆ keptAt events least most .null none := by
  apply Set.iUnion₂_subset
  intro k bounds
  have all : destAt dest p + blocks (4 * events + k) ⊆ blocks (4 * events + (k + pending dest)) := by
    refine (Set.add_subset_add_right (destAt_subset_blocks dest p)).trans ((blocks_add _ _).trans ?_)
    exact Eq.subset (congrArg blocks (by omega))
  have null : destAt .null none + blocks (4 * events + (k + pending dest)) =
      (blocks (4 * events + (k + pending dest)) : Assertion Block) := zero_add _
  exact (all.trans null.ge).trans (keptAt_intro .null none bounds)

/-- From `least` to `most` blocks, whatever they hold. -/
def between (least most : ℕ) : Assertion Block := ⋃ n, ⋃ _ : least ≤ n ∧ n ≤ most, blocks n

theorem keptAt_subset_between (events least most : ℕ) (dest : DestIp) (p : Option ℕ) :
    keptAt events least most dest p ⊆ between (4 * events + least) (4 * events + most) := by
  apply Set.iUnion₂_subset
  intro k bounds
  refine (Set.add_subset_add_right (destAt_subset_blocks dest p)).trans ((blocks_add _ _).trans ?_)
  exact Set.subset_iUnion₂ (s := fun n (_ : 4 * events + least ≤ n ∧ n ≤ 4 * events + most) =>
    (blocks n : Assertion Block)) (pending dest + (4 * events + k)) (by omega)

theorem between_mono {least least' most most' : ℕ} (lower : least' ≤ least) (upper : most ≤ most') :
    between least most ⊆ between least' most' :=
  Set.iUnion₂_subset fun n bounds => Set.subset_iUnion₂
    (s := fun n (_ : least' ≤ n ∧ n ≤ most') => (blocks n : Assertion Block)) n (by omega)

/-- `dest_ip_address_buffer` after a branch has looked for an address of its own. -/
def current (own : Option CStr) (old : DestIp) : DestIp := own.elim old DestIp.string

theorem ownAddress_runs {σ : Type} (own : Option CStr) (events least most : ℕ) (old : DestIp)
    (p : Option ℕ) (s : σ) :
    Runs (keptAt events least most old p) (ownAddress own p) s s
      fun p' => keptAt events (least + own.isSome.toNat) (most + own.isSome.toNat)
        (current own old) p' := by
  cases own with
  | none => exact Runs.pure subset_rfl
  | some text =>
      apply Runs.iUnion
      intro k
      apply Runs.iUnion
      intro bounds
      apply Runs.steps (Simulates.malloc _ _ ())
      intro new
      apply Runs.pure
      have old_kept : destAt old p + blocks (4 * events + k) ⊆
          blocks (4 * events + (k + pending old)) := by
        refine (Set.add_subset_add_right (destAt_subset_blocks old p)).trans ((blocks_add _ _).trans ?_)
        exact Eq.subset (congrArg blocks (by omega))
      refine (Set.add_subset_add_left old_kept).trans ?_
      apply keptAt_intro (.string text) (some new)
      change least + 1 ≤ k + pending old + 1 ∧ k + pending old + 1 ≤ most + 1
      omega

/-- The end of an event whose destination string may be used. -/
theorem handleEvent_kept (config : Config) {log : Except Abort Exit} {exit : Exit} (reply : Exit)
    (descriptor : ℕ) (peer : Option CStr) {packet : Except Abort CStr} {text : CStr} (packetLen : ℕ)
    (transportType client : CStr) (events least most : ℕ) {dest : DestIp} (live : dest ≠ .freed)
    (p : Option ℕ) (s : Daemon) (built : packet = .ok text) (logged : log = .ok exit) :
    Runs (keptAt events least most dest p) (handleEvent config log reply descriptor peer packet
        packetLen transportType client p) s
      { s with logged := s.logged ++ [⟨descriptor, peer,
        ⟨some text, packetLen, some transportType, some client, destString dest⟩⟩] }
      fun next => ⋃ _ : next = answered config exit reply,
        if next then keptAt events (least - pending dest) (most - pending dest) .freed p
        else keptAt (events + 1) least most dest p := by
  apply Runs.iUnion
  intro k
  apply Runs.iUnion
  intro bounds
  have at_dest : destAt dest p = stringAt .c p (destString dest) := if_neg live
  have ran := (handleEvent_runs config reply descriptor peer packetLen transportType client p
    (destString dest) s built logged).frame (blocks (4 * events + k))
  rw [← at_dest] at ran
  apply ran.imp subset_rfl
  intro next
  rw [Set.iUnion_add]
  apply Set.iUnion_mono
  intro _
  cases next with
  | true =>
      rw [if_pos rfl, if_pos rfl]
      apply keptAt_intro .freed p
      change least - pending dest ≤ k + 0 ∧ k + 0 ≤ most - pending dest
      omega
  | false =>
      rw [if_neg Bool.false_ne_true, if_neg Bool.false_ne_true, add_assoc]
      have more : blocks 4 + blocks (4 * events + k) ⊆
          (blocks (4 * (events + 1) + k) : Assertion Block) :=
        (blocks_add _ _).trans (Eq.subset (congrArg blocks (by omega)))
      exact (Set.add_subset_add_left more).trans (keptAt_intro dest p bounds)

/-! ## The branches -/

/-- The state of the loop on the heap: the pointer is held apart. -/
def bare (s : Daemon) : Daemon := { s with destIpAddressBuffer := .null }

/-- The events made by a branch that has left the iteration without destroying them. -/
def lostBy (before : Daemon) : Branch → ℕ
  | .ok _ => 0
  | .error after => after.logged.length - before.logged.length

def stays : Branch → Bool
  | .ok _ => true
  | .error _ => false

theorem logAndReply_ok (config : Config) {log : Except Abort Exit} {exit : Exit} (reply : Exit)
    (s : Daemon) (logged : log = .ok exit) :
    logAndReply config log reply s = if answered config exit reply then
      .ok { s with destIpAddressBuffer := .freed } else .error s := by
  subst logged
  cases exit with
  | failure => rfl
  | success =>
      by_cases unsent : config.sipResponsiveMode = true ∧ reply = .failure
      · simp [logAndReply, answered, unsent]
      · simp [logAndReply, answered, unsent]

theorem destString_string {dest : DestIp} (live : dest ≠ .freed) :
    ((destString dest).map DestIp.string).getD .null = dest := by
  cases dest with
  | freed => exact absurd rfl live
  | null => rfl
  | string text => rfl

/-- The strings of the events that were left, when all of them have got an address of their own and
in general. -/
def leastStrings (always : Bool) (events : ℕ) : ℕ := if always then events else 0

theorem event_kept (config : Config) (log : Except Abort Exit) (reply : Exit) (descriptor : ℕ)
    (peer : Option CStr) {packet : Except Abort CStr} {text : CStr} (packetLen : ℕ)
    (transportType client : CStr) {always : Bool} (events : ℕ) {own : Option CStr} {old : DestIp}
    (live : current own old ≠ .freed) (has : always = true → own.isSome = true) (p : Option ℕ)
    (s : Daemon) (built : packet = .ok text) {r : Branch}
    (handled : logAndReply config log reply { s with
      destIpAddressBuffer := current own old
      logged := s.logged ++ [⟨descriptor, peer, ⟨some text, packetLen, some transportType,
        some client, destString (current own old)⟩⟩] } = r)
    (returned : ∀ abort, (branchState r).status ≠ .aborted abort) :
    Runs (keptAt events (leastStrings always events + own.isSome.toNat)
        (events + own.isSome.toNat) (current own old) p)
      (handleEvent config log reply descriptor peer packet packetLen transportType client p) (bare s)
      (bare (branchState r)) fun next => ⋃ _ : next = stays r,
        keptAt (events + lostBy s r) (leastStrings always (events + lostBy s r))
          (events + lostBy s r) (branchState r).destIpAddressBuffer p := by
  cases outcome : log with
  | error abort =>
      subst handled outcome
      exact absurd rfl (returned abort)
  | ok exit =>
      have ran := handleEvent_kept config reply descriptor peer packetLen transportType client events
        (leastStrings always events + own.isSome.toNat) (events + own.isSome.toNat) live p (bare s)
        built outcome
      rw [logAndReply_ok config reply _ outcome] at handled
      rw [outcome] at ran
      cases answer : answered config exit reply with
      | true =>
          rw [answer, if_pos rfl] at handled
          subst handled
          rw [answer] at ran
          apply ran.imp subset_rfl
          intro next
          apply Set.iUnion_mono
          rintro rfl
          rw [if_pos rfl]
          change keptAt _ _ _ .freed p ⊆ keptAt events (leastStrings always events) events .freed p
          cases own with
          | some text =>
              apply keptAt_mono
              · exact Nat.le_refl (leastStrings always events)
              · exact Nat.le_refl events
          | none =>
              have shared : always = false := Bool.eq_false_iff.mpr fun all => by simpa using has all
              subst shared
              apply keptAt_mono
              · exact Nat.zero_le _
              · exact Nat.sub_le events _
      | false =>
          rw [answer, if_neg Bool.false_ne_true] at handled
          subst handled
          rw [answer] at ran
          have one : lostBy s (.error { s with
              destIpAddressBuffer := current own old
              logged := s.logged ++ [⟨descriptor, peer, ⟨some text, packetLen, some transportType,
                some client, destString (current own old)⟩⟩] }) = 1 := by
            simp [lostBy]
          apply ran.imp subset_rfl
          intro next
          apply Set.iUnion_mono
          rintro rfl
          rw [if_neg Bool.false_ne_true, one]
          apply keptAt_mono
          · cases always with
            | false => exact Nat.zero_le _
            | true => simp [leastStrings, has rfl]
          · exact Nat.add_le_add_left (Bool.toNat_le _) events

theorem current_of_use {own : Option CStr} {old : DestIp} {use : Option CStr}
    (used : old.use own = .ok use) :
    current own old ≠ .freed ∧ destString (current own old) = use := by
  cases own with
  | some text => cases used; exact ⟨nofun, rfl⟩
  | none =>
      cases old with
      | freed => cases used
      | null => cases used; exact ⟨nofun, rfl⟩
      | string text => cases used; exact ⟨nofun, rfl⟩

/-- What is kept between two branches of an iteration. -/
def keptBy (always : Bool) (events : ℕ) (s : Daemon) (p : Option ℕ) : Assertion Block :=
  keptAt events (leastStrings always events) events s.destIpAddressBuffer p

theorem tcpEvent_built {received : List UInt8} (some_bytes : received ≠ []) (clientIp : Option CStr)
    (destIp : Except Abort (Option CStr)) :
    (∃ abort, tcpEvent (some received) clientIp destIp = .error abort) ∨
    ∃ text client dest, duplicateBuffer (readPacketBuf received) = .ok text ∧
      clientIp = some client ∧ destIp = .ok (some dest) ∧
      tcpEvent (some received) clientIp destIp =
        .ok (some ⟨some text, received.length, some (.lit "TCP"), some client, some dest⟩) := by
  cases received with
  | nil => exact absurd rfl some_bytes
  | cons b bs =>
      cases destIp with
      | error abort => exact .inl ⟨abort, rfl⟩
      | ok destIp =>
          cases destIp with
          | none => exact .inl ⟨_, rfl⟩
          | some dest =>
              cases packet : duplicateBuffer (readPacketBuf (b :: bs)) with
              | error abort => exact .inl ⟨abort, by simp [tcpEvent, packet, bind, Except.bind]⟩
              | ok text =>
                  cases clientIp with
                  | none => exact .inl ⟨_, by simp [tcpEvent, packet, bind, Except.bind]; rfl⟩
                  | some client =>
                      refine .inr ⟨text, client, dest, rfl, rfl, rfl, ?_⟩
                      simp [tcpEvent, packet, bind, Except.bind, packetLenOf, pure, Except.pure]

theorem udpEvent_built (recvmsg : Option (List UInt8)) (client : CStr)
    (destIp : Except Abort (Option CStr)) :
    (∃ abort, udpEvent recvmsg (some client) destIp = .error abort) ∨
    ∃ text dest, duplicateBuffer (readPacketBuf (recvmsg.getD [])) = .ok text ∧ destIp = .ok dest ∧
      udpEvent recvmsg (some client) destIp =
        .ok (some ⟨some text, packetLenOf recvmsg, some (.lit "UDP"), some client, dest⟩) := by
  cases destIp with
  | error abort => exact .inl ⟨abort, rfl⟩
  | ok dest =>
      cases packet : duplicateBuffer (readPacketBuf (recvmsg.getD [])) with
      | error abort => exact .inl ⟨abort, by simp [udpEvent, packet, bind, Except.bind]⟩
      | ok text =>
          refine .inr ⟨text, dest, rfl, rfl, ?_⟩
          simp [udpEvent, packet, bind, Except.bind, pure, Except.pure]

theorem keptAt_null {events least most : ℕ} {dest : DestIp} {text : CStr}
    (named : destString dest = some text) : keptAt events least most dest none = ∅ := by
  have string : dest = .string text := by
    cases dest <;> cases named
    rfl
  subst string
  simp only [keptAt, Set.iUnion_eq_empty]
  intro k bounds
  exact Set.empty_add

/-- The daemon that has returned has not freed the string it may have duplicated last. -/
def leftAt (always : Bool) (events : ℕ) (s : Daemon) (p : Option ℕ) : Assertion Block :=
  if s.status = .running then keptBy always events s p
  else between (4 * events + leastStrings always events) (5 * events + 1)

theorem keptBy_subset_leftAt (always : Bool) (events : ℕ) (s : Daemon) (p : Option ℕ) :
    keptBy always events s p ⊆ leftAt always events s p := by
  unfold leftAt
  split
  · exact subset_rfl
  · exact (keptAt_subset_between _ _ _ _ _).trans (between_mono le_rfl (by omega))

theorem leftAt_subset_between (always : Bool) (events : ℕ) (s : Daemon) (p : Option ℕ) :
    leftAt always events s p ⊆ between (4 * events + leastStrings always events)
      (5 * events + if s.status = .running then 0 else 1) := by
  unfold leftAt
  split
  · exact (keptAt_subset_between _ _ _ _ _).trans (between_mono le_rfl (by omega))
  · exact subset_rfl

theorem clientBranch_runs (config : Config) (answers : Answers) {always : Bool} (events : ℕ)
    (has : always = true → answers.sockname.isSome = true) (p : Option ℕ) (s : Daemon)
    (returned : ∀ abort, (branchState (SentryPeer.clientBranch config answers s)).status ≠
      .aborted abort) :
    Runs (keptBy always events s p) (clientBranch config answers p) (bare s)
      (bare (branchState (SentryPeer.clientBranch config answers s)))
      fun next => ⋃ _ : next.1 = stays (SentryPeer.clientBranch config answers s),
        keptBy always (events + lostBy s (SentryPeer.clientBranch config answers s))
          (branchState (SentryPeer.clientBranch config answers s)) next.2 := by
  unfold clientBranch
  refine Runs.onRest rfl ?_
  unfold SentryPeer.clientBranch at returned ⊢
  by_cases client : s.i ≠ s.socketListenUdp ∧ s.i ≠ s.socketListenTcp
  swap
  · rw [if_neg client]
    rw [if_neg (by exact client)]
    exact Runs.pure (subset_given _ rfl)
  · rw [if_pos client] at returned ⊢
    rw [if_pos (by exact client)]
    have closed : Runs (keptBy always events s p) (do
          onRest (set { bare s with
            master := (bare s).master.erase (bare s).i
            peerOf := Function.update (bare s).peerOf (bare s).i none })
          return (false, p) : Program Daemon (Bool × Option ℕ)) (bare s)
        { bare s with
          master := s.master.erase s.i
          peerOf := Function.update s.peerOf s.i none }
        fun next => ⋃ _ : next.1 = false, keptBy always events s next.2 := by
      refine Runs.onRest rfl ?_
      exact Runs.pure (subset_given _ rfl)
    have unlogged : lostBy s (.error { s with
        master := s.master.erase s.i
        peerOf := Function.update s.peerOf s.i none }) = 0 := Nat.sub_self _
    rcases received : answers.recv with _ | _ | ⟨b, bs⟩
    · simp only [tcpEvent, SentryPeer.handleEvent, stays, branchState, unlogged]
      exact closed
    · simp only [tcpEvent, SentryPeer.handleEvent, stays, branchState, unlogged]
      exact closed
    · rw [received] at returned
      rcases tcpEvent_built (List.cons_ne_nil b bs) s.tcpClientIpAddressBuffer
        (s.destIpAddressBuffer.use answers.sockname) with
        ⟨abort, failed⟩ | ⟨text, client, dest, packet, from_client, used, built⟩
      · rw [failed] at returned
        exact absurd rfl (returned abort)
      · rw [built] at returned ⊢
        obtain ⟨live, named⟩ := current_of_use used
        refine Runs.bind (ownAddress_runs answers.sockname events _ _ s.destIpAddressBuffer p _) ?_
        intro p'
        cases p' with
        | none => exact Runs.vacuous (keptAt_null named)
        | some q =>
            dsimp only [Option.isNone_some]
            have buffer : (bare s).tcpClientIpAddressBuffer = some client := from_client
            rw [buffer]
            have address := destString_string live
            rw [named] at address
            have kept := event_kept config answers.tcpLog answers.tcpReply s.i (s.peerOf s.i)
              (b :: bs).length (.lit "TCP") client events live has (some q) s packet
              (by rw [named, ← address]; rfl) returned
            refine Runs.bind kept ?_
            intro next
            apply Runs.iUnion
            rintro rfl
            exact Runs.pure (subset_given _ rfl)

theorem udpBranch_runs (config : Config) (answers : Answers) {always : Bool} (events : ℕ)
    (has : always = true → answers.pktinfo.isSome = true) (p : Option ℕ) (s : Daemon)
    (returned : ∀ abort, (branchState (SentryPeer.udpBranch config answers s)).status ≠
      .aborted abort) :
    Runs (keptBy always events s p) (udpBranch config answers p) (bare s)
      (bare (branchState (SentryPeer.udpBranch config answers s)))
      fun p' => leftAt always (events + lostBy s (SentryPeer.udpBranch config answers s))
          (branchState (SentryPeer.udpBranch config answers s)) p' := by
  unfold udpBranch
  refine Runs.onRest rfl ?_
  unfold SentryPeer.udpBranch at returned ⊢
  by_cases ready : s.socketListenUdp ∈ s.reads
  swap
  · rw [if_neg ready]
    rw [if_neg (by exact ready)]
    exact Runs.pure (keptBy_subset_leftAt always events s p)
  · rw [if_pos ready] at returned ⊢
    rw [if_pos (by exact ready)]
    refine Runs.bind (ownAddress_runs answers.pktinfo events _ _ s.destIpAddressBuffer p _) ?_
    intro p'
    cases from_client : answers.udpNameinfo with
    | none =>
        refine Runs.onRest rfl ?_
        apply Runs.pure
        have unlogged : lostBy s (.error { s with status := .exited }) = 0 := Nat.sub_self _
        change _ ⊆ leftAt always (events + lostBy s (.error { s with status := .exited }))
          { s with status := .exited } p'
        rw [unlogged]
        refine (keptAt_subset_between _ _ _ _ _).trans (between_mono ?_ ?_)
        · rw [add_zero]
          omega
        · have one := Bool.toNat_le answers.pktinfo.isSome
          omega
    | some client =>
        rw [from_client] at returned
        rcases udpEvent_built answers.recvmsg client (s.destIpAddressBuffer.use answers.pktinfo) with
          ⟨abort, failed⟩ | ⟨text, dest, packet, used, built⟩
        · rw [failed] at returned
          exact absurd rfl (returned abort)
        · rw [built] at returned ⊢
          obtain ⟨live, named⟩ := current_of_use used
          have address := destString_string live
          rw [named] at address
          have kept := event_kept config answers.udpLog answers.udpReply s.socketListenUdp (some client)
            (packetLenOf answers.recvmsg) (.lit "UDP") client events live has p' s packet
            (by rw [named, ← address]; rfl) returned
          refine Runs.bind kept ?_
          intro next
          apply Runs.iUnion
          rintro rfl
          exact Runs.pure (keptBy_subset_leftAt always _ _ p')

theorem acceptBranch_run (answers : Answers) (P : Assertion Block) (s : Daemon) :
    (branchState (SentryPeer.acceptBranch answers s)).destIpAddressBuffer = s.destIpAddressBuffer ∧
    Runs P (acceptBranch answers) (bare s) (bare (branchState (SentryPeer.acceptBranch answers s)))
      fun next => ⋃ _ : next = stays (SentryPeer.acceptBranch answers s), P := by
  unfold acceptBranch
  by_cases listener : s.i = s.socketListenTcp
  · cases accepted : answers.accept with
    | none =>
        have left : SentryPeer.acceptBranch answers s = .error s := by
          simp [SentryPeer.acceptBranch, listener, accepted]
        rw [left]
        refine ⟨rfl, Runs.onRestEnd ?_⟩
        simp [SentryPeer.acceptBranch, bare, listener, accepted, stays, branchState]
    | some connection =>
        cases named : answers.acceptNameinfo with
        | true =>
            refine ⟨by simp [SentryPeer.acceptBranch, listener, accepted, named, branchState],
              Runs.onRestEnd ?_⟩
            simp [SentryPeer.acceptBranch, bare, listener, accepted, named, stays, branchState]
        | false =>
            refine ⟨by simp [SentryPeer.acceptBranch, listener, accepted, named, branchState],
              Runs.onRestEnd ?_⟩
            simp [SentryPeer.acceptBranch, bare, listener, accepted, named, stays, branchState]
  · refine ⟨by simp [SentryPeer.acceptBranch, listener, branchState], Runs.onRestEnd ?_⟩
    simp [SentryPeer.acceptBranch, bare, listener, stays, branchState]

/-- The events that the body of the loop leaves behind. -/
def bodyLost (config : Config) (answers : Answers) (s : Daemon) : ℕ :=
  match SentryPeer.acceptBranch answers s with
  | .error _ => 0
  | .ok t =>
      match SentryPeer.clientBranch config answers t with
      | .error u => lostBy t (.error u)
      | .ok u => lostBy u (SentryPeer.udpBranch config answers u)

theorem body_runs (config : Config) (answers : Answers) {always : Bool} (events : ℕ)
    (has : always = true → answers.sockname.isSome = true ∧ answers.pktinfo.isSome = true)
    (p : Option ℕ) {s : Daemon} (running : s.status = .running) {r : Branch}
    (ran : SentryPeer.acceptBranch answers s >>= SentryPeer.clientBranch config answers >>=
      SentryPeer.udpBranch config answers = r)
    (returned : ∀ abort, (branchState r).status ≠ .aborted abort) :
    Runs (keptBy always events s p) (body config answers p) (bare s) (bare (branchState r))
      fun p' => leftAt always (events + bodyLost config answers s) (branchState r) p' := by
  unfold body
  obtain ⟨same, accepts⟩ := acceptBranch_run answers (keptBy always events s p) s
  refine Runs.bind accepts ?_
  intro next
  apply Runs.iUnion
  rintro rfl
  unfold bodyLost
  cases first : SentryPeer.acceptBranch answers s with
  | error t =>
      rw [first] at ran same
      subst ran
      refine Runs.pure (Set.Subset.trans (Eq.subset ?_) (keptBy_subset_leftAt always _ _ p))
      rw [keptBy, keptBy, ← same]
      rfl
  | ok t =>
      rw [first] at ran same
      have before : keptBy always events s p = keptBy always events t p := by
        rw [keptBy, keptBy, ← same]
        rfl
      rw [before]
      cases second : SentryPeer.clientBranch config answers t with
      | error u =>
          have stopped : (.error u : Branch) = r := by
            rw [← ran]
            change _ = SentryPeer.clientBranch config answers t >>= _
            rw [second]
            rfl
          subst stopped
          have client := clientBranch_runs config answers events (fun all => (has all).1) p t
            (by rw [second]; exact returned)
          rw [second] at client
          refine Runs.bind client ?_
          rintro ⟨next, p'⟩
          apply Runs.iUnion
          intro left
          change next = false at left
          subst left
          simp only [second]
          exact Runs.pure (keptBy_subset_leftAt always _ _ p')
      | ok u =>
          have last : SentryPeer.udpBranch config answers u = r := by
            rw [← ran]
            change _ = SentryPeer.clientBranch config answers t >>= _
            rw [second]
            rfl
          subst last
          have client := clientBranch_runs config answers events (fun all => (has all).1) p t (by
            rw [second]
            intro abort aborted
            have still : u.status = .running :=
              (clientBranch_ok second).1.trans ((acceptBranch_ok first).1.trans running)
            exact Status.noConfusion (still.symm.trans aborted))
          rw [second] at client
          refine Runs.bind client ?_
          rintro ⟨next, p'⟩
          apply Runs.iUnion
          intro goesOn
          change next = true at goesOn
          subst goesOn
          simp only [second]
          exact udpBranch_runs config answers events (fun all => (has all).2) p' u returned

def visitLost (config : Config) (answers : Answers) (s : Daemon) : ℕ :=
  bodyLost config answers { s with tcpClientIpAddressBuffer := answers.stack }

theorem visit_state (config : Config) (answers : Answers) (s : Daemon) :
    SentryPeer.visit config answers s =
      let entered := { s with tcpClientIpAddressBuffer := answers.stack }
      let left := branchState (SentryPeer.acceptBranch answers entered >>=
        SentryPeer.clientBranch config answers >>= SentryPeer.udpBranch config answers)
      { left with i := left.i + 1 } := by
  unfold SentryPeer.visit branchState
  rfl

theorem visit_runs (config : Config) (answers : Answers) {always : Bool} (events : ℕ)
    (has : always = true → answers.sockname.isSome = true ∧ answers.pktinfo.isSome = true)
    (p : Option ℕ) {s : Daemon} (running : s.status = .running)
    (returned : ∀ abort, (SentryPeer.visit config answers s).status ≠ .aborted abort) :
    Runs (keptBy always events s p) (visit config answers p) (bare s)
      (bare (SentryPeer.visit config answers s))
      fun p' => leftAt always (events + visitLost config answers s)
        (SentryPeer.visit config answers s) p' := by
  rw [visit_state] at returned ⊢
  unfold visit
  refine Runs.onRest rfl ?_
  have ran := body_runs config answers events has p
    (s := { s with tcpClientIpAddressBuffer := answers.stack }) running rfl returned
  refine Runs.bind ran ?_
  intro p'
  refine Runs.onRest rfl ?_
  exact Runs.pure subset_rfl

def stepLost (config : Config) (action : Action) (s : Daemon) : ℕ :=
  match action with
  | .visit answers => visitLost config answers s
  | _ => 0

/-- The events that a run hands to `sip_log_event` and leaves behind. -/
def runLost (config : Config) : List Action → Daemon → ℕ
  | [], _ => 0
  | action :: rest, s =>
      stepLost config action s + ((SentryPeer.daemonStep config action s).elim 0 (runLost config rest))

/-- Every reception finds out the address it was sent to. -/
def AddressesKnown : Action → Prop
  | .visit answers => answers.sockname.isSome = true ∧ answers.pktinfo.isSome = true
  | _ => True

instance : DecidablePred AddressesKnown
  | .visit _ => inferInstanceAs (Decidable (_ ∧ _))
  | .select _ => isTrue trivial
  | .selectFails => isTrue trivial
  | .skip => isTrue trivial

theorem daemonStep_running {config : Config} {action : Action} {s t : Daemon}
    (step : SentryPeer.daemonStep config action s = some t) : s.status = .running := by
  unfold SentryPeer.daemonStep at step
  split at step
  · assumption
  · cases step

theorem daemonStep_runs (config : Config) (action : Action) {always : Bool} (events : ℕ)
    (has : always = true → AddressesKnown action) (p : Option ℕ) {s t : Daemon}
    (step : SentryPeer.daemonStep config action s = some t)
    (returned : ∀ abort, t.status ≠ .aborted abort) :
    Runs (keptBy always events s p) (daemonStep config p action) (bare s) (bare t)
      fun p' => leftAt always (events + stepLost config action s) t p' := by
  have running := daemonStep_running step
  unfold SentryPeer.daemonStep at step
  rw [if_pos running] at step
  cases action with
  | select ready =>
      simp only at step
      split_ifs at step
      cases step
      refine Runs.onRest rfl ?_
      apply Runs.pure
      change _ ⊆ leftAt always events _ none
      exact (keptAt_forget _ _ _ _ _).trans (keptBy_subset_leftAt always events
        { s with reads := ready, i := 1, destIpAddressBuffer := .null } none)
  | selectFails =>
      simp only at step
      split_ifs at step
      cases step
      refine Runs.onRest rfl ?_
      exact Runs.pure (keptBy_subset_leftAt always events { s with status := .exited } p)
  | skip =>
      simp only at step
      split_ifs at step
      cases step
      refine Runs.onRest rfl ?_
      exact Runs.pure (keptBy_subset_leftAt always events { s with i := s.i + 1 } p)
  | visit answers =>
      simp only at step
      split_ifs at step
      cases step
      exact visit_runs config answers events has p running returned

theorem not_aborted_before {config : Config} {actions : List Action} {s t : Daemon}
    (ran : SentryPeer.daemonRun config actions s = some t)
    (returned : ∀ abort, t.status ≠ .aborted abort) : ∀ abort, s.status ≠ .aborted abort := by
  cases actions with
  | nil =>
      cases ran
      exact returned
  | cons action rest =>
      obtain ⟨u, step, -⟩ := Option.bind_eq_some_iff.mp ran
      rw [daemonStep_running step]
      exact fun _ => Status.noConfusion

theorem daemonRun_kept (config : Config) (always : Bool) {actions : List Action}
    (has : always = true → ∀ action ∈ actions, AddressesKnown action) (events : ℕ) (p : Option ℕ)
    {s t : Daemon} (ran : SentryPeer.daemonRun config actions s = some t)
    (returned : ∀ abort, t.status ≠ .aborted abort) :
    Runs (leftAt always events s p) (daemonRun config actions p) (bare s) (bare t)
      fun p' => leftAt always (events + runLost config actions s) t p' := by
  induction actions generalizing events p s with
  | nil =>
      cases ran
      exact Runs.pure subset_rfl
  | cons action rest ih =>
      obtain ⟨u, step, ran⟩ := Option.bind_eq_some_iff.mp ran
      have running := daemonStep_running step
      have lost : runLost config (action :: rest) s = stepLost config action s + runLost config rest u := by
        rw [runLost, step]
        rfl
      rw [leftAt, if_pos running, lost, ← Nat.add_assoc]
      have first := daemonStep_runs config action events (fun all => has all action List.mem_cons_self)
        p step (not_aborted_before ran returned)
      refine Runs.bind first ?_
      intro p'
      exact ih (fun all other member => has all other (List.mem_cons_of_mem action member)) _ p' ran

def refusedPacket : List Action :=
  [.select {3}, .skip, .skip, .visit { quietAnswers none with
    recvmsg := some (CStr.lit "x").bytes
    pktinfo := some (.lit "192.0.2.2")
    udpNameinfo := some clientA
    udpLog := .ok .failure }]

end SentryPeer.OnHeap
