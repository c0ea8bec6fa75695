import SentryPeer.Source.Conf
import SentryPeer.Source.Lifecycle

/-!
# Handlers beside starting and stopping

`main` starts the listeners before it sets `dht_node`, stops the runtime without waiting for its
handlers, and stops SIP without having started it. A run in which none of this meets a handler has no
fault.
-/

namespace SentryPeer.Proof
open Lib

def mainRank : MainStep → Nat
  | .startHttp => 0
  | .startSip => 1
  | .startDht => 2
  | .listenDht => 3
  | .wait => 4
  | .stopHttp => 5
  | .stopSip => 6
  | .joinSip => 7
  | .stopDht => 8
  | .destroyConfig => 9
  | .return => 10
  | .exited => 11

def maySave : HandlerPhase → Bool
  | .received | .calling | .parsed | .stored => true
  | .saved | .returned _ => false

section Steps
variable (build : Build) (config : Config)

/-- There are listeners to stop, and the handlers of the runtime are past what `main` takes away. -/
structure MainReady (s : Lifecycle) : Prop where
  stopSip : s.main = .stopSip →
    config.sipMode = true ∨ (config.newMode = true ∧ build.rust = false)
  stopDht : s.main = .stopDht → config.newMode = true → dhtMode build config = true →
    ∀ phase ∈ s.handlers, maySave phase = false
  destroyConfig : s.main = .destroyConfig → config.newMode = true →
    s.listener ≠ .listening ∧ ∀ phase ∈ s.handlers, readsConfig config phase = false

/-- What has to be so before a step. A packet is taken up only while the node is running. -/
def Synchronised (s : Lifecycle) : LifecycleEvent → Prop
  | .main _ => MainReady build config s
  | .packet => s.listener = .listening → dhtMode build config = true → s.dhtNode = .running
  | .handler _ _ => True
  | .listenerEnds => True

instance (s : Lifecycle) : Decidable (MainReady build config s) :=
  decidable_of_iff (_ ∧ _ ∧ _)
    ⟨fun ready => ⟨ready.1, ready.2.1, ready.2.2⟩,
      fun ready => ⟨ready.stopSip, ready.stopDht, ready.destroyConfig⟩⟩

instance (s : Lifecycle) : (event : LifecycleEvent) → Decidable (Synchronised build config s event)
  | .main _ => inferInstanceAs (Decidable (MainReady build config s))
  | .packet => inferInstanceAs (Decidable (_ → _ → _))
  | .handler _ _ => isTrue trivial
  | .listenerEnds => isTrue trivial

structure Started (s : Lifecycle) : Prop where
  live : mainRank s.main ≤ 9 → s.configLive = true
  http : config.apiMode = true → 1 ≤ mainRank s.main → mainRank s.main ≤ 5 → s.httpDaemon = true
  thread : config.sipMode = true → config.newMode = false → 2 ≤ mainRank s.main →
    mainRank s.main ≤ 6 → s.sipDaemonThread = true
  channel : config.sipMode = true → config.newMode = true → build.rust = true →
    2 ≤ mainRank s.main → mainRank s.main ≤ 6 → s.sipChannel = true
  node : dhtMode build config = true → 3 ≤ mainRank s.main → mainRank s.main ≤ 8 →
    s.dhtNode = .running

structure Served (s : Lifecycle) : Prop where
  saving : dhtMode build config = true → ∀ phase ∈ s.handlers, maySave phase = true →
    s.dhtNode = .running
  reading : ∀ phase ∈ s.handlers, readsConfig config phase = true → s.configLive = true
  listening : s.listener = .listening → s.configLive = true
  unserved : config.newMode = true → build.rust = false → s.listener ≠ .listening ∧ s.handlers = []
  quiet : config.newMode = false → s.listener ≠ .listening → s.handlers = []
  joined : config.newMode = false → 8 ≤ mainRank s.main → mainRank s.main ≤ 10 →
    s.listener ≠ .listening

/-! ## The steps of `main` -/

/-- What `main` makes of a state, where nothing goes wrong. -/
inductive MainMoves (s : Lifecycle) : Lifecycle → Prop
  | exits (step : mainRank s.main ≤ 1 ∨ s.main = .return) : MainMoves s { s with main := .exited }
  | httpOff (step : s.main = .startHttp) (off : config.apiMode = false) :
      MainMoves s { s with main := .startSip }
  | httpStarts (step : s.main = .startHttp) :
      MainMoves s { s with main := .startSip, httpDaemon := true }
  | sipOff (step : s.main = .startSip)
      (off : config.sipMode = true → config.newMode = true ∧ build.rust = false) :
      MainMoves s { s with main := .startDht }
  | runtimeStarts (step : s.main = .startSip) (new : config.newMode = true)
      (rust : build.rust = true) :
      MainMoves s { s with main := .startDht, listener := .listening, sipChannel := true }
  | threadStarts (step : s.main = .startSip) (old : config.newMode = false) :
      MainMoves s { s with main := .startDht, listener := .listening, sipDaemonThread := true }
  | dhtOff (step : s.main = .startDht) (off : dhtMode build config = false) :
      MainMoves s { s with main := .wait }
  | dhtStarts (step : s.main = .startDht) :
      MainMoves s { s with main := .listenDht, dhtNode := .running }
  | passes {next : MainStep} (step : 3 ≤ mainRank s.main) (later : mainRank s.main ≤ mainRank next)
      (before : mainRank next ≤ 7) : MainMoves s { s with main := next }
  | sipStops (step : s.main = .stopSip ∨ s.main = .joinSip)
      (joined : config.newMode = false → s.listener = .ended) : MainMoves s { s with main := .stopDht }
  | dhtKept (step : s.main = .stopDht) (off : dhtMode build config = false) :
      MainMoves s { s with main := .destroyConfig }
  | dhtStops (step : s.main = .stopDht) (on : dhtMode build config = true) :
      MainMoves s { s with main := .destroyConfig, dhtNode := .deleted }
  | destroys (step : s.main = .destroyConfig) :
      MainMoves s { s with main := .return, configLive := false }

variable {build config} {s : Lifecycle}

theorem startHttp_moves (succeeds : Bool) (step : s.main = .startHttp) :
    MainMoves build config s (startHttp config succeeds s) := by
  unfold startHttp
  split
  · rename_i off
    exact .httpOff step (by simpa using off)
  · split
    · exact .httpStarts step
    · exact .exits (by simp [step, mainRank])

theorem startSip_moves (succeeds : Bool) (step : s.main = .startSip) :
    MainMoves build config s (startSip build config succeeds s) := by
  have early : mainRank s.main ≤ 1 ∨ s.main = .return := .inl (by rw [step]; rfl)
  unfold startSip
  split
  · rename_i off
    exact .sipOff step fun on => by simp [on] at off
  · split
    · rename_i new
      split
      · rename_i noRust
        exact .sipOff step fun _ => ⟨new, by simpa using noRust⟩
      · rename_i rust
        split
        · exact .runtimeStarts step new (by simpa using rust)
        · exact .exits early
    · rename_i old
      split
      · exact .threadStarts step (by simpa using old)
      · exact .exits early

theorem startDht_moves (step : s.main = .startDht) :
    MainMoves build config s (startDht build config s) := by
  unfold startDht
  split
  · exact .dhtStarts step
  · rename_i off
    exact .dhtOff step (by simpa using off)

theorem stopHttp_moves (started : Started build config s) (step : s.main = .stopHttp) :
    ∃ t, stopHttp config s = .ok t ∧ MainMoves build config s t := by
  have passes : MainMoves build config s { s with main := .stopSip } :=
    .passes (by simp [step, mainRank]) (by simp [step, mainRank]) (by simp [mainRank])
  unfold stopHttp
  split
  · exact ⟨_, rfl, passes⟩
  · rename_i on
    have running := started.http (by simpa using on) (by simp [step, mainRank])
      (by simp [step, mainRank])
    rw [if_neg (by simp [running])]
    exact ⟨_, rfl, passes⟩

theorem sipDaemonStop_moves (started : Started build config s) (step : s.main = .stopSip)
    (met : config.sipMode = true ∨ (config.newMode = true ∧ build.rust = false)) (succeeds : Bool) :
    ∃ t, sipDaemonStop build config succeeds s = .ok t ∧ MainMoves build config s t := by
  have low : 2 ≤ mainRank s.main := by simp [step, mainRank]
  have high : mainRank s.main ≤ 6 := by simp [step, mainRank]
  unfold sipDaemonStop
  cases new : config.newMode with
  | true =>
      have stops : MainMoves build config s { s with main := .stopDht } :=
        .sipStops (.inl step) fun old => by simp [old] at new
      cases rust : build.rust with
      | false => exact ⟨_, rfl, stops⟩
      | true =>
          have on : config.sipMode = true := met.elim id fun none_ => by simp [none_.2] at rust
          have channel := started.channel on new rust low high
          rw [if_pos rfl, if_neg (by decide), if_neg (by simp [channel])]
          exact ⟨_, rfl, stops⟩
  | false =>
      have on : config.sipMode = true := met.elim id fun none_ => by simp [none_.1] at new
      have thread := started.thread on new low high
      rw [if_neg (by decide), if_neg (by simp [thread])]
      split
      · rename_i gone
        exact ⟨_, rfl, .sipStops (.inl step) fun _ => by simpa using (Bool.and_eq_true_iff.mp gone).1⟩
      · exact ⟨_, rfl, .passes (by simp [step, mainRank]) (by simp [step, mainRank])
          (by simp [mainRank])⟩

theorem stopDht_moves (started : Started build config s) (step : s.main = .stopDht) :
    ∃ t, stopDht build config s = .ok t ∧ MainMoves build config s t := by
  unfold stopDht
  cases on : dhtMode build config with
  | false => exact ⟨_, rfl, .dhtKept step on⟩
  | true =>
      have running := started.node on (by simp [step, mainRank]) (by simp [step, mainRank])
      rw [running]
      exact ⟨_, rfl, .dhtStops step on⟩

theorem mainStep_moves (started : Started build config s) (met : MainReady build config s)
    (running : s.main ≠ .exited) (succeeds : Bool) :
    ∃ t, mainStep build config succeeds s = .ok t ∧ MainMoves build config s t := by
  unfold mainStep
  cases step : s.main with
  | startHttp => exact ⟨_, rfl, startHttp_moves succeeds step⟩
  | startSip => exact ⟨_, rfl, startSip_moves succeeds step⟩
  | startDht => exact ⟨_, rfl, startDht_moves step⟩
  | listenDht => exact ⟨_, rfl, .passes (by simp [step, mainRank]) (by simp [step, mainRank])
      (by simp [mainRank])⟩
  | wait => exact ⟨_, rfl, .passes (by simp [step, mainRank]) (by simp [step, mainRank])
      (by simp [mainRank])⟩
  | stopHttp => exact stopHttp_moves started step
  | stopSip => exact sipDaemonStop_moves started step (met.stopSip step) succeeds
  | joinSip =>
      refine ⟨_, rfl, ?_⟩
      split
      · rename_i ended
        exact .sipStops (.inr step) fun _ => ended
      · -- `pthread_join` is still waiting
        have stays : s = { s with main := .joinSip } := by rw [← step]
        rw [stays]
        exact .passes (by simp [mainRank]) (by simp [mainRank]) (by simp [mainRank])
  | stopDht => exact stopDht_moves started step
  | destroyConfig => exact ⟨_, rfl, .destroys step⟩
  | «return» => exact ⟨_, rfl, .exits (.inr step)⟩
  | exited => exact absurd step running

/-! ## What `main` keeps -/

theorem Started.ofSip (started : Started build config s) (step : s.main = .startSip)
    {listener : Listener} {thread channel : Bool}
    (isThread : config.sipMode = true → config.newMode = false → thread = true)
    (isChannel : config.sipMode = true → config.newMode = true → build.rust = true →
      channel = true) :
    Started build config { s with
      main := .startDht, listener := listener, sipDaemonThread := thread, sipChannel := channel } := by
  obtain ⟨live, http, -, -, -⟩ := started
  rw [step] at live http
  exact ⟨fun _ => live (by decide), fun on _ _ => http on (by decide) (by decide),
    fun on old _ _ => isThread on old, fun on new rust _ _ => isChannel on new rust,
    by simp [mainRank]⟩

theorem Started.ofDht (started : Started build config s) (step : s.main = .startDht)
    {next : MainStep} {node : DhtNode}
    (isNode : dhtMode build config = true → node = .running) :
    Started build config { s with main := next, dhtNode := node } := by
  obtain ⟨live, http, thread, channel, -⟩ := started
  rw [step] at live http thread channel
  exact ⟨fun _ => live (by decide), fun on _ _ => http on (by decide) (by decide),
    fun on old _ _ => thread on old (by decide) (by decide),
    fun on new rust _ _ => channel on new rust (by decide) (by decide), fun on _ _ => isNode on⟩

theorem MainMoves.started {t : Lifecycle} (moves : MainMoves build config s t)
    (started : Started build config s) : Started build config t := by
  have live := started.live
  cases moves with
  | exits step => constructor <;> simp [mainRank]
  | httpOff step off =>
      rw [step] at live
      constructor <;> simp [mainRank, off, live (by decide)]
  | httpStarts step =>
      rw [step] at live
      constructor <;> simp [mainRank, live (by decide)]
  | sipOff step off =>
      apply started.ofSip step
      · intro on old
        rw [(off on).1] at old
        cases old
      · intro on _ rust
        rw [(off on).2] at rust
        cases rust
  | runtimeStarts step new rust =>
      apply started.ofSip step
      · intro _ old
        rw [new] at old
        cases old
      · exact fun _ _ _ => rfl
  | threadStarts step old =>
      apply started.ofSip step
      · exact fun _ _ => rfl
      · intro _ new
        rw [old] at new
        cases new
  | dhtOff step off =>
      apply started.ofDht step
      intro on
      rw [off] at on
      cases on
  | dhtStarts step => exact started.ofDht step fun _ => rfl
  | passes step later before =>
      exact ⟨fun _ => live (by omega), fun on _ high => started.http on (by omega) (later.trans high),
        fun on old _ high => started.thread on old (by omega) (later.trans high),
        fun on new rust _ high => started.channel on new rust (by omega) (later.trans high),
        fun on _ _ => started.node on step (by omega)⟩
  | sipStops step joined =>
      have place : 3 ≤ mainRank s.main ∧ mainRank s.main ≤ 8 := by
        rcases step with step | step <;> simp [step, mainRank]
      refine ⟨fun _ => live (by omega), ?_, ?_, ?_, fun on _ _ => started.node on place.1 place.2⟩ <;>
        simp [mainRank]
  | dhtKept step off =>
      rw [step] at live
      constructor <;> simp [mainRank, off, live (by decide)]
  | dhtStops step on =>
      rw [step] at live
      constructor <;> simp [mainRank, live (by decide)]
  | destroys step => constructor <;> simp [mainRank]

theorem Served.elsewhere (served : Served build config s) {next : MainStep}
    (joined : config.newMode = false → 8 ≤ mainRank next → mainRank next ≤ 10 →
      s.listener ≠ .listening) : Served build config { s with main := next } :=
  { served with joined := joined }

theorem Served.alone (served : Served build config s) (low : 8 ≤ mainRank s.main)
    (high : mainRank s.main ≤ 10) (old : config.newMode = false) :
    s.listener ≠ .listening ∧ s.handlers = [] := by
  have ended := served.joined old low high
  exact ⟨ended, served.quiet old ended⟩

/-- No handler of the thread is left when the node is stopped, and none of the runtime may save. -/
theorem Served.noneSaves (served : Served build config s) (ready : MainReady build config s)
    (step : s.main = .stopDht) (on : dhtMode build config = true) :
    ∀ phase ∈ s.handlers, maySave phase = false := by
  cases new : config.newMode with
  | true => exact ready.stopDht step new on
  | false =>
      rw [(served.alone (by simp [step, mainRank]) (by simp [step, mainRank]) new).2]
      exact List.forall_mem_nil _

theorem Served.noneReads (served : Served build config s) (ready : MainReady build config s)
    (step : s.main = .destroyConfig) :
    s.listener ≠ .listening ∧ ∀ phase ∈ s.handlers, readsConfig config phase = false := by
  cases new : config.newMode with
  | true => exact ready.destroyConfig step new
  | false =>
      obtain ⟨ended, empty⟩ :=
        served.alone (by simp [step, mainRank]) (by simp [step, mainRank]) new
      rw [empty]
      exact ⟨ended, List.forall_mem_nil _⟩

theorem MainMoves.served {t : Lifecycle} (moves : MainMoves build config s t)
    (served : Served build config s) (live : mainRank s.main ≤ 9 → s.configLive = true)
    (ready : MainReady build config s) : Served build config t := by
  cases moves with
  | exits step => exact served.elsewhere (by simp [mainRank])
  | httpOff step off => exact served.elsewhere (by simp [mainRank])
  | httpStarts step => exact { served with joined := by simp [mainRank] }
  | sipOff step off => exact served.elsewhere (by simp [mainRank])
  | runtimeStarts step new rust =>
      rw [step] at live
      exact { served with
        listening := fun _ => live (by decide)
        unserved := fun _ noRust => by simp [noRust] at rust
        quiet := fun old => by simp [old] at new
        joined := by simp [mainRank] }
  | threadStarts step old =>
      rw [step] at live
      exact { served with
        listening := fun _ => live (by decide)
        unserved := fun new => by simp [new] at old
        quiet := fun _ silent => absurd rfl silent
        joined := by simp [mainRank] }
  | dhtOff step off => exact served.elsewhere (by simp [mainRank])
  | dhtStarts step =>
      exact { served with
        saving := fun _ _ _ _ => rfl
        joined := by simp [mainRank] }
  | passes step later before => exact served.elsewhere fun _ _ _ => by omega
  | sipStops step joined =>
      exact served.elsewhere fun old _ _ listening => by simp [joined old] at listening
  | dhtKept step off =>
      exact served.elsewhere fun old _ _ =>
        (served.alone (by simp [step, mainRank]) (by simp [step, mainRank]) old).1
  | dhtStops step on =>
      refine { served with
        saving := ?_
        joined := fun old _ _ =>
          (served.alone (by simp [step, mainRank]) (by simp [step, mainRank]) old).1 }
      intro _ phase member saves
      rw [served.noneSaves ready step on phase member] at saves
      cases saves
  | destroys step =>
      obtain ⟨ended, quiet⟩ := served.noneReads ready step
      refine { served with
        reading := ?_
        listening := fun listening => absurd listening ended
        joined := fun _ _ _ => ended }
      intro phase member reads
      rw [quiet phase member] at reads
      cases reads

/-! ## The steps of the handlers and of the listeners -/

theorem Served.ofHandlers (served : Served build config s) {handlers : List HandlerPhase}
    (fewer : ∀ phase ∈ handlers, ∃ before ∈ s.handlers,
      (maySave phase = true → maySave before = true) ∧
      (readsConfig config phase = true → readsConfig config before = true)) :
    Served build config { s with handlers := handlers } := by
  have none_ (empty : s.handlers = []) : handlers = [] := by
    apply List.eq_nil_iff_forall_not_mem.mpr
    intro phase member
    obtain ⟨before, isBefore, -⟩ := fewer phase member
    rw [empty] at isBefore
    cases isBefore
  refine { served with
    saving := ?_
    reading := ?_
    unserved := fun new noRust => ⟨(served.unserved new noRust).1, none_ (served.unserved new noRust).2⟩
    quiet := fun old silent => none_ (served.quiet old silent) }
  · intro on phase member saves
    obtain ⟨before, isBefore, still, -⟩ := fewer phase member
    exact served.saving on before isBefore (still saves)
  · intro phase member reads
    obtain ⟨before, isBefore, -, still⟩ := fewer phase member
    exact served.reading before isBefore (still reads)

theorem handlerNext_fewer {phase : HandlerPhase} (succeeds : Bool)
    (saving : dhtMode build config = true → maySave phase = true → s.dhtNode = .running) :
    ∃ next, handlerNext build config succeeds s phase = .ok next ∧ ∀ after ∈ next,
      (maySave after = true → maySave phase = true) ∧
      (readsConfig config after = true → readsConfig config phase = true) := by
  cases phase with
  | received => exact ⟨_, rfl, fun _ _ => ⟨fun _ => rfl, fun _ => rfl⟩⟩
  | calling => exact ⟨_, rfl, fun _ _ => ⟨fun _ => rfl, fun _ => rfl⟩⟩
  | parsed => exact ⟨_, rfl, fun _ _ => ⟨fun _ => rfl, fun _ => rfl⟩⟩
  | stored =>
      unfold handlerNext
      cases on : dhtMode build config with
      | false => exact ⟨_, rfl, fun _ _ => ⟨fun _ => rfl, fun _ => rfl⟩⟩
      | true =>
          rw [if_pos rfl, Lifecycle.peerToPeerDhtSave, saving on rfl]
          exact ⟨_, rfl, fun _ _ => ⟨fun _ => rfl, fun _ => rfl⟩⟩
  | saved =>
      refine ⟨_, rfl, fun after isAfter => ⟨?_, fun _ => rfl⟩⟩
      cases isAfter
      exact fun saves => saves
  | returned exit => exact ⟨_, rfl, nofun⟩

theorem handlerStep_served (served : Served build config s) (i : Nat) (succeeds : Bool) :
    ∃ handlers, handlerStep build config i succeeds s = .ok { s with handlers := handlers } ∧
      Served build config { s with handlers := handlers } := by
  unfold handlerStep
  cases found : s.handlers[i]? with
  | none => exact ⟨s.handlers, rfl, served⟩
  | some phase =>
      have member : phase ∈ s.handlers := List.mem_of_getElem? found
      have live : (readsConfig config phase && !s.configLive) = false := by
        cases reads : readsConfig config phase with
        | false => rfl
        | true => rw [served.reading phase member reads]; rfl
      obtain ⟨next, isNext, fewer⟩ := handlerNext_fewer succeeds
        fun on saves => served.saving on phase member saves
      simp only [live, Bool.false_eq_true, ↓reduceIte, isNext]
      cases next with
      | none =>
          refine ⟨_, rfl, served.ofHandlers fun other isOther => ⟨other, ?_, id, id⟩⟩
          exact List.mem_of_mem_eraseIdx isOther
      | some after =>
          refine ⟨_, rfl, served.ofHandlers fun other isOther => ?_⟩
          rcases List.mem_or_eq_of_mem_set isOther with old | same
          · exact ⟨other, old, id, id⟩
          · rw [same]
            exact ⟨phase, member, fewer after rfl⟩

theorem takePacket_served (served : Served build config s)
    (met : Synchronised build config s .packet) : Served build config (takePacket config s) := by
  unfold takePacket
  split
  · rename_i taken
    simp only [Bool.and_eq_true, decide_eq_true_eq] at taken
    have listening := taken.1
    refine { served with
      saving := ?_
      reading := fun _ _ _ => served.listening listening
      unserved := fun new noRust => absurd listening (served.unserved new noRust).1
      quiet := fun _ silent => absurd listening silent }
    exact fun on _ _ _ => met listening on
  · exact served

theorem endListener_served (served : Served build config s) :
    Served build config (endListener config s) := by
  unfold endListener
  split
  · exact served
  · split
    · rename_i listening new
      refine { served with
        listening := nofun
        unserved := fun _ noRust => ⟨nofun, (served.unserved new noRust).2⟩
        quiet := fun old => ?_
        joined := nofun }
      rw [new] at old
      cases old
    · exact ⟨nofun, nofun, nofun, fun _ _ => ⟨nofun, rfl⟩, fun _ _ => rfl, nofun⟩

/-! ## Runs -/

theorem lifecycleStep_safe (started : Started build config s) (served : Served build config s)
    {event : LifecycleEvent} (met : Synchronised build config s event) :
    ∃ t, lifecycleStep build config s event = .ok t ∧ Started build config t ∧
      Served build config t := by
  unfold lifecycleStep
  split
  · exact ⟨s, rfl, started, served⟩
  · rename_i running
    cases event with
    | main succeeds =>
        obtain ⟨t, ran, moves⟩ := mainStep_moves started met running succeeds
        exact ⟨t, ran, moves.started started, moves.served served started.live met⟩
    | packet =>
        refine ⟨_, rfl, ?_, takePacket_served served met⟩
        unfold takePacket
        split
        · exact { started with }
        · exact started
    | handler i succeeds =>
        obtain ⟨handlers, ran, served⟩ := handlerStep_served served i succeeds
        exact ⟨_, ran, { started with }, served⟩
    | listenerEnds =>
        refine ⟨_, rfl, ?_, endListener_served served⟩
        unfold endListener
        split
        · exact started
        · split
          · exact { started with }
          · exact { started with }

theorem initialLifecycle_started : Started build config initialLifecycle := by
  constructor <;> simp [initialLifecycle, mainRank]

theorem initialLifecycle_served : Served build config initialLifecycle := by
  constructor <;> simp [initialLifecycle]

variable (build config) in
theorem lifecycle_safe (events : List LifecycleEvent) (met : Throughout
      (lifecycleStep build config) (Synchronised build config) events initialLifecycle) :
    ∃ s, lifecycleRun build config events = .ok s ∧ Started build config s ∧
      Served build config s := by
  apply met.foldlM ⟨initialLifecycle_started, initialLifecycle_served⟩
  intro s event ⟨started, served⟩ ready
  exact lifecycleStep_safe started served ready

end Steps

def runtimeBuild : Build := ⟨true, true⟩

def runtimeConfig : Config := sentrypeerConfigNew runtimeBuild (.lit "e1d4")

def mainSteps (n : Nat) : List LifecycleEvent := List.replicate n (.main true)
def handlerSteps (n : Nat) : List LifecycleEvent := List.replicate n (.handler 0 true)

/-- A packet is handled while the node is running, and the runtime ends before the node is stopped. -/
theorem lifecycle_safe_one_packet : ∃ s, lifecycleRun runtimeBuild
    { runtimeConfig with p2pDhtMode := true } (mainSteps 4 ++ .packet :: handlerSteps 6 ++
      mainSteps 3 ++ .listenerEnds :: mainSteps 3) = .ok s ∧ s.main = .exited := by
  obtain ⟨s, ran, -⟩ := lifecycle_safe runtimeBuild { runtimeConfig with p2pDhtMode := true }
    (mainSteps 4 ++ .packet :: handlerSteps 6 ++ mainSteps 3 ++ .listenerEnds :: mainSteps 3)
    (by decide)
  refine ⟨s, ran, ?_⟩
  cases ran
  rfl

/-- A packet before `dht_node` is set, one that is not saved when the runner is deleted, one that is
not handled when the config is destroyed, and no SIP at all. -/
theorem lifecycle_faults :
    lifecycleRun runtimeBuild { runtimeConfig with p2pDhtMode := true }
      (mainSteps 2 ++ .packet :: handlerSteps 4) = .error .dhtNodeUnset ∧
    lifecycleRun runtimeBuild { runtimeConfig with p2pDhtMode := true }
      (mainSteps 4 ++ .packet :: mainSteps 4 ++ handlerSteps 4) = .error .runnerDeleted ∧
    lifecycleRun runtimeBuild runtimeConfig
      (mainSteps 3 ++ .packet :: mainSteps 5 ++ handlerSteps 1) = .error .configDestroyed ∧
    lifecycleRun runtimeBuild { runtimeConfig with sipMode := false } (mainSteps 6) =
      .error .sipNotStarted := by
  refine ⟨?_, ?_, ?_, ?_⟩ <;> rfl

end SentryPeer.Proof
