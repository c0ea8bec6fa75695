import SentryPeer.Proof.DhtValue

/-!
# The stores after a run

A call that returns `EXIT_SUCCESS` has added one row. It has added a line to the JSON log and called
the webhook sender only where the build and `new_mode` let it.
-/

namespace SentryPeer.Proof
open Lib

/-- Whether `bad_actor_log` looks at `json_log_mode` and `webhook_mode` at all. -/
def fansOut (build : Build) (config : Config) : Bool := !build.rust || config.newMode

def jsonLogged (build : Build) (config : Config) (events : List BadActor) : List BadActor :=
  if fansOut build config && config.jsonLogMode then events else []

def posted (build : Build) (config : Config) (events : List BadActor) : List BadActor :=
  if fansOut build config && config.webhookMode then events else []

theorem jsonLogged_append (build : Build) (config : Config) (events more : List BadActor) :
    jsonLogged build config (events ++ more) =
      jsonLogged build config events ++ jsonLogged build config more := by
  unfold jsonLogged
  split <;> rfl

theorem posted_append (build : Build) (config : Config) (events more : List BadActor) :
    posted build config (events ++ more) =
      posted build config events ++ posted build config more := by
  unfold posted
  split <;> rfl

/-! ## One call -/

section Call
variable {build : Build} {jansson : Jansson} {serde : Serde} {config : Config}
  {answers : StoreAnswers} {badActor : BadActor} {s t : Stores}

theorem onJsonLog_eq_ok {call : List UInt8 → Except Abort (Exit × List UInt8)} {exit : Exit}
    (ran : onJsonLog call s = .ok exit t) :
    ∃ log, call s.jsonLog = .ok (exit, log) ∧ t = { s with jsonLog := log } := by
  unfold onJsonLog at ran
  split at ran
  · rename_i called
    cases ran
    exact ⟨_, called, rfl⟩
  · cases ran

def LinesAdded (jansson : Jansson) (events : List BadActor) (s t : Stores) : Prop :=
  ∃ lines, t = { s with jsonLog := s.jsonLog ++ logText lines } ∧
    List.Forall₂ (LineOf jansson) events lines

theorem LinesAdded.none : LinesAdded jansson [] s s :=
  ⟨[], by simp [logText], .nil⟩

theorem LinesAdded.one {line : List UInt8} (isLine : LineOf jansson badActor line) :
    LinesAdded jansson [badActor] s { s with jsonLog := s.jsonLog ++ (line ++ [0x0A]) } :=
  ⟨[line], by simp [logText], .cons isLine .nil⟩

theorem badActorLogJson_success (rfc : Rfc8259 jansson serde) (kept : answers.logIo.arrived = none)
    (ran : badActorLogJson build (storeSinks build jansson serde config answers) config badActor s =
      .ok .success t) :
    LinesAdded jansson (jsonLogged build config [badActor]) s t := by
  unfold badActorLogJson at ran
  unfold jsonLogged fansOut
  split_ifs at ran with rust newLog cLog
  · obtain ⟨log, called, rfl⟩ := onJsonLog_eq_ok ran
    obtain ⟨line, isLine, rfl⟩ := jsonLogBadActorRs_adds rfc kept called
    simp only [rust, Bool.not_true, Bool.false_or, newLog, ↓reduceIte]
    exact .one isLine
  · cases ran
    simp only [rust, Bool.not_true, Bool.false_or, newLog]
    exact .none
  · obtain ⟨log, called, rfl⟩ := onJsonLog_eq_ok ran
    obtain ⟨line, isLine, rfl⟩ := jsonLogBadActor_adds rfc kept called
    simp only [rust, Bool.not_false, Bool.true_or, Bool.true_and, cLog, ↓reduceIte]
    exact .one isLine
  · cases ran
    simp only [rust, Bool.not_false, Bool.true_or, Bool.true_and, cLog]
    exact .none

theorem postWebhook_run (answered : answers.webhook = .ok .success) :
    postWebhook answers.webhook badActor s =
      .ok .success { s with posts := s.posts ++ [badActor] } := by
  rw [postWebhook, answered]
  rfl

theorem badActorLogWebhook_run (answered : answers.webhook = .ok .success) :
    badActorLogWebhook build (storeSinks build jansson serde config answers) config badActor s =
      .ok .success { s with posts := s.posts ++ posted build config [badActor] } := by
  unfold badActorLogWebhook posted fansOut
  cases rust : build.rust with
  | true =>
      simp only [Bool.not_true, Bool.false_or, ↓reduceIte]
      split
      · exact postWebhook_run answered
      · rw [List.append_nil]
        rfl
  | false =>
      simp only [Bool.not_false, Bool.true_or, Bool.true_and, Bool.false_eq_true, ↓reduceIte]
      split
      · exact postWebhook_run answered
      · rw [List.append_nil]
        rfl

theorem dbInsertBadActor_succeeds {succeeds : InsertCall → Bool} (all : ∀ call, succeeds call = true)
    (badActor : BadActor) (honey : List HoneyRow) :
    dbInsertBadActor succeeds badActor honey = (.success, honey ++ [honeyRow badActor]) := by
  simp [dbInsertBadActor, all]

theorem badActorLog_success (rfc : Rfc8259 jansson serde) (faultless : answers.Faultless)
    (ran : badActorLog build (storeSinks build jansson serde config answers) config badActor s =
      .ok .success t) :
    ∃ logged, LinesAdded jansson (jsonLogged build config [badActor]) s logged ∧
      t = { logged with
        honey := logged.honey ++ [honeyRow badActor]
        posts := logged.posts ++ posted build config [badActor] } := by
  obtain ⟨exit, logged, ranJson, ran⟩ := run_bind_eq_ok.mp ran
  cases exit with
  | failure => cases ran
  | success =>
      refine ⟨logged, badActorLogJson_success rfc (by rw [faultless.logIo]; rfl) ranJson, ?_⟩
      simp only [ne_eq, not_true_eq_false, ↓reduceIte, run_bind, storeSinks_insert,
        dbInsertBadActor_succeeds faultless.insert, badActorLogWebhook_run faultless.webhook] at ran
      cases ran
      rfl

end Call

/-! ## Runs -/

section Runs
variable {build : Build} {jansson : Jansson} {serde : Serde} {config : Config}
  {events : List BadActor} {s : Stores}

theorem badActorLogRun_effect (rfc : Rfc8259 jansson serde)
    (run : BadActorLogRun build jansson serde config events s) :
    s.honey = events.map honeyRow ∧ s.posts = posted build config events ∧
      ∃ lines, s.jsonLog = logText lines ∧
        List.Forall₂ (LineOf jansson) (jsonLogged build config events) lines := by
  induction run with
  | nil =>
      refine ⟨rfl, by simp [posted, emptyStores], [], rfl, ?_⟩
      simp [jsonLogged]
  | log run badActor answers faultless ran ih =>
      obtain ⟨honey, posts, lines, jsonLog, areLines⟩ := ih
      obtain ⟨logged, ⟨added, rfl, isLine⟩, rfl⟩ := badActorLog_success rfc faultless ran
      refine ⟨?_, ?_, lines ++ added, ?_, ?_⟩
      · simp [honey]
      · simp [posts, posted_append]
      · simp [jsonLog, logText]
      · rw [jsonLogged_append]
        exact List.rel_append areLines isLine

/-- The JSON log, decoded line by line, has the UUIDs of the table in its order; the table has one
row for each event, and with a webhook the sender has been called once for each. -/
structure StoresAgree (jansson : Jansson) (config : Config) (fresh : Fresh)
    (events : List BadActor) (s : Stores) : Prop where
  logged : ∃ records : List BadActor, readLog jansson config fresh s.jsonLog = .ok (records.map some) ∧
    records.map BadActor.eventUuid = s.honey.map fun row => some (orEmpty row.eventUuid)
  stored : s.honey = events.map honeyRow
  posted : config.webhookMode = true → s.posts = events

theorem storesAgree_of_logged (rfc : Rfc8259 jansson serde)
    (run : BadActorLogRun build jansson serde config events s)
    (all : jsonLogged build config events = events)
    (sent : config.webhookMode = true → posted build config events = events) (fresh : Fresh) :
    StoresAgree jansson config fresh events s := by
  obtain ⟨honey, posts, lines, jsonLog, areLines⟩ := badActorLogRun_effect rfc run
  rw [all] at areLines
  have read := readLog_logText config fresh areLines
  refine ⟨⟨events.map readBack, ?_, ?_⟩, honey, fun web => posts.trans (sent web)⟩
  · rw [jsonLog, read, List.map_map]
    rfl
  · rw [honey, List.map_map, List.map_map]
    rfl

theorem not_storesAgree_of_skipped (rfc : Rfc8259 jansson serde)
    (run : BadActorLogRun build jansson serde config events s)
    (skipped : jsonLogged build config events = []) (nonempty : events ≠ []) (fresh : Fresh) :
    ¬ StoresAgree jansson config fresh events s := by
  intro agree
  obtain ⟨honey, -, lines, jsonLog, areLines⟩ := badActorLogRun_effect rfc run
  rw [skipped] at areLines
  have read := readLog_logText config fresh areLines
  obtain ⟨records, readRecords, same⟩ := agree.logged
  rw [jsonLog, read] at readRecords
  have none_ : records = [] := List.map_eq_nil_iff.mp (Except.ok.inj readRecords).symm
  rw [none_, honey, List.map_nil, eq_comm, List.map_map, List.map_eq_nil_iff] at same
  exact nonempty same

theorem storesAgree_iff (rfc : Rfc8259 jansson serde) (logging : config.jsonLogMode = true)
    (run : BadActorLogRun build jansson serde config events s) (fresh : Fresh) :
    StoresAgree jansson config fresh events s ↔
      (build.rust = true → config.newMode = true) ∨ events = [] := by
  constructor
  · intro agree
    by_contra neither
    rw [not_or] at neither
    have quiet : fansOut build config = false := by simpa [fansOut] using neither.1
    have skipped : jsonLogged build config events = [] := by simp [jsonLogged, quiet]
    exact not_storesAgree_of_skipped rfc run skipped neither.2 fresh agree
  · rintro (open_ | rfl)
    · have fans : fansOut build config = true := by
        cases rust : build.rust with
        | false => simp [fansOut, rust]
        | true => simp [fansOut, open_ rust]
      apply storesAgree_of_logged rfc run
      · simp [jsonLogged, fans, logging]
      · intro web
        simp [posted, fans, web]
    · apply storesAgree_of_logged rfc run
      · simp [jsonLogged]
      · simp [posted]

variable (build jansson serde config) in
theorem badActorLog_faultless {answers : StoreAnswers} {badActor : BadActor}
    (faultless : answers.Faultless) (utf8 : Utf8Fields badActor)
    (named : validUtf8 config.jsonLogFile.bytes = true) (s : Stores) :
    ∃ t, badActorLog build (storeSinks build jansson serde config answers) config badActor s =
      .ok .success t := by
  have logs (rs : Bool) : ∃ after, LogEntry.log jansson serde faultlessIo
      ⟨rs, build, config, badActor⟩ s.jsonLog = .ok (.success, after) := by
    let entry : LogEntry := ⟨rs, build, config, badActor⟩
    rcases entry.log_utf8 utf8 s.jsonLog with ok | ⟨-, unnamed, -⟩
    · exact ok
    · rw [named] at unnamed
      cases unnamed
  have json : ∃ logged, badActorLogJson build (storeSinks build jansson serde config answers) config
      badActor s = .ok .success logged := by
    unfold badActorLogJson
    split_ifs
    · obtain ⟨after, ran⟩ := logs true
      simp only [storeSinks, faultless.logIo]
      exact ⟨_, onJsonLog_ok ran⟩
    · exact ⟨s, rfl⟩
    · obtain ⟨after, ran⟩ := logs false
      simp only [storeSinks, faultless.logIo]
      exact ⟨_, onJsonLog_ok ran⟩
    · exact ⟨s, rfl⟩
  obtain ⟨logged, ran⟩ := json
  simp only [badActorLog, run_bind, ran, ne_eq, not_true_eq_false, ↓reduceIte, storeSinks_insert,
    dbInsertBadActor_succeeds faultless.insert, badActorLogWebhook_run faultless.webhook]
  exact ⟨_, rfl⟩

end Runs

def loggingConfig (build : Build) : Config :=
  { sentrypeerConfigNew build (.lit "e1d4") with jsonLogMode := true, webhookMode := true }

theorem storingAnswers_faultless : storingAnswers.Faultless := ⟨rfl, fun _ => rfl, rfl⟩

theorem storesAgree_c_build :
    ∃ s, BadActorLogRun cBuild compactJansson compactSerde (loggingConfig cBuild) [peerActor] s ∧
      StoresAgree compactJansson (loggingConfig cBuild) someFresh [peerActor] s := by
  obtain ⟨s, ran⟩ := badActorLog_faultless cBuild compactJansson compactSerde
    (loggingConfig cBuild) storingAnswers_faultless peerActor_utf8 (by decide) emptyStores
  have run := BadActorLogRun.nil.log peerActor storingAnswers storingAnswers_faultless ran
  exact ⟨s, run, (storesAgree_iff compact_rfc8259 rfl run someFresh).mpr (.inl nofun)⟩

/-- With `-N` a node built with Rust stores the event, and neither logs nor posts it. -/
theorem storesAgree_old_mode_skips :
    ∃ s, BadActorLogRun ⟨true, false⟩ compactJansson compactSerde
        { loggingConfig ⟨true, false⟩ with newMode := false } [peerActor] s ∧
      s.honey = [honeyRow peerActor] ∧ s.jsonLog = [] ∧ s.posts = [] ∧
      ¬ StoresAgree compactJansson { loggingConfig ⟨true, false⟩ with newMode := false } someFresh
        [peerActor] s := by
  obtain ⟨s, ran⟩ := badActorLog_faultless ⟨true, false⟩ compactJansson compactSerde
    { loggingConfig ⟨true, false⟩ with newMode := false } storingAnswers_faultless peerActor_utf8
    (by decide) emptyStores
  have run := BadActorLogRun.nil.log peerActor storingAnswers storingAnswers_faultless ran
  have skipped : jsonLogged ⟨true, false⟩ { loggingConfig ⟨true, false⟩ with newMode := false }
      [peerActor] = [] := rfl
  cases ran
  exact ⟨_, run, rfl, rfl, rfl,
    not_storesAgree_of_skipped compact_rfc8259 run skipped (List.cons_ne_nil _ _) someFresh⟩

end SentryPeer.Proof
