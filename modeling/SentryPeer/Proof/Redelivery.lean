import SentryPeer.Proof.BadActorLog
import SentryPeer.Proof.EventUuid

/-!
# Failures between the sinks

`bad_actor_log` writes the JSON log and then the table and undoes neither, and the duplicate check
looks at the table alone. So what a failed call has logged stays, and a redelivery logs it again.
-/

namespace SentryPeer.Proof
open Lib

/-! ## What a failed call leaves -/

/-- The text of the event for the JSON log, when the log is on and the event can be encoded. -/
def loggedText (build : Build) (jansson : Jansson) (serde : Serde) (config : Config)
    (badActor : BadActor) : Option CStr :=
  if fansOut build config && config.jsonLogMode then
    if build.rust then (badActorToJsonRs serde badActor).toOption.join
    else badActorToJson jansson badActor
  else none

def linePart (io : LogIo) : Option CStr → List UInt8
  | some text => if io.opens then io.append [] (text.bytes ++ [0x0A]) else []
  | none => []

/-- The log is on, and its file does not open, the event is not encoded, or the call that the build
looks at afterwards fails. -/
def LogFails (build : Build) (jansson : Jansson) (serde : Serde) (config : Config) (io : LogIo)
    (badActor : BadActor) : Prop :=
  (fansOut build config && config.jsonLogMode) = true ∧
    (io.opens = false ∨ loggedText build jansson serde config badActor = none ∨
      (if build.rust then io.writes else io.closes) = false)

/-- No byte of a line reaches the log, and the insert is not tried or fails by its step. -/
def LeavesNothing (build : Build) (jansson : Jansson) (serde : Serde) (config : Config)
    (answers : StoreAnswers) (badActor : BadActor) : Prop :=
  (loggedText build jansson serde config badActor = none ∨ answers.logIo.opens = false ∨
    answers.logIo.arrived = some 0) ∧
  (LogFails build jansson serde config answers.logIo badActor ∨ ¬ StoresRow answers.insert)

section Failures
variable {build : Build} {jansson : Jansson} {serde : Serde} {config : Config} {io : LogIo}
  {answers : StoreAnswers} {badActor : BadActor} {s t : Stores}

theorem LogIo.append_eq (io : LogIo) (file line : List UInt8) :
    io.append file line = file ++ io.append [] line := by
  unfold LogIo.append
  split <;> rfl

theorem linePart_eq_nil_iff (text : Option CStr) :
    linePart io text = [] ↔ text = none ∨ io.opens = false ∨ io.arrived = some 0 := by
  cases text with
  | none => simp [linePart]
  | some text => cases opens : io.opens <;> cases arrived : io.arrived <;>
      simp [linePart, opens, LogIo.append, arrived]

theorem jsonLogBadActor_part (cBuild : build.rust = false) (file : List UInt8) :
    jsonLogBadActor build jansson serde io badActor file =
      .ok (if io.opens = false ∨ badActorToJson jansson badActor = none ∨ io.closes = false then
          .failure else .success, file ++ linePart io (badActorToJson jansson badActor)) := by
  simp only [jsonLogBadActor, logEncoder, cBuild]
  cases opens : io.opens with
  | false => cases badActorToJson jansson badActor <;> simp [linePart, opens] <;> rfl
  | true =>
      cases encoded : badActorToJson jansson badActor with
      | none => simp [linePart]; rfl
      | some text => cases closes : io.closes <;> simp [linePart, opens, ← LogIo.append_eq] <;> rfl

theorem jsonLogBadActorRs_part {file after : List UInt8} {exit : Exit}
    (ran : jsonLogBadActorRs serde io config badActor file = .ok (exit, after)) :
    ∃ text, badActorToJsonRs serde badActor = .ok (some text) ∧
      (exit = .failure ↔ io.opens = false ∨ io.writes = false) ∧
      after = file ++ linePart io (some text) := by
  unfold jsonLogBadActorRs at ran
  split at ran
  · cases ran
  obtain ⟨json, encoded, ran⟩ := bind_eq_ok.mp ran
  cases json with
  | none => cases ran
  | some text =>
      refine ⟨text, encoded, ?_⟩
      cases opens : io.opens with
      | false =>
          rw [opens] at ran
          cases ran
          simp [linePart, opens]
      | true =>
          cases writes : io.writes with
          | false =>
              rw [opens, writes] at ran
              cases ran
              simp [linePart, opens, ← LogIo.append_eq]
          | true =>
              rw [opens, writes] at ran
              cases ran
              simp [linePart, opens, ← LogIo.append_eq]

theorem badActorLogJson_part {exit : Exit}
    (ran : badActorLogJson build (storeSinks build jansson serde config answers) config badActor s =
      .ok exit t) :
    t = { s with
      jsonLog := s.jsonLog ++
        (linePart answers.logIo (loggedText build jansson serde config badActor)) } ∧
      (exit = .failure ↔ LogFails build jansson serde config answers.logIo badActor) := by
  unfold badActorLogJson at ran
  unfold LogFails loggedText fansOut
  split_ifs at ran with rust newLog cLog
  · obtain ⟨log, called, rfl⟩ := onJsonLog_eq_ok ran
    obtain ⟨text, encoded, failed, rfl⟩ := jsonLogBadActorRs_part called
    simp [rust, newLog, encoded, failed, Except.toOption]
  · cases ran
    simp [rust, newLog, linePart]
  · obtain ⟨log, called, rfl⟩ := onJsonLog_eq_ok ran
    rw [jsonLogBadActor_part (by simpa using rust)] at called
    cases called
    refine ⟨by simp [rust, cLog], ?_⟩
    by_cases failed : answers.logIo.opens = false ∨ badActorToJson jansson badActor = none ∨
      answers.logIo.closes = false
    · simpa [rust, cLog, if_pos failed] using failed
    · simpa [rust, cLog, if_neg failed] using failed
  · cases ran
    simp [rust, cLog, linePart]

theorem dbInsertBadActor_row_iff (succeeds : InsertCall → Bool) (honey : List HoneyRow) :
    (dbInsertBadActor succeeds badActor honey).2 = honey ↔ ¬ StoresRow succeeds := by
  rcases dbInsertBadActor_row badActor succeeds honey with ⟨not, unchanged⟩ | ⟨stores, appended⟩
  · simp [not, unchanged]
  · simp [stores, appended]

theorem badActorLog_failed
    (failed : badActorLog build (storeSinks build jansson serde config answers) config badActor s =
      .ok .failure t) :
    t.jsonLog = s.jsonLog ++
      linePart answers.logIo (loggedText build jansson serde config badActor) ∧
    ((LogFails build jansson serde config answers.logIo badActor ∧ t.honey = s.honey) ∨
      (¬ LogFails build jansson serde config answers.logIo badActor ∧
        t.honey = (dbInsertBadActor answers.insert badActor s.honey).2)) := by
  obtain ⟨exit, logged, ranJson, ran⟩ := run_bind_eq_ok.mp failed
  obtain ⟨rfl, failsLog⟩ := badActorLogJson_part ranJson
  cases exit with
  | failure =>
      cases ran
      exact ⟨rfl, .inl ⟨failsLog.mp rfl, rfl⟩⟩
  | success =>
      have logs := mt failsLog.mpr (by decide)
      simp only [ne_eq, not_true_eq_false, ↓reduceIte, run_bind, storeSinks_insert] at ran
      refine ⟨?_, .inr ⟨logs, ?_⟩⟩
      all_goals
        split at ran
        · cases ran
          rfl
        · obtain ⟨_, _, -, returned⟩ := run_bind_eq_ok.mp ran
          cases returned

theorem badActorLog_unchanged_iff
    (failed : badActorLog build (storeSinks build jansson serde config answers) config badActor s =
      .ok .failure t) :
    t.jsonLog = s.jsonLog ∧ t.honey = s.honey ↔
      LeavesNothing build jansson serde config answers badActor := by
  obtain ⟨log, honey⟩ := badActorLog_failed failed
  rw [LeavesNothing, ← linePart_eq_nil_iff, log, List.append_right_eq_self]
  rcases honey with ⟨logFails, honey⟩ | ⟨logs, honey⟩
  · rw [honey]
    exact ⟨fun same => ⟨same.1, .inl logFails⟩, fun nothing => ⟨nothing.1, rfl⟩⟩
  · rw [honey, dbInsertBadActor_row_iff]
    exact ⟨fun same => ⟨same.1, .inr same.2⟩,
      fun nothing => ⟨nothing.1, nothing.2.resolve_left logs⟩⟩

theorem linePart_line (rfc : Rfc8259 jansson serde) (build : Build) (config : Config)
    (io : LogIo) (badActor : BadActor) :
    linePart io (loggedText build jansson serde config badActor) = [] ∨
      ∃ line, LineOf jansson badActor line ∧
        linePart io (loggedText build jansson serde config badActor) <+: line ++ [0x0A] := by
  cases isText : loggedText build jansson serde config badActor with
  | none => exact .inl rfl
  | some text =>
      refine .inr ⟨text.bytes, ?_, ?_⟩
      · unfold loggedText at isText
        split_ifs at isText with on rust
        · cases encoded : badActorToJsonRs serde badActor with
          | error abort => simp [encoded, Except.toOption] at isText
          | ok text? =>
              rw [encoded] at isText
              exact lineOf_badActorToJsonRs rfc (encoded.trans (congrArg Except.ok isText))
        · exact lineOf_badActorToJson rfc isText
      · unfold linePart LogIo.append
        split_ifs
        · cases io.arrived with
          | none => exact List.prefix_refl _
          | some n => exact List.take_prefix n _
        · exact List.nil_prefix

end Failures

/-! ## The lines of a log that grows by parts of lines -/

theorem logLines_append_unended {part : List UInt8} (unended : 0x0A ∉ part) (file : List UInt8) :
    logLines (file ++ part) = logLines file := by
  by_cases ended : (0x0A : UInt8) ∈ file
  · -- split at the last newline: what follows it is not a line yet
    obtain ⟨after, before, isFile, last⟩ :=
      List.eq_append_cons_of_mem (List.mem_reverse.mpr ended)
    have split : file = before.reverse ++ 0x0A :: after.reverse := by
      rw [← List.reverse_reverse file, isFile, List.reverse_append, List.reverse_cons,
        List.append_assoc, List.singleton_append]
    have lastPart : (0x0A : UInt8) ∉ after.reverse := by rwa [List.mem_reverse]
    have both : (0x0A : UInt8) ∉ after.reverse ++ part := by
      rw [List.mem_append, not_or]
      exact ⟨lastPart, unended⟩
    rw [split, List.append_assoc, List.cons_append, logLines, logLines,
      List.splitOn_append_cons_self, List.splitOn_append_cons_self,
      List.splitOn_eq_singleton both, List.splitOn_eq_singleton lastPart, List.dropLast_concat,
      List.dropLast_concat]
  · have both : (0x0A : UInt8) ∉ file ++ part := by
      rw [List.mem_append, not_or]
      exact ⟨ended, unended⟩
    rw [logLines, logLines, List.splitOn_eq_singleton both, List.splitOn_eq_singleton ended]
    rfl

theorem logLines_append_part {line part : List UInt8} (oneLine : 0x0A ∉ line)
    (isPart : part <+: line ++ [0x0A]) (file : List UInt8) :
    ∃ more, logLines (file ++ part) = logLines file ++ more ∧ more.length ≤ 1 := by
  rcases List.prefix_concat_iff.mp isPart with rfl | inside
  · refine ⟨[((file ++ line).splitOn 0x0A).getLast (List.splitOn_ne_nil _ _)], ?_, le_rfl⟩
    rw [← logLines_append_unended oneLine file, ← List.append_assoc, logLines, logLines,
      List.splitOn_append_cons_self, List.splitOn_nil, List.dropLast_concat,
      List.dropLast_append_getLast]
  · have unended : 0x0A ∉ part := fun newline => oneLine (inside.subset newline)
    exact ⟨[], by rw [logLines_append_unended unended, List.append_nil], Nat.zero_le 1⟩

def namesEvent (jansson : Jansson) (config : Config) (fresh : Fresh) (uuid : CStr)
    (line : List UInt8) : Bool :=
  match jsonToBadActor jansson config fresh (.ofMemory line) with
  | .ok (some badActor) => badActor.eventUuid == some uuid
  | _ => false

/-- How often the log has an event with this UUID. -/
def appearances (jansson : Jansson) (config : Config) (fresh : Fresh) (uuid : CStr)
    (file : List UInt8) : Nat :=
  (logLines file).countP (namesEvent jansson config fresh uuid)

theorem appearances_append_part {jansson : Jansson} {config : Config} {fresh : Fresh} {uuid : CStr}
    {line part : List UInt8} (oneLine : 0x0A ∉ line) (isPart : part <+: line ++ [0x0A])
    (file : List UInt8) :
    appearances jansson config fresh uuid (file ++ part) ≤
      appearances jansson config fresh uuid file + 1 := by
  obtain ⟨more, lines, short⟩ := logLines_append_part oneLine isPart file
  rw [appearances, lines, List.countP_append]
  exact Nat.add_le_add_left (List.countP_le_length.trans short) _

/-! ## Deliveries -/

/-- One call of `dht_value_callback`; `lookup` is how the calls of the duplicate check end. -/
structure StoreDelivery where
  config : Config
  fresh : Fresh
  data : List UInt8
  expired : Bool
  lookup : ExistsCall → Bool
  answers : StoreAnswers

def StoreDelivery.after (build : Build) (jansson : Jansson) (serde : Serde)
    (delivery : StoreDelivery) (s : Stores) : Stores :=
  finalState (dhtValueCallback build jansson
    (storeSinks build jansson serde delivery.config delivery.answers)
    (storeExists delivery.lookup) delivery.config delivery.fresh delivery.data delivery.expired s)

section Deliveries
variable {build : Build} {jansson : Jansson} {serde : Serde} {config : Config}
  {answers : StoreAnswers} {badActor : BadActor} {s t : Stores}

theorem badActorLogJson_stopped {abort : Abort}
    (stopped : badActorLogJson build (storeSinks build jansson serde config answers) config badActor
      s = .error abort t) : t = s := by
  unfold badActorLogJson storeSinks onJsonLog at stopped
  split_ifs at stopped
  all_goals
    first
    | cases stopped
    | (simp only at stopped
       split at stopped
       · cases stopped
       · cases stopped
         rfl)

theorem badActorLogWebhook_stores (s : Stores) :
    (finalState (badActorLogWebhook build (storeSinks build jansson serde config answers) config
      badActor s)).honey = s.honey ∧
    (finalState (badActorLogWebhook build (storeSinks build jansson serde config answers) config
      badActor s)).jsonLog = s.jsonLog := by
  have post : ∀ s : Stores, (finalState (postWebhook answers.webhook badActor s)).honey = s.honey ∧
      (finalState (postWebhook answers.webhook badActor s)).jsonLog = s.jsonLog := by
    intro s
    unfold postWebhook
    cases answers.webhook <;> exact ⟨rfl, rfl⟩
  unfold badActorLogWebhook
  split_ifs
  · exact post s
  · exact ⟨rfl, rfl⟩
  · exact post s
  · exact ⟨rfl, rfl⟩

theorem badActorLog_final :
    let t := finalState (badActorLog build (storeSinks build jansson serde config answers) config
      badActor s)
    (t.jsonLog = s.jsonLog ∨ t.jsonLog = s.jsonLog ++
      linePart answers.logIo (loggedText build jansson serde config badActor)) ∧
    (t.honey = s.honey ∨ (StoresRow answers.insert ∧ t.honey = s.honey ++ [honeyRow badActor])) := by
  intro t
  cases ranJson : badActorLogJson build (storeSinks build jansson serde config answers) config
      badActor s with
  | error abort stopped =>
      have isFinal : t = s := by
        simp only [t, badActorLog, run_bind, ranJson]
        exact badActorLogJson_stopped ranJson
      rw [isFinal]
      exact ⟨.inl rfl, .inl rfl⟩
  | ok exit logged =>
      obtain ⟨isLogged, -⟩ := badActorLogJson_part ranJson
      cases exit with
      | failure =>
          have isFinal : t = logged := by
            simp only [t, badActorLog, run_bind, ranJson]
            rfl
          rw [isFinal, isLogged]
          exact ⟨.inr rfl, .inl rfl⟩
      | success =>
          have isFinal : t.jsonLog = logged.jsonLog ∧
              t.honey = (dbInsertBadActor answers.insert badActor logged.honey).2 := by
            simp only [t, badActorLog, run_bind, ranJson, ne_eq, not_true_eq_false, ↓reduceIte,
              storeSinks_insert]
            split
            · exact ⟨rfl, rfl⟩
            · rw [finalState_bind_pure]
              exact (badActorLogWebhook_stores _).symm
          rw [isFinal.1, isFinal.2, isLogged]
          refine ⟨.inr rfl, ?_⟩
          rcases dbInsertBadActor_row badActor answers.insert s.honey with
            ⟨-, unchanged⟩ | ⟨stores, appended⟩
          · exact .inl (by rw [unchanged])
          · exact .inr ⟨stores, appended⟩

variable (build jansson serde) in
theorem StoreDelivery.after_cases (delivery : StoreDelivery) (s : Stores) :
    ((delivery.after build jansson serde s).jsonLog = s.jsonLog ∧
      (delivery.after build jansson serde s).honey = s.honey) ∨
    ∃ uuid badActor, delivery.expired = false ∧
      dhtValueUuid jansson delivery.config (.ofMemory delivery.data) = some uuid ∧
      isValidUuid uuid = true ∧ dbBadActorExists delivery.lookup uuid s.honey = false ∧
      badActor.eventUuid = some uuid ∧
      ((delivery.after build jansson serde s).jsonLog = s.jsonLog ∨
        (delivery.after build jansson serde s).jsonLog = s.jsonLog ++ linePart delivery.answers.logIo
          (loggedText build jansson serde delivery.config badActor)) ∧
      ((delivery.after build jansson serde s).honey = s.honey ∨
        (StoresRow delivery.answers.insert ∧
          (delivery.after build jansson serde s).honey = s.honey ++ [honeyRow badActor])) := by
  rcases dhtValueCallback_logs build jansson delivery.config delivery.fresh
    (storeSinks build jansson serde delivery.config delivery.answers) delivery.data delivery.expired
    (fun uuid => rfl : ∀ uuid, storeExists delivery.lookup uuid s = _) with
    ran | ⟨uuid, badActor, live, looked, unseen, decoded, ran⟩
  · refine .inl ?_
    rw [StoreDelivery.after, ran]
    exact ⟨rfl, rfl⟩
  · obtain ⟨_, _, _, _, _, _, valid⟩ := dhtValueUuid_eq_some looked
    have isUuid := (admitted_of_looked looked (List.forall_mem_nil _) decoded).1
    refine .inr ⟨uuid, badActor, live, looked, valid, unseen, isUuid, ?_⟩
    rw [StoreDelivery.after, ran, finalState_bind_pure]
    exact badActorLog_final

/-! ### The same value again and again -/

/-- Deliveries of one value to one node in which the calls of the duplicate check succeed. -/
def Redeliveries (config : Config) (data : List UInt8) (run : List StoreDelivery) : Prop :=
  ∀ delivery ∈ run, delivery.config = config ∧ delivery.data = data ∧
    existsCalls.all delivery.lookup = true

def redelivered (build : Build) (jansson : Jansson) (serde : Serde) (run : List StoreDelivery)
    (s : Stores) : Stores :=
  run.foldl (fun s delivery => delivery.after build jansson serde s) s

/-- The deliveries of a run that leave something in the log and no row in the table. -/
def loggedOnly (build : Build) (jansson : Jansson) (serde : Serde) :
    List StoreDelivery → Stores → Nat
  | [], _ => 0
  | delivery :: rest, s =>
      let t := delivery.after build jansson serde s
      (if t.jsonLog ≠ s.jsonLog ∧ t.honey = s.honey then 1 else 0) +
        loggedOnly build jansson serde rest t

def Seen (jansson : Jansson) (config : Config) (data : List UInt8) (honey : List HoneyRow) : Prop :=
  ∃ uuid, dhtValueUuid jansson config (.ofMemory data) = some uuid ∧
    ∃ row ∈ honey, row.eventUuid = some uuid

section Redelivered
variable {data : List UInt8} {run : List StoreDelivery} {delivery : StoreDelivery}

variable (build serde) in
theorem after_of_seen (sound : existsCalls.all delivery.lookup = true)
    (seen : Seen jansson delivery.config delivery.data s.honey) :
    (delivery.after build jansson serde s).jsonLog = s.jsonLog ∧
      (delivery.after build jansson serde s).honey = s.honey := by
  rcases delivery.after_cases build jansson serde s with
    same | ⟨uuid, badActor, -, looked, valid, unseen, -, -, -⟩
  · exact same
  · obtain ⟨stored, isStored, row, member, isUuid⟩ := seen
    rw [looked] at isStored
    cases isStored
    exact absurd isUuid (absent_of_dbBadActorExists valid sound unseen row member)

variable (build serde) in
theorem redelivered_of_seen (again : Redeliveries config data run)
    (seen : Seen jansson config data s.honey) :
    (redelivered build jansson serde run s).jsonLog = s.jsonLog := by
  induction run generalizing s with
  | nil => rfl
  | cons delivery rest ih =>
      obtain ⟨⟨sameConfig, sameData, sound⟩, later⟩ := List.forall_mem_cons.mp again
      have here : Seen jansson delivery.config delivery.data s.honey := by
        rwa [sameConfig, sameData]
      obtain ⟨log, honey⟩ := after_of_seen build serde sound here
      rw [← honey] at seen
      exact (ih later seen).trans log

variable (build serde config) in
theorem appearances_after (rfc : Rfc8259 jansson serde) (delivery : StoreDelivery) (s : Stores)
    (fresh : Fresh) (wanted : CStr) :
    appearances jansson config fresh wanted (delivery.after build jansson serde s).jsonLog ≤
      appearances jansson config fresh wanted s.jsonLog + 1 := by
  rcases delivery.after_cases build jansson serde s with
    ⟨same, -⟩ | ⟨uuid, badActor, -, -, -, -, -, same | grown, -⟩
  · rw [same]
    exact Nat.le_succ _
  · rw [same]
    exact Nat.le_succ _
  · rw [grown]
    rcases linePart_line rfc build delivery.config delivery.answers.logIo badActor with
      nothing | ⟨line, isLine, isPart⟩
    · rw [nothing, List.append_nil]
      exact Nat.le_succ _
    · exact appearances_append_part isLine.oneLine isPart s.jsonLog

theorem seen_of_row {badActor : BadActor} {uuid : CStr} {honey : List HoneyRow}
    (looked : dhtValueUuid jansson config (.ofMemory data) = some uuid)
    (isUuid : badActor.eventUuid = some uuid) :
    Seen jansson config data (honey ++ [honeyRow badActor]) :=
  ⟨uuid, looked, honeyRow badActor, List.mem_concat_self, isUuid⟩

theorem appearances_redelivered (rfc : Rfc8259 jansson serde)
    (again : Redeliveries config data run) (fresh : Fresh) (wanted : CStr) :
    appearances jansson config fresh wanted (redelivered build jansson serde run s).jsonLog ≤
      appearances jansson config fresh wanted s.jsonLog + loggedOnly build jansson serde run s +
        1 := by
  induction run generalizing s with
  | nil => exact Nat.le_succ _
  | cons delivery rest ih =>
      obtain ⟨⟨sameConfig, sameData, sound⟩, later⟩ := List.forall_mem_cons.mp again
      have once := appearances_after build serde config rfc delivery s fresh wanted
      have rest_bound := ih (s := delivery.after build jansson serde s) later
      rw [redelivered, List.foldl_cons]
      simp only [loggedOnly]
      by_cases same : (delivery.after build jansson serde s).jsonLog = s.jsonLog
      · rw [same] at rest_bound
        rw [if_neg (fun changed => changed.1 same), Nat.zero_add]
        exact rest_bound
      rcases delivery.after_cases build jansson serde s with
        ⟨log, -⟩ | ⟨uuid, badActor, -, looked, -, -, isUuid, -, sameHoney | ⟨-, grown⟩⟩
      · exact absurd log same
      · rw [if_pos ⟨same, sameHoney⟩]
        unfold redelivered at rest_bound
        omega
      · -- the row is there now, so the rest of the run adds nothing
        have seen : Seen jansson config data (delivery.after build jansson serde s).honey := by
          rw [grown]
          rw [sameConfig, sameData] at looked
          exact seen_of_row looked isUuid
        have kept := redelivered_of_seen build serde later seen
        unfold redelivered at kept
        rw [kept]
        omega

end Redelivered

end Deliveries

/-- What a failed call has done to the two stores, and exactly when it has done nothing. -/
structure FailureEffect (build : Build) (jansson : Jansson) (serde : Serde) (config : Config)
    (answers : StoreAnswers) (badActor : BadActor) (s t : Stores) : Prop where
  log : t.jsonLog = s.jsonLog ∨ ∃ line part, LineOf jansson badActor line ∧
    part <+: line ++ [0x0A] ∧ t.jsonLog = s.jsonLog ++ part
  honey : t.honey = s.honey ∨ t.honey = s.honey ++ [honeyRow badActor]
  unchanged : t.jsonLog = s.jsonLog ∧ t.honey = s.honey ↔
    LeavesNothing build jansson serde config answers badActor

theorem badActorLog_failure_effect {jansson : Jansson} {serde : Serde}
    (rfc : Rfc8259 jansson serde) (build : Build) (config : Config) :
    (∀ badActor answers s t, badActorLog build (storeSinks build jansson serde config answers)
        config badActor s = .ok .failure t →
      FailureEffect build jansson serde config answers badActor s t) ∧
    ∀ data run s fresh wanted, Redeliveries config data run →
      appearances jansson config fresh wanted (redelivered build jansson serde run s).jsonLog ≤
        appearances jansson config fresh wanted s.jsonLog +
          loggedOnly build jansson serde run s + 1 := by
  refine ⟨fun badActor answers s t failed => ?_, fun data run s fresh wanted again => ?_⟩
  · obtain ⟨log, honey⟩ := badActorLog_failed failed
    refine ⟨?_, ?_, badActorLog_unchanged_iff failed⟩
    · rcases linePart_line rfc build config answers.logIo badActor with
        nothing | ⟨line, isLine, isPart⟩
      · exact .inl (by rw [log, nothing, List.append_nil])
      · exact .inr ⟨line, _, isLine, isPart, log⟩
    · rcases honey with ⟨-, same⟩ | ⟨-, inserted⟩
      · exact .inl same
      · rw [inserted]
        rcases dbInsertBadActor_row badActor answers.insert s.honey with
          ⟨-, unchanged⟩ | ⟨-, appended⟩
        · exact .inl (by rw [unchanged])
        · exact .inr appended
  · exact appearances_redelivered rfc again fresh wanted

theorem appearances_logText {jansson : Jansson} {badActors : List BadActor}
    {lines : List (List UInt8)} (areLines : List.Forall₂ (LineOf jansson) badActors lines)
    (config : Config) (fresh : Fresh) (wanted : CStr) :
    appearances jansson config fresh wanted (logText lines) =
      badActors.countP fun badActor => (readBack badActor).eventUuid == some wanted := by
  induction areLines with
  | nil => rfl
  | @cons badActor line badActors lines isLine _ ih =>
      have named : namesEvent jansson config fresh wanted line =
          ((readBack badActor).eventUuid == some wanted) := by
        rw [namesEvent, isLine.decodes config fresh]
      rw [appearances] at ih ⊢
      rw [logText, List.flatMap_cons, List.append_assoc, List.singleton_append,
        logLines_append isLine.oneLine, List.countP_cons, List.countP_cons, ← ih, named]
      rfl

def unopenedAnswers : StoreAnswers := { storingAnswers with insert := fun call => call ≠ .openDb }

theorem badActorLog_unopened {badActor : BadActor} (utf8 : Utf8Fields badActor) (s : Stores) :
    badActorLog cBuild (storeSinks cBuild compactJansson compactSerde (loggingConfig cBuild)
      unopenedAnswers) (loggingConfig cBuild) badActor s =
        .ok .failure { s with
          jsonLog := s.jsonLog ++ ((eventText badActor).bytes ++ [0x0A]) } := by
  have logged : jsonLogBadActor cBuild compactJansson compactSerde faultlessIo badActor s.jsonLog =
      .ok (.success, s.jsonLog ++ ((eventText badActor).bytes ++ [0x0A])) := by
    rw [jsonLogBadActor_part rfl, eventText_encodes utf8]
    rfl
  have json : badActorLogJson cBuild (storeSinks cBuild compactJansson compactSerde
      (loggingConfig cBuild) unopenedAnswers) (loggingConfig cBuild) badActor s = _ :=
    onJsonLog_ok logged
  rw [badActorLog, run_bind, json]
  rfl

def peerUuid : CStr := .lit "460f30e4-3b3b-4b3b-8b3b-0123456789ab"

def loggedDelivery (lookup : ExistsCall → Bool) (answers : StoreAnswers) : StoreDelivery :=
  ⟨loggingConfig cBuild, someFresh, (eventText peerActor).bytes, false, lookup, answers⟩

theorem loggedDelivery_after {lookup : ExistsCall → Bool} (answers : StoreAnswers) {s : Stores}
    (unseen : dbBadActorExists lookup peerUuid s.honey = false) :
    (loggedDelivery lookup answers).after cBuild compactJansson compactSerde s =
      finalState (badActorLog cBuild (storeSinks cBuild compactJansson compactSerde
        (loggingConfig cBuild) answers) (loggingConfig cBuild) (readBack peerActor) s) := by
  have loaded := loadb_badActorToJson compactJansson_decodes (eventText_encodes peerActor_utf8)
  have reads : storeExists lookup peerUuid s = .ok false s := by rw [storeExists, unseen]
  simp only [StoreDelivery.after, loggedDelivery]
  rw [dhtValueCallback_unseen _ loaded (List.cons_ne_nil _ _) rfl (by decide) (by decide) rfl
    (by decide) reads, finalState_bind_pure]

def twiceUnopened : List StoreDelivery :=
  [loggedDelivery (fun _ => true) unopenedAnswers, loggedDelivery (fun _ => true) unopenedAnswers]

theorem unopened_after (s : Stores) (empty : s.honey = []) :
    (loggedDelivery (fun _ => true) unopenedAnswers).after cBuild compactJansson compactSerde s =
      { s with jsonLog := s.jsonLog ++ ((eventText (readBack peerActor)).bytes ++ [0x0A]) } := by
  have unseen : dbBadActorExists (fun _ => true) peerUuid s.honey = false := by
    simp [dbBadActorExists, empty]
  rw [loggedDelivery_after unopenedAnswers unseen,
    badActorLog_unopened (utf8Fields_readBack peerActor_utf8)]
  rfl

theorem twiceUnopened_log :
    (redelivered cBuild compactJansson compactSerde twiceUnopened emptyStores).jsonLog =
      logText [(eventText (readBack peerActor)).bytes, (eventText (readBack peerActor)).bytes] := by
  rw [redelivered, twiceUnopened, List.foldl_cons, List.foldl_cons, List.foldl_nil,
    unopened_after emptyStores rfl, unopened_after { emptyStores with jsonLog := _ } rfl]
  simp [logText, emptyStores]

theorem badActorLog_failure_logs_twice :
    (∃ t, badActorLog cBuild (storeSinks cBuild compactJansson compactSerde (loggingConfig cBuild)
        unopenedAnswers) (loggingConfig cBuild) peerActor emptyStores = .ok .failure t ∧
      t.jsonLog ≠ emptyStores.jsonLog) ∧
    appearances compactJansson (loggingConfig cBuild) someFresh peerUuid
      (redelivered cBuild compactJansson compactSerde twiceUnopened emptyStores).jsonLog = 2 := by
  constructor
  · refine ⟨_, badActorLog_unopened peerActor_utf8 emptyStores, ?_⟩
    simp [emptyStores]
  · have isLine := lineOf_badActorToJson compact_rfc8259
      (eventText_encodes (utf8Fields_readBack peerActor_utf8))
    rw [twiceUnopened_log, appearances_logText (.cons isLine (.cons isLine .nil))]
    decide

theorem badActorLog_failure_effect_unopened :
    FailureEffect cBuild compactJansson compactSerde (loggingConfig cBuild) unopenedAnswers
      peerActor emptyStores { emptyStores with
        jsonLog := emptyStores.jsonLog ++ ((eventText peerActor).bytes ++ [0x0A]) } ∧
    Redeliveries (loggingConfig cBuild) (eventText peerActor).bytes twiceUnopened ∧
    appearances compactJansson (loggingConfig cBuild) someFresh peerUuid
      (redelivered cBuild compactJansson compactSerde twiceUnopened emptyStores).jsonLog ≤
        appearances compactJansson (loggingConfig cBuild) someFresh peerUuid emptyStores.jsonLog +
          loggedOnly cBuild compactJansson compactSerde twiceUnopened emptyStores + 1 := by
  obtain ⟨effect, bound⟩ := badActorLog_failure_effect compact_rfc8259 cBuild (loggingConfig cBuild)
  have again : Redeliveries (loggingConfig cBuild) (eventText peerActor).bytes twiceUnopened := by
    simp [Redeliveries, twiceUnopened, loggedDelivery]
  exact ⟨effect _ _ _ _ (badActorLog_unopened peerActor_utf8 emptyStores), again,
    bound _ _ emptyStores someFresh _ again⟩

/-! ## Distinct events -/

/-- No two rows have the same text as their UUID. -/
def DistinctUuids (honey : List HoneyRow) : Prop :=
  honey.Pairwise fun a b => ∀ uuid, a.eventUuid = some uuid → b.eventUuid ≠ some uuid

/-- If the UUID of a value that is new on the DHT is already in the table, no call of its check
fails, or the insert after it stores no row. -/
def CheckedOnce (jansson : Jansson) (delivery : StoreDelivery) (honey : List HoneyRow) : Prop :=
  delivery.expired = false → Seen jansson delivery.config delivery.data honey →
    existsCalls.all delivery.lookup = true ∨ ¬ StoresRow delivery.answers.insert

section Distinct
variable {build : Build} {jansson : Jansson} {serde : Serde}

variable (build serde) in
theorem StoreDelivery.after_distinctUuids {delivery : StoreDelivery} {s : Stores}
    (checked : CheckedOnce jansson delivery s.honey) (distinct : DistinctUuids s.honey) :
    DistinctUuids (delivery.after build jansson serde s).honey := by
  rcases delivery.after_cases build jansson serde s with
    ⟨-, same⟩ | ⟨uuid, badActor, live, looked, valid, unseen, isUuid, -,
      same | ⟨stores, grown⟩⟩
  · rwa [same]
  · rwa [same]
  · -- with the UUID in the table the check had failed, and this is the step that is ruled out
    have absent : ∀ row ∈ s.honey, row.eventUuid ≠ some uuid := by
      intro row member isRow
      rcases checked live ⟨uuid, looked, row, member, isRow⟩ with sound | unstored
      · exact absent_of_dbBadActorExists valid sound unseen row member isRow
      · exact unstored stores
    rw [grown, DistinctUuids, List.pairwise_append]
    refine ⟨distinct, List.pairwise_singleton _ _, ?_⟩
    intro row member new isNew text isText
    rw [List.mem_singleton.mp isNew]
    intro same
    cases isUuid.symm.trans same
    exact absent row member isText

theorem checked_deliveries_distinct {start reached : Stores} (empty : start.honey = [])
    (run : Relation.ReflTransGen (fun s after => ∃ delivery : StoreDelivery,
      CheckedOnce jansson delivery s.honey ∧ after = delivery.after build jansson serde s)
      start reached) :
    DistinctUuids reached.honey := by
  have preserved (s t : Stores) (step : ∃ delivery : StoreDelivery,
      CheckedOnce jansson delivery s.honey ∧ t = delivery.after build jansson serde s)
      (distinct : DistinctUuids s.honey) : DistinctUuids t.honey := by
    obtain ⟨delivery, checked, rfl⟩ := step
    exact StoreDelivery.after_distinctUuids build serde checked distinct
  have initial : DistinctUuids start.honey := by
    rw [empty]
    exact List.Pairwise.nil
  exact @invariant_of_step _ _ (fun s : Stores => DistinctUuids s.honey) _ _ preserved initial run

end Distinct

theorem storing_after {lookup : ExistsCall → Bool} {s : Stores}
    (unseen : dbBadActorExists lookup peerUuid s.honey = false) :
    ((loggedDelivery lookup storingAnswers).after cBuild compactJansson compactSerde s).honey =
      s.honey ++ [honeyRow (readBack peerActor)] := by
  obtain ⟨t, ran⟩ := badActorLog_faultless cBuild compactJansson compactSerde
    (loggingConfig cBuild) storingAnswers_faultless (utf8Fields_readBack peerActor_utf8) (by decide)
    s
  obtain ⟨logged, ⟨lines, rfl, -⟩, rfl⟩ :=
    badActorLog_success compact_rfc8259 storingAnswers_faultless ran
  rw [loggedDelivery_after storingAnswers unseen, ran]
  rfl

/-- The check of the second delivery meets a locked table. -/
def busyLookup (call : ExistsCall) : Bool := call ≠ .step

theorem failed_check_duplicates :
    ¬ DistinctUuids ((loggedDelivery busyLookup storingAnswers).after cBuild compactJansson
      compactSerde ((loggedDelivery (fun _ => true) storingAnswers).after cBuild compactJansson
        compactSerde emptyStores)).honey := by
  have busy (honey : List HoneyRow) : dbBadActorExists busyLookup peerUuid honey = false := by
    have fails : existsCalls.all busyLookup = false := by decide
    simp [dbBadActorExists, fails]
  rw [storing_after (busy _), storing_after rfl]
  intro distinct
  exact List.rel_of_pairwise_cons distinct (List.mem_singleton_self _) peerUuid rfl rfl

theorem checked_deliveries_distinct_redelivered :
    DistinctUuids ((loggedDelivery (fun _ => true) storingAnswers).after cBuild compactJansson
      compactSerde ((loggedDelivery (fun _ => true) storingAnswers).after cBuild compactJansson
        compactSerde emptyStores)).honey := by
  have sound (s : Stores) :
      CheckedOnce compactJansson (loggedDelivery (fun _ => true) storingAnswers) s.honey :=
    fun _ _ => .inl rfl
  have empty : emptyStores.honey = [] := rfl
  exact checked_deliveries_distinct empty
    (.tail (.single ⟨_, sound _, rfl⟩) ⟨_, sound _, rfl⟩)

end SentryPeer.Proof
