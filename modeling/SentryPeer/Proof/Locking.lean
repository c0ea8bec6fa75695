import SentryPeer.Source.Locking
import SentryPeer.Proof.JsonLogger

/-!
# Events under concurrent connections

A call that meets a conflicting lock gives up and leaves nothing behind, every other call gets
through. So the table grows by one row for each event whose call succeeds and by nothing else.
-/

namespace SentryPeer.Proof
open Lib

section Steps
variable {ι : Type} [DecidableEq ι] {file : DbFile ι} {i : ι}

theorem setConnection_self (connection : Connection) :
    (file.setConnection i connection).connections i = connection :=
  Function.update_self ..

theorem setConnection_of_ne {j : ι} (other : j ≠ i) (connection : Connection) :
    (file.setConnection i connection).connections j = file.connections j :=
  Function.update_of_ne other ..

variable [Fintype ι]

def Conflict (file : DbFile ι) (i : ι) : Prop :=
  (file.connections i).exit = none ∧
    ∃ lock, lockRequest file.schema (file.connections i) = some lock ∧ lockGranted file i lock = false

def lockRank : Lock → Nat
  | .unlocked => 0
  | .shared => 1
  | .reserved => 2
  | .pending => 3
  | .exclusive => 4

/-- What a step of `i` makes of its connection, with the rows it adds to the table. -/
inductive OwnStep (file : DbFile ι) (i : ι) : Connection → List HoneyRow → Connection → Prop
  | stopped {c} (stopped : c.exit ≠ none) : OwnStep file i c [] c
  | busy {statements lock} (conflict : Conflict file i) :
      OwnStep file i ⟨statements, lock, none⟩ [] ⟨statements, .unlocked, some .failure⟩
  | locked {statements before lock} (clear : ¬ Conflict file i)
      (higher : lockRank before < lockRank lock) :
      OwnStep file i ⟨statements, before, none⟩ [] ⟨statements, lock, none⟩
  | closed {lock} (clear : ¬ Conflict file i) :
      OwnStep file i ⟨[], lock, none⟩ [] ⟨[], lock, some .success⟩
  | row {rows rest lock} (clear : ¬ Conflict file i) :
      OwnStep file i ⟨.select (rows + 1) :: rest, lock, none⟩ [] ⟨.select rows :: rest, lock, none⟩
  | selected {rest lock} (clear : ¬ Conflict file i) :
      OwnStep file i ⟨.select 0 :: rest, lock, none⟩ [] ⟨rest, .unlocked, none⟩
  | created {object rest lock} (clear : ¬ Conflict file i) :
      OwnStep file i ⟨.create object :: rest, lock, none⟩ [] ⟨rest, .unlocked, none⟩
  | inserted {row rest lock} (clear : ¬ Conflict file i) :
      OwnStep file i ⟨.insert row :: rest, lock, none⟩ [row] ⟨rest, .unlocked, none⟩

theorem lockRequest_higher {schema : SchemaObject → Bool} {connection : Connection} {lock : Lock}
    (asked : lockRequest schema connection = some lock) :
    lockRank connection.lock < lockRank lock := by
  obtain ⟨statements, held, exit⟩ := connection
  cases statements with
  | nil => cases asked
  | cons statement rest =>
      cases held with
      | unlocked => cases statement <;> cases asked <;> exact Nat.lt_add_one _
      | shared =>
          cases statement with
          | select rows => cases asked
          | create object =>
              simp only [lockRequest] at asked
              split at asked
              · cases asked
              · cases asked; exact Nat.lt_add_one _
          | insert row => cases asked; exact Nat.lt_add_one _
      | reserved => cases statement <;> cases asked <;> exact Nat.lt_add_one _
      | pending => cases statement <;> cases asked <;> exact Nat.lt_add_one _
      | exclusive => cases statement <;> cases asked

theorem connectionStep_own (file : DbFile ι) (i : ι) :
    ∃ added, (connectionStep file i).honey = file.honey ++ added ∧
      OwnStep file i (file.connections i) added ((connectionStep file i).connections i) := by
  generalize current : file.connections i = connection
  obtain ⟨statements, held, exit⟩ := connection
  unfold connectionStep
  rw [current]
  cases exit with
  | some exit => exact ⟨[], by simp, by simpa [current] using .stopped (by simp)⟩
  | none =>
      simp only [Option.isSome_none, Bool.false_eq_true, ↓reduceIte]
      cases asked : lockRequest file.schema ⟨statements, held, none⟩ with
      | some lock =>
          simp only
          cases granted : lockGranted file i lock with
          | true =>
              have clear : ¬ Conflict file i := by
                rintro ⟨-, other, asked', refused⟩
                rw [current, asked] at asked'
                cases asked'
                rw [granted] at refused
                cases refused
              refine ⟨[], by simp [DbFile.setConnection], ?_⟩
              rw [if_pos rfl, setConnection_self]
              exact .locked clear (lockRequest_higher asked)
          | false =>
              have conflict : Conflict file i := by
                rw [Conflict, current]
                exact ⟨rfl, lock, asked, granted⟩
              refine ⟨[], by simp [DbFile.setConnection], ?_⟩
              rw [if_neg (by decide), setConnection_self]
              exact .busy conflict
      | none =>
          have clear : ¬ Conflict file i := by
            rintro ⟨-, other, asked', -⟩
            rw [current, asked] at asked'
            cases asked'
          simp only [performStatement]
          split
          · exact ⟨[], by simp [DbFile.setConnection], by rw [setConnection_self]; exact .closed clear⟩
          · exact ⟨[], by simp [DbFile.setConnection],
              by rw [setConnection_self]; exact .selected clear⟩
          · exact ⟨[], by simp [DbFile.setConnection], by rw [setConnection_self]; exact .row clear⟩
          · exact ⟨[], by simp [DbFile.setConnection],
              by rw [setConnection_self]; exact .created clear⟩
          · rename_i row rest
            exact ⟨[row], rfl, by rw [setConnection_self]; exact .inserted clear⟩

theorem connectionStep_of_ne {j : ι} (other : j ≠ i) :
    (connectionStep file i).connections j = file.connections j := by
  unfold connectionStep
  simp only
  split
  · rfl
  split
  · split
    · exact setConnection_of_ne other _
    · exact setConnection_of_ne other _
  · simp only [performStatement]
    split
    all_goals exact setConnection_of_ne other _

/-! ## What is left of a call -/

def statementCost : Statement → Nat
  | .select rows => rows + 1
  | _ => 1

def remainingCost : List Statement → Nat
  | [] => 0
  | statement :: rest => statementCost statement + remainingCost rest

def stepsLeft (connection : Connection) : Nat :=
  match connection.exit with
  | none => 5 * remainingCost connection.statements + (5 - lockRank connection.lock)
  | some _ => 0

theorem stepsLeft_running (statements : List Statement) (lock : Lock) :
    stepsLeft ⟨statements, lock, none⟩ =
      5 * remainingCost statements + (5 - lockRank lock) := rfl

theorem lockRank_le (lock : Lock) : lockRank lock ≤ 4 := by cases lock <;> decide

theorem OwnStep.stepsLeft_lt {before after : Connection} {added : List HoneyRow}
    (step : OwnStep file i before added after) (running : before.exit = none) :
    stepsLeft after < stepsLeft before := by
  have bound := lockRank_le before.lock
  cases step with
  | stopped stopped => exact absurd running stopped
  | busy conflict =>
      rw [stepsLeft_running]
      exact Nat.lt_of_lt_of_le (Nat.sub_pos_of_lt (Nat.lt_succ_of_le bound)) (Nat.le_add_left _ _)
  | @locked statements held lock clear higher =>
      have := lockRank_le lock
      rw [stepsLeft_running, stepsLeft_running]
      omega
  | closed clear =>
      rw [stepsLeft_running]
      exact Nat.lt_of_lt_of_le (Nat.sub_pos_of_lt (Nat.lt_succ_of_le bound)) (Nat.le_add_left _ _)
  | row clear =>
      simp only [stepsLeft_running, remainingCost, statementCost]
      omega
  | selected clear =>
      simp only [stepsLeft_running, remainingCost, statementCost, lockRank] at bound ⊢
      omega
  | created clear =>
      simp only [stepsLeft_running, remainingCost, statementCost, lockRank] at bound ⊢
      omega
  | inserted clear =>
      simp only [stepsLeft_running, remainingCost, statementCost, lockRank] at bound ⊢
      omega

theorem OwnStep.running_before {before after : Connection} {added : List HoneyRow}
    (step : OwnStep file i before added after) (running : after.exit = none) :
    before.exit = none := by
  cases step with
  | stopped stopped => exact running
  | _ => rfl

theorem OwnStep.failure_iff {before after : Connection} {added : List HoneyRow}
    (step : OwnStep file i before added after) (current : file.connections i = before) :
    after.exit = some .failure ↔ before.exit = some .failure ∨ Conflict file i := by
  cases step with
  | stopped stopped =>
      refine ⟨.inl, fun given => given.resolve_right ?_⟩
      rintro ⟨running, -⟩
      rw [current] at running
      exact stopped running
  | busy conflict => simp [conflict]
  | locked clear higher => simp [clear]
  | closed clear => simp [clear]
  | row clear => simp [clear]
  | selected clear => simp [clear]
  | created clear => simp [clear]
  | inserted clear => simp [clear]

/-! ## The rows of a run -/

def insertRow : Statement → Option HoneyRow
  | .insert row => some row
  | _ => none

def eventRow : DbCall → Option HoneyRow
  | .insertBadActor badActor => some (honeyRow badActor)
  | _ => none

/-- The insert of `row`, if there is one, is still to come and comes last. -/
inductive Waiting (row : Option HoneyRow) : List Statement → Prop
  | last : Waiting row (row.map Statement.insert).toList
  | before {statement rest} (other : insertRow statement = none) (waiting : Waiting row rest) :
      Waiting row (statement :: rest)

theorem waiting_statements (call : DbCall) : Waiting (eventRow call) call.statements := by
  cases call with
  | insertBadActor badActor =>
      exact .before rfl (.before rfl (.before rfl (.before rfl (.before rfl (.before rfl .last)))))
  | badActorExists => exact .before rfl (.before rfl .last)
  | selectBadActorByIp => exact .before rfl (.before rfl .last)
  | selectPhoneNumber => exact .before rfl (.before rfl .last)
  | selectBadActors rows => exact .before rfl (.before rfl (.before rfl .last))
  | selectCalledNumbers rows => exact .before rfl (.before rfl (.before rfl .last))

theorem Waiting.tail {row : Option HoneyRow} {statement : Statement} {rest : List Statement}
    (waiting : Waiting row (statement :: rest)) (other : insertRow statement = none) :
    Waiting row rest := by
  generalize equal : statement :: rest = statements at waiting
  cases waiting with
  | last =>
      cases row with
      | none => cases equal
      | some row => cases equal; cases other
  | before _ waiting => cases equal; exact waiting

theorem Waiting.insert {row : Option HoneyRow} {own : HoneyRow} {rest : List Statement}
    (waiting : Waiting row (.insert own :: rest)) : row = some own ∧ rest = [] := by
  generalize equal : Statement.insert own :: rest = statements at waiting
  cases waiting with
  | last =>
      cases row with
      | none => cases equal
      | some row => cases equal; exact ⟨rfl, rfl⟩
  | before other _ => cases equal; cases other

theorem Waiting.nil {row : Option HoneyRow} (waiting : Waiting row []) : row = none := by
  generalize equal : [] = statements at waiting
  cases waiting with
  | last =>
      cases row with
      | none => rfl
      | some row => cases equal
  | before _ _ => cases equal

/-- The calls in `order` have added their rows, the others have not. -/
structure Accounted (calls : ι → DbCall) (start file : DbFile ι) (order : List ι) : Prop where
  distinct : order.Nodup
  honey : file.honey = start.honey ++ order.filterMap fun i => eventRow (calls i)
  added : ∀ i ∈ order, (eventRow (calls i)).isSome = true ∧ (file.connections i).statements = [] ∧
    (file.connections i).exit ≠ some .failure
  waiting : ∀ i, i ∉ order → Waiting (eventRow (calls i)) (file.connections i).statements ∧
    ((file.connections i).exit = some .success → eventRow (calls i) = none)

theorem OwnStep.keeps_added {before after : Connection} {rows : List HoneyRow}
    (step : OwnStep file i before rows after) (current : file.connections i = before)
    (empty : before.statements = []) (fine : before.exit ≠ some .failure) :
    rows = [] ∧ after.statements = [] ∧ after.exit ≠ some .failure := by
  cases step with
  | stopped stopped => exact ⟨rfl, empty, fine⟩
  | busy conflict =>
      obtain ⟨-, lock, asked, -⟩ := conflict
      cases empty
      rw [current] at asked
      cases asked
  | locked clear higher => exact ⟨rfl, empty, by simp⟩
  | closed clear => exact ⟨rfl, rfl, by simp⟩
  | row clear => cases empty
  | selected clear => cases empty
  | created clear => cases empty
  | inserted clear => cases empty

theorem OwnStep.keeps_waiting {before after : Connection} {rows : List HoneyRow}
    {row : Option HoneyRow} (step : OwnStep file i before rows after)
    (waiting : Waiting row before.statements) (unsaid : before.exit = some .success → row = none) :
    (rows = [] ∧ Waiting row after.statements ∧ (after.exit = some .success → row = none)) ∨
    (∃ own, row = some own ∧ rows = [own] ∧ after.statements = [] ∧ after.exit ≠ some .failure) := by
  cases step with
  | stopped stopped => exact .inl ⟨rfl, waiting, unsaid⟩
  | busy conflict => exact .inl ⟨rfl, waiting, by simp⟩
  | locked clear higher => exact .inl ⟨rfl, waiting, by simp⟩
  | closed clear => exact .inl ⟨rfl, waiting, fun _ => waiting.nil⟩
  | row clear => exact .inl ⟨rfl, .before rfl (waiting.tail rfl), by simp⟩
  | selected clear => exact .inl ⟨rfl, waiting.tail rfl, by simp⟩
  | created clear => exact .inl ⟨rfl, waiting.tail rfl, by simp⟩
  | @inserted own rest lock clear =>
      obtain ⟨isOwn, empty⟩ := waiting.insert
      exact .inr ⟨own, isOwn, rfl, empty, by simp⟩

theorem Accounted.ofOwn {calls : ι → DbCall} {start : DbFile ι} {order next : List ι}
    (accounted : Accounted calls start file order) (distinct : next.Nodup)
    (honey : (connectionStep file i).honey =
      start.honey ++ next.filterMap fun j => eventRow (calls j))
    (others : ∀ j, j ≠ i → (j ∈ next ↔ j ∈ order))
    (added : i ∈ next → (eventRow (calls i)).isSome = true ∧
      ((connectionStep file i).connections i).statements = [] ∧
      ((connectionStep file i).connections i).exit ≠ some .failure)
    (waiting : i ∉ next →
      Waiting (eventRow (calls i)) ((connectionStep file i).connections i).statements ∧
      (((connectionStep file i).connections i).exit = some .success → eventRow (calls i) = none)) :
    Accounted calls start (connectionStep file i) next := by
  refine ⟨distinct, honey, ?_, ?_⟩
  · intro j member
    by_cases same : j = i
    · rw [same] at member ⊢
      exact added member
    · rw [connectionStep_of_ne same]
      exact accounted.added j ((others j same).mp member)
  · intro j absent
    by_cases same : j = i
    · rw [same] at absent ⊢
      exact waiting absent
    · rw [connectionStep_of_ne same]
      exact accounted.waiting j fun member => absent ((others j same).mpr member)

theorem connectionStep_accounted {calls : ι → DbCall} {start : DbFile ι} {order : List ι}
    (accounted : Accounted calls start file order) (i : ι) :
    ∃ order, Accounted calls start (connectionStep file i) order := by
  obtain ⟨rows, honey, step⟩ := connectionStep_own file i
  have unchanged (none_ : rows = []) : (connectionStep file i).honey =
      start.honey ++ order.filterMap fun j => eventRow (calls j) := by
    rw [honey, none_, List.append_nil, accounted.honey]
  by_cases member : i ∈ order
  · obtain ⟨isEvent, empty, fine⟩ := accounted.added i member
    obtain ⟨none_, empty', fine'⟩ := step.keeps_added rfl empty fine
    exact ⟨order, accounted.ofOwn accounted.distinct (unchanged none_) (fun _ _ => Iff.rfl)
      (fun _ => ⟨isEvent, empty', fine'⟩) fun absent => absurd member absent⟩
  · obtain ⟨waiting, unsaid⟩ := accounted.waiting i member
    rcases step.keeps_waiting waiting unsaid with ⟨none_, waiting', unsaid'⟩ |
      ⟨own, isOwn, one, empty, fine⟩
    · exact ⟨order, accounted.ofOwn accounted.distinct (unchanged none_) (fun _ _ => Iff.rfl)
        (fun isMember => absurd isMember member) fun _ => ⟨waiting', unsaid'⟩⟩
    · -- the insert of `i` is the last one so far
      refine ⟨order ++ [i], accounted.ofOwn ?_ ?_ ?_ ?_ ?_⟩
      · exact List.nodup_append.mpr ⟨accounted.distinct, List.nodup_singleton i,
          fun j isMember k isLast => by
            rw [List.mem_singleton.mp isLast]
            exact fun same => member (same ▸ isMember)⟩
      · rw [honey, one, accounted.honey, List.filterMap_append, List.append_assoc]
        simp [isOwn]
      · intro j same
        simp [same]
      · intro _
        exact ⟨by rw [isOwn]; rfl, empty, fine⟩
      · intro absent
        exact absurd (List.mem_append_right order List.mem_cons_self) absent

/-! ## Schedules -/

section Runs
variable {calls : ι → DbCall} {start : DbFile ι}

theorem runSchedule_snoc (schedule : List ι) (i : ι) :
    runSchedule start (schedule ++ [i]) = connectionStep (runSchedule start schedule) i :=
  List.foldl_append

omit [DecidableEq ι] [Fintype ι] in
theorem Accounted.ofOpened (opened : start.Opened calls) : Accounted calls start start [] where
  distinct := List.nodup_nil
  honey := by simp
  added i member := by cases member
  waiting i _ := by
    rw [opened i]
    exact ⟨waiting_statements (calls i), by simp⟩

theorem runSchedule_accounted (opened : start.Opened calls) (schedule : List ι) :
    ∃ order, Accounted calls start (runSchedule start schedule) order := by
  induction schedule using List.reverseRecOn with
  | nil => exact ⟨[], .ofOpened opened⟩
  | append_singleton schedule i ih =>
      obtain ⟨order, accounted⟩ := ih
      rw [runSchedule_snoc]
      exact connectionStep_accounted accounted i

def Conflicted (start : DbFile ι) (schedule : List ι) (i : ι) : Prop :=
  ∃ before after, schedule = before ++ i :: after ∧ Conflict (runSchedule start before) i

theorem conflicted_snoc (schedule : List ι) (i j : ι) :
    Conflicted start (schedule ++ [j]) i ↔
      Conflicted start schedule i ∨ (j = i ∧ Conflict (runSchedule start schedule) i) := by
  constructor
  · rintro ⟨before, after, equal, conflict⟩
    rcases List.eq_nil_or_concat after with rfl | ⟨rest, last, rfl⟩
    · obtain ⟨rfl, same⟩ := List.append_inj' equal rfl
      cases same
      exact .inr ⟨rfl, conflict⟩
    · have split : schedule ++ [j] = (before ++ i :: rest) ++ [last] := by simpa using equal
      obtain ⟨rfl, -⟩ := List.append_inj' split rfl
      exact .inl ⟨before, rest, rfl, conflict⟩
  · rintro (⟨before, after, rfl, conflict⟩ | ⟨rfl, conflict⟩)
    · exact ⟨before, after ++ [j], by simp, conflict⟩
    · exact ⟨schedule, [], rfl, conflict⟩

theorem failure_iff_conflicted (opened : start.Opened calls) (schedule : List ι) (i : ι) :
    ((runSchedule start schedule).connections i).exit = some .failure ↔
      Conflicted start schedule i := by
  induction schedule using List.reverseRecOn with
  | nil =>
      constructor
      · intro failed
        rw [runSchedule, List.foldl_nil, opened i] at failed
        cases failed
      · rintro ⟨before, after, equal, -⟩
        simp at equal
  | append_singleton schedule j ih =>
      rw [runSchedule_snoc, conflicted_snoc, ← ih]
      by_cases same : j = i
      · subst same
        obtain ⟨rows, -, step⟩ := connectionStep_own (runSchedule start schedule) j
        rw [step.failure_iff rfl]
        simp
      · rw [connectionStep_of_ne (Ne.symm same)]
        simp [same]

theorem stepsLeft_runSchedule (schedule : List ι) (i : ι)
    (running : ((runSchedule start schedule).connections i).exit = none) :
    stepsLeft ((runSchedule start schedule).connections i) + schedule.count i ≤
      stepsLeft (start.connections i) := by
  induction schedule using List.reverseRecOn with
  | nil => exact le_refl _
  | append_singleton schedule j ih =>
      rw [runSchedule_snoc] at running ⊢
      rw [List.count_append]
      by_cases same : j = i
      · subst same
        obtain ⟨rows, -, step⟩ := connectionStep_own (runSchedule start schedule) j
        have before := step.running_before running
        have less := step.stepsLeft_lt before
        have bound := ih before
        simp only [List.count_singleton_self]
        omega
      · rw [connectionStep_of_ne (Ne.symm same)] at running ⊢
        simpa [same] using ih running

theorem returns_of_count {schedule : List ι} {i : ι}
    (enough : stepsLeft (start.connections i) ≤ schedule.count i) :
    ((runSchedule start schedule).connections i).exit ≠ none := by
  intro running
  have bound := stepsLeft_runSchedule schedule i running
  have positive : 0 < stepsLeft ((runSchedule start schedule).connections i) := by
    have rank := lockRank_le ((runSchedule start schedule).connections i).lock
    rw [stepsLeft, running]
    dsimp only
    omega
  omega

/-- Each event is one row, and there are no other new rows. -/
def NoEventLost (calls : ι → DbCall) (start : DbFile ι) (schedule : List ι) : Prop :=
  ∃ order : List ι, order.Nodup ∧ (∀ i, i ∈ order ↔ (eventRow (calls i)).isSome = true) ∧
    (runSchedule start schedule).honey = start.honey ++ order.filterMap fun i => eventRow (calls i)

/-- What becomes of the events: `order` are the calls whose event is a row. -/
structure EventsSettled (calls : ι → DbCall) (start : DbFile ι) (schedule order : List ι) :
    Prop where
  distinct : order.Nodup
  events : ∀ i ∈ order, (eventRow (calls i)).isSome = true
  honey : (runSchedule start schedule).honey =
    start.honey ++ order.filterMap fun i => eventRow (calls i)
  success : ∀ i, (eventRow (calls i)).isSome = true →
    ((runSchedule start schedule).connections i).exit = some .success → i ∈ order
  failure : ∀ i, ((runSchedule start schedule).connections i).exit = some .failure → i ∉ order
  conflict : ∀ i, ((runSchedule start schedule).connections i).exit = some .failure ↔
    Conflicted start schedule i
  returns : ∀ i badActor, calls i = .insertBadActor badActor → 45 ≤ schedule.count i →
    ((runSchedule start schedule).connections i).exit ≠ none

variable (calls start) in
theorem runSchedule_settled (opened : start.Opened calls) (schedule : List ι) :
    ∃ order, EventsSettled calls start schedule order := by
  obtain ⟨order, accounted⟩ := runSchedule_accounted opened schedule
  refine ⟨order, accounted.distinct, fun i member => (accounted.added i member).1, accounted.honey,
    ?_, fun i failed member => (accounted.added i member).2.2 failed,
    failure_iff_conflicted opened schedule, ?_⟩
  · intro i event succeeded
    by_contra absent
    rw [(accounted.waiting i absent).2 succeeded] at event
    cases event
  · intro i badActor isInsert enough
    apply returns_of_count
    rw [opened i, isInsert]
    exact enough

omit [DecidableEq ι] [Fintype ι] in
theorem length_filterMap_events {order : List ι}
    (events : ∀ i ∈ order, (eventRow (calls i)).isSome = true) :
    (order.filterMap fun i => eventRow (calls i)).length = order.length := by
  rw [List.filterMap_length_eq_length]
  exact events

theorem EventsSettled.noEventLost_iff {schedule order : List ι}
    (settled : EventsSettled calls start schedule order)
    (returned : ∀ i, ((runSchedule start schedule).connections i).exit ≠ none) :
    NoEventLost calls start schedule ↔
      ∀ i, (eventRow (calls i)).isSome = true → ¬ Conflicted start schedule i := by
  constructor
  · rintro ⟨all, distinct, complete, honey⟩ i event conflicted
    have rows := List.append_cancel_left (settled.honey.symm.trans honey)
    have lengths : order.length = all.length := by
      rw [← length_filterMap_events settled.events, rows,
        length_filterMap_events fun j member => (complete j).mp member]
    have included : order ⊆ all := fun j member => (complete j).mpr (settled.events j member)
    have same : order.Perm all :=
      (settled.distinct.subperm included).perm_of_length_le (by omega)
    have member : i ∈ order := same.mem_iff.mpr ((complete i).mpr event)
    exact settled.failure i ((settled.conflict i).mpr conflicted) member
  · intro clear
    refine ⟨order, settled.distinct, fun i => ⟨settled.events i, fun event => ?_⟩, settled.honey⟩
    apply settled.success i event
    cases exit : ((runSchedule start schedule).connections i).exit with
    | none => exact absurd exit (returned i)
    | some exit' =>
        cases exit' with
        | success => rfl
        | failure => exact absurd ((settled.conflict i).mp exit) (clear i event)

theorem dbInsertBadActor_settled (calls : ι → DbCall) (start : DbFile ι)
    (opened : start.Opened calls) (schedule : List ι) :
    (∃ order, EventsSettled calls start schedule order) ∧
    ((∀ i, ((runSchedule start schedule).connections i).exit ≠ none) →
      (NoEventLost calls start schedule ↔
        ∀ i, (eventRow (calls i)).isSome = true → ¬ Conflicted start schedule i)) := by
  obtain ⟨order, settled⟩ := runSchedule_settled calls start opened schedule
  exact ⟨⟨order, settled⟩, settled.noEventLost_iff⟩

end Runs

end Steps

def twoInserts (i : Fin 2) : DbCall :=
  .insertBadActor (inviteActor (if i = 0 then .lit "100" else .lit "200"))

def openedFile : DbFile (Fin 2) where
  schema _ := true
  honey := []
  connections i := ⟨(twoInserts i).statements, .unlocked, none⟩

def inTurn : List (Fin 2) := List.replicate 19 0 ++ List.replicate 19 1

theorem dbInsertBadActor_settled_in_turn : NoEventLost twoInserts openedFile inTurn := by
  have succeeded : ∀ i, ((runSchedule openedFile inTurn).connections i).exit = some .success := by
    decide +kernel
  refine ((dbInsertBadActor_settled twoInserts openedFile (fun _ => rfl) inTurn).2 ?_).mpr ?_
  · intro i
    rw [succeeded i]
    exact Option.some_ne_none _
  · intro i _ conflicted
    have failed := (failure_iff_conflicted (fun _ => rfl) inTurn i).mpr conflicted
    rw [succeeded i] at failed
    cases failed

/-- The second call reaches its insert while the first holds RESERVED. -/
def overlap : List (Fin 2) := List.replicate 15 0 ++ List.replicate 15 1 ++ List.replicate 4 0

theorem dbInsertBadActor_overlap_loses_event :
    (∀ i, ((runSchedule openedFile overlap).connections i).exit ≠ none) ∧
    ((runSchedule openedFile overlap).connections 1).exit = some .failure ∧
    (runSchedule openedFile overlap).honey = [honeyRow (inviteActor (.lit "100"))] ∧
    ¬ NoEventLost twoInserts openedFile overlap := by
  have returned : ∀ i, ((runSchedule openedFile overlap).connections i).exit ≠ none := by
    decide +kernel
  have failed : ((runSchedule openedFile overlap).connections 1).exit = some .failure := by
    decide +kernel
  refine ⟨returned, failed, by decide +kernel, fun kept => ?_⟩
  obtain ⟨order, settled⟩ := runSchedule_settled twoInserts openedFile (fun _ => rfl) overlap
  exact (settled.noEventLost_iff returned).mp kept 1 rfl ((settled.conflict 1).mp failed)

end SentryPeer.Proof
