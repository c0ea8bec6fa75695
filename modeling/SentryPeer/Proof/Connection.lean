import SentryPeer.Source.Connection

/-!
# What a database function leaves open

`sqlite3_close` refuses while a statement is not finalized, so a path that closes without finalizing
leaves both. The paths after a failed step finalize in the functions that read one row or insert one,
and not in the listings; none does after a failed bind.
-/

namespace SentryPeer.Proof
open Lib Connection

def Released (db : Db) : Prop := db.connected = false ∧ db.statements = []

def beforeCall (honey : List HoneyRow) : Db := ⟨false, [], honey⟩

section Endings
variable {α : Type} (statement : Statement) (honey : List HoneyRow)

theorem sqlite3Finalize_prepared (ok : Bool) :
    sqlite3Finalize ok statement ⟨true, [statement], honey⟩ = .ok ok ⟨true, [], honey⟩ := by
  have erased : [statement].erase statement = [] := List.erase_cons_head ..
  have run : sqlite3Finalize ok statement ⟨true, [statement], honey⟩ =
    .ok ok ⟨true, [statement].erase statement, honey⟩ := rfl
  rw [run, erased]

theorem closeAndReturn_finalized (closes : Bool) (result : α) :
    closeAndReturn closes result ⟨true, [], honey⟩ = .ok result ⟨!closes, [], honey⟩ := by
  cases closes <;> rfl

theorem closeAndReturn_prepared (closes : Bool) (result : α) :
    closeAndReturn closes result ⟨true, [statement], honey⟩ =
      .ok result ⟨true, [statement], honey⟩ := by
  cases closes <;> rfl

theorem finalizeAndReturn_prepared (finalizes closes : Bool) (failed result : α) :
    finalizeAndReturn finalizes closes statement failed result ⟨true, [statement], honey⟩ =
      .ok (if finalizes && closes then result else failed) ⟨!closes, [], honey⟩ := by
  rw [finalizeAndReturn, run_bind, sqlite3Finalize_prepared]
  cases finalizes <;> cases closes <;> rfl

end Endings

/-- How a call ends: `sqlite3_close` is called once, with the statement not finalized or with none. -/
def ended (closes leaks : Bool) (statement : Statement) (honey : List HoneyRow) : Db :=
  ⟨leaks || !closes, if leaks then [statement] else [], honey⟩

theorem released_ended_iff {closes leaks : Bool} {statement : Statement} {honey : List HoneyRow} :
    Released (ended closes leaks statement honey) ↔ closes = true ∧ leaks = false := by
  cases closes <;> cases leaks <;> simp [Released, ended]

/-! ## Inserting -/

/-- The insert is prepared, and one of its values is not bound. -/
def insertLeaks (succeeds : InsertCall → Bool) : Bool :=
  succeeds .openDb && (insertSetup.all succeeds && (succeeds .prepare &&
    !(List.finRange 10).all fun column => succeeds (.bind column)))

theorem insertCallsBeforeStep_all (succeeds : InsertCall → Bool) :
    insertCallsBeforeStep.all succeeds = (succeeds .openDb && (insertSetup.all succeeds &&
      (succeeds .prepare && (List.finRange 10).all fun column => succeeds (.bind column)))) := by
  simp [insertCallsBeforeStep, insertSetup, Bool.and_assoc, Function.comp_def]

theorem dbInsertBadActor_run (succeeds : InsertCall → Bool) (badActor : BadActor)
    (honey : List HoneyRow) :
    Connection.dbInsertBadActor succeeds badActor (beforeCall honey) =
      .ok (SentryPeer.dbInsertBadActor succeeds badActor honey).1
        (ended (succeeds .close) (insertLeaks succeeds) .insertBadActorStmt
          (SentryPeer.dbInsertBadActor succeeds badActor honey).2) := by
  unfold Connection.dbInsertBadActor SentryPeer.dbInsertBadActor insertLeaks ended beforeCall
  rw [insertCallsBeforeStep_all]
  generalize insertSetup.all succeeds = setup
  generalize ((List.finRange 10).all fun column => succeeds (.bind column)) = bound
  generalize succeeds .close = closes
  cases succeeds .openDb with
  | false => cases closes <;> rfl
  | true =>
      cases setup with
      | false => cases closes <;> rfl
      | true =>
          cases succeeds .prepare with
          | false => cases closes <;> rfl
          | true =>
              cases bound with
              | false => cases closes <;> rfl
              | true =>
                  cases succeeds .step <;> cases succeeds .finalize <;> cases closes <;> rfl

/-! ## One row -/

/-- The query is prepared and its value is not bound. -/
def selectRowLeaks (succeeds : ExistsCall → Bool) : Bool :=
  succeeds .openDb && (succeeds .prepare && !succeeds .bind)

theorem selectRow_run {α β : Type} (statement : Statement) (succeeds : ExistsCall → Bool)
    (row : Option α) (read : α → Except Abort β) (value : α → β)
    (reads : ∀ found, row = some found → read found = .ok (value found)) (honey : List HoneyRow) :
    selectRow statement succeeds row read (beforeCall honey) =
      .ok (if existsCalls.all succeeds then row.map value else none)
        (ended (succeeds .close) (selectRowLeaks succeeds) statement honey) := by
  unfold selectRow selectRowLeaks ended beforeCall existsCalls
  simp only [List.all_cons, List.all_nil, Bool.and_true]
  generalize succeeds .close = closes
  cases succeeds .openDb with
  | false => cases closes <;> rfl
  | true =>
      cases succeeds .prepare with
      | false => cases closes <;> rfl
      | true =>
          cases succeeds .bind with
          | false => cases closes <;> rfl
          | true =>
              have unread : (do
                  let _ ← sqlite3Finalize (succeeds .finalize) statement
                  closeAndReturn closes (none : Option β)) ⟨true, [statement], honey⟩ =
                    .ok none ⟨!closes, [], honey⟩ := by
                rw [run_bind, sqlite3Finalize_prepared]
                exact closeAndReturn_finalized honey closes none
              cases succeeds .step with
              | false => exact unread
              | true =>
                  cases row with
                  | none =>
                      refine unread.trans ?_
                      cases succeeds .finalize <;> cases closes <;> rfl
                  | some found =>
                      have finished : (fromExcept (read found) >>= fun value => finalizeAndReturn
                          (succeeds .finalize) closes statement none (some value))
                            ⟨true, [statement], honey⟩ =
                          .ok (if succeeds .finalize && closes then some (value found) else none)
                            ⟨!closes, [], honey⟩ := by
                        rw [reads found rfl]
                        exact finalizeAndReturn_prepared statement honey _ _ _ _
                      exact finished

theorem dbBadActorExists_run (succeeds : ExistsCall → Bool) {eventUuid : CStr}
    (valid : isValidUuid eventUuid = true) (honey : List HoneyRow) :
    Connection.dbBadActorExists succeeds (some eventUuid) (beforeCall honey) =
      .ok (SentryPeer.dbBadActorExists succeeds eventUuid honey)
        (ended (succeeds .close) (selectRowLeaks succeeds) .findBadActorStmt honey) := by
  have row := selectRow_run .findBadActorStmt succeeds
    (some (honey.any fun row => row.eventUuid == some eventUuid)) .ok id (fun _ _ => rfl) honey
  simp only [Connection.dbBadActorExists, valid, ↓reduceIte, run_bind, run_get]
  rw [show (beforeCall honey).honey = honey from rfl, row, SentryPeer.dbBadActorExists, valid]
  cases existsCalls.all succeeds <;> rfl

theorem dbBadActorExists_invalid (succeeds : ExistsCall → Bool) {eventUuid : Option CStr}
    (invalid : ∀ uuid, eventUuid = some uuid → isValidUuid uuid = false) (honey : List HoneyRow) :
    Connection.dbBadActorExists succeeds eventUuid (beforeCall honey) =
      .ok false (beforeCall honey) := by
  cases eventUuid with
  | none => rfl
  | some uuid =>
      simp only [Connection.dbBadActorExists, invalid uuid rfl]
      rfl

theorem selectDistinct_run (statement : Statement) (column : HoneyRow → Option CStr)
    (succeeds : SelectCall → Bool) (text : CStr) (honey : List HoneyRow) :
    Connection.selectDistinct statement column succeeds text (beforeCall honey) =
      .ok (SentryPeer.selectDistinct column succeeds text honey)
        (ended (succeeds .close) (selectRowLeaks fun call => succeeds (selectCall call)) statement
          honey) := by
  have holds (found : HoneyRow) (isFound : honey.find? (fun row => column row == some text) =
      some found) : column found = some text := by
    simpa using List.find?_some isFound
  have row := selectRow_run statement (fun call => succeeds (selectCall call))
    (honey.find? fun row => column row == some text)
    (fun row => utilDuplicateString (column row)) (fun _ => text)
    (fun found isFound => by rw [holds found isFound, utilDuplicateString_some]) honey
  simp only [Connection.selectDistinct, run_bind, run_get]
  rw [show (beforeCall honey).honey = honey from rfl, row, SentryPeer.selectDistinct]
  have same : (existsCalls.all fun call => succeeds (selectCall call)) =
    [.openDb, .prepare, .bind, .step, .finalize, .close].all succeeds := rfl
  have read : (honey.find? fun row => column row == some text).map (fun _ => text) =
      (honey.find? fun row => column row == some text).bind column := by
    cases isFound : honey.find? fun row => column row == some text with
    | none => rfl
    | some found => exact (holds found isFound).symm
  rw [same, read]
  rfl

/-! ## Listings -/

/-- In one of its rounds the row loop has no row: the step fails, or no row is left. -/
def rowsStop (steps : Nat → Bool) (rowCount rows : Nat) : Bool :=
  (List.range rowCount).any fun i => !steps i || decide (rows ≤ i)

/-- The query for the number of rows is prepared and not stepped. -/
def countLeaks (succeeds : SelectCall → Bool) : Bool :=
  succeeds .openDb && (succeeds .prepareCount && !succeeds .stepCount)

def rowsLeak (listing : Listing) (succeeds : SelectCall → Bool) (steps : Nat → Bool)
    (counted listed : List HoneyRow) : Bool :=
  succeeds .openDb && (succeeds .prepareCount && (succeeds .stepCount &&
    (succeeds .finalizeCount && (succeeds .prepare &&
      rowsStop steps (listing.rowCount counted) (listing.groups listed).length))))

theorem rowsStop_succ (steps : Nat → Bool) (left rows : Nat) :
    rowsStop steps (left + 1) (rows + 1) =
      (!steps 0 || rowsStop (fun i => steps (i + 1)) left rows) := by
  rw [rowsStop, List.range_succ_eq_map, List.any_cons, List.any_map]
  simp [rowsStop, Function.comp_def]

theorem readRows_shift (steps : Nat → Bool) (left rowNum : Nat) (groups : List SeenGroup) :
    readRows steps left (rowNum + 1) groups = readRows (fun i => steps (i + 1)) left rowNum groups := by
  induction left generalizing rowNum groups with
  | zero => rfl
  | succ left ih =>
      cases groups with
      | nil => rfl
      | cons group rest => rw [readRows, readRows, ih]

theorem readRows_returned {steps : Nat → Bool} {left : Nat} {groups : List SeenGroup}
    {result : Option (List SeenEntry)} (ran : readRows steps left 0 groups = .ok result) :
    result.isNone = rowsStop steps left groups.length := by
  induction left generalizing steps groups result with
  | zero =>
      cases ran
      rfl
  | succ left ih =>
      cases groups with
      | nil =>
          cases ran
          simp [rowsStop, List.range_succ_eq_map]
      | cons group rest =>
          rw [List.length_cons, rowsStop_succ]
          rw [readRows] at ran
          cases first : steps 0 with
          | false =>
              rw [first] at ran
              cases ran
              rfl
          | true =>
              rw [first, readRows_shift] at ran
              obtain ⟨entry, -, ran⟩ := bind_eq_ok.mp ran
              obtain ⟨more, later, ran⟩ := bind_eq_ok.mp ran
              cases ran
              rw [Option.isNone_map, ih later]
              rfl

theorem readRows_ended {statement : Statement} {steps : Nat → Bool} {rowCount : Nat}
    {groups : List SeenGroup} {finalizes closes : Bool} {honey : List HoneyRow}
    {result : Option (Nat × List SeenEntry)} {db : Db}
    (ran : (fromExcept (readRows steps rowCount 0 groups) >>= fun
      | none => closeAndReturn closes none
      | some entries =>
          finalizeAndReturn finalizes closes statement none (some (rowCount, entries)))
        ⟨true, [statement], honey⟩ = .ok result db) :
    db = ended closes (rowsStop steps rowCount groups.length) statement honey ∧
    ∃ rows, readRows steps rowCount 0 groups = .ok rows ∧
      result = rows.bind fun entries =>
        if finalizes && closes then some (rowCount, entries) else none := by
  obtain ⟨rows, u, looped, ran⟩ := run_bind_eq_ok.mp ran
  obtain ⟨read, rfl⟩ := fromExcept_eq_ok.mp looped
  rw [← readRows_returned read]
  cases rows with
  | none =>
      cases (closeAndReturn_prepared statement honey closes _).symm.trans ran
      exact ⟨rfl, none, read, rfl⟩
  | some entries =>
      cases (finalizeAndReturn_prepared statement honey finalizes closes _ _).symm.trans ran
      refine ⟨?_, some entries, read, rfl⟩
      cases closes <;> rfl

def callsBeforeRows : List SelectCall :=
  [.openDb, .prepareCount, .stepCount, .finalizeCount, .prepare]

theorem select_returned {statement : Statement} {listing : Listing} {succeeds : SelectCall → Bool}
    {steps : Nat → Bool} {counted listed honey : List HoneyRow}
    {result : Option (Nat × List SeenEntry)} {db : Db}
    (ran : Connection.select statement listing succeeds steps counted listed (beforeCall honey) =
      .ok result db) :
    db = ended (succeeds .close) (countLeaks succeeds || rowsLeak listing succeeds steps counted listed)
      (if countLeaks succeeds then .getRowCountStmt else statement) honey ∧
    (callsBeforeRows.all succeeds = false ∧ result = none ∨
      callsBeforeRows.all succeeds = true ∧
        ∃ rows, readRows steps (listing.rowCount counted) 0 (listing.groups listed) = .ok rows ∧
          result = rows.bind fun entries =>
            if succeeds .finalize && succeeds .close then some (listing.rowCount counted, entries)
            else none) := by
  unfold Connection.select at ran
  unfold countLeaks rowsLeak ended
  simp only [callsBeforeRows, List.all_cons, List.all_nil]
  generalize succeeds .close = closes at ran ⊢
  cases opens : succeeds .openDb with
  | false =>
      rw [opens] at ran
      cases closes <;> cases ran <;> exact ⟨rfl, .inl ⟨rfl, rfl⟩⟩
  | true =>
      rw [opens] at ran
      cases prepares : succeeds .prepareCount with
      | false =>
          rw [prepares] at ran
          cases closes <;> cases ran <;> exact ⟨rfl, .inl ⟨rfl, rfl⟩⟩
      | true =>
          rw [prepares] at ran
          cases counts : succeeds .stepCount with
          | false =>
              rw [counts] at ran
              cases closes <;> cases ran <;> exact ⟨rfl, .inl ⟨rfl, rfl⟩⟩
          | true =>
              rw [counts] at ran
              cases finalizes : succeeds .finalizeCount with
              | false =>
                  rw [finalizes] at ran
                  cases closes <;> cases ran <;> exact ⟨rfl, .inl ⟨rfl, rfl⟩⟩
              | true =>
                  rw [finalizes] at ran
                  cases lists : succeeds .prepare with
                  | false =>
                      rw [lists] at ran
                      cases closes <;> cases ran <;> exact ⟨rfl, .inl ⟨rfl, rfl⟩⟩
                  | true =>
                      rw [lists] at ran
                      obtain ⟨isDb, rows⟩ := readRows_ended ran
                      exact ⟨isDb, .inr ⟨rfl, rows⟩⟩

theorem readRows_all (left rowNum : Nat) (groups : List SeenGroup) :
    readRows (fun _ => true) left rowNum groups = do
      let entries ← (groups.take left).mapM readGroup
      return if groups.length < left then none else some entries := by
  induction left generalizing rowNum groups with
  | zero =>
      rw [readRows, List.take_zero, List.mapM_nil]
      rfl
  | succ left ih =>
      cases groups with
      | nil => rfl
      | cons group rest =>
          rw [readRows, ih, List.take_succ_cons, List.mapM_cons]
          cases readGroup group with
          | error abort => rfl
          | ok entry =>
              cases (rest.take left).mapM readGroup with
              | error abort => rfl
              | ok entries =>
                  show Except.ok _ = Except.ok _
                  by_cases short : rest.length < left
                  · simp [short]
                  · simp [short]

/-- When no call fails, the calls give the result of the model on tables. -/
theorem select_result {statement : Statement} {listing : Listing}
    {counted listed honey : List HoneyRow} {result : Option (Nat × List SeenEntry)} {db : Db}
    (ran : Connection.select statement listing (fun _ => true) (fun _ => true) counted listed
      (beforeCall honey) = .ok result db) :
    listing.select (fun _ => true) counted listed = .ok result := by
  obtain ⟨-, ⟨failed, -⟩ | ⟨-, rows, read, rfl⟩⟩ := select_returned ran
  · cases failed
  rw [readRows_all] at read
  obtain ⟨entries, readEach, isRows⟩ := bind_eq_ok.mp read
  simp only [Listing.select, readEach]
  by_cases short : (listing.groups listed).length < listing.rowCount counted
  · rw [if_pos short] at isRows
    cases isRows
    simp only [short]
    rfl
  · rw [if_neg short] at isRows
    cases isRows
    simp only [short]
    rfl

/-! ## Exactly when a function leaves nothing open -/

theorem database_released_iff (honey : List HoneyRow) :
    (∀ succeeds badActor, ∃ exit db,
      Connection.dbInsertBadActor succeeds badActor (beforeCall honey) = .ok exit db ∧
      (Released db ↔ succeeds .close = true ∧ insertLeaks succeeds = false)) ∧
    (∀ succeeds eventUuid, ∃ found db,
      Connection.dbBadActorExists succeeds eventUuid (beforeCall honey) = .ok found db ∧
      (Released db ↔ ∀ uuid, eventUuid = some uuid → isValidUuid uuid = true →
        succeeds .close = true ∧ selectRowLeaks succeeds = false)) ∧
    (∀ succeeds ipAddress, ∃ found db,
      Connection.dbSelectBadActorByIp succeeds ipAddress (beforeCall honey) = .ok found db ∧
      (Released db ↔ succeeds .close = true ∧
        selectRowLeaks (fun call => succeeds (selectCall call)) = false)) ∧
    (∀ succeeds steps counted listed result db,
      Connection.dbSelectBadActors succeeds steps counted listed (beforeCall honey) =
        .ok result db →
      (Released db ↔ succeeds .close = true ∧ countLeaks succeeds = false ∧
        rowsLeak sourceIps succeeds steps counted listed = false)) ∧
    (∀ succeeds steps counted listed result db,
      Connection.dbSelectCalledNumbers succeeds steps counted listed (beforeCall honey) =
        .ok result db →
      (Released db ↔ succeeds .close = true ∧ countLeaks succeeds = false ∧
        rowsLeak calledNumbers succeeds steps counted listed = false)) ∧
    ∀ succeeds phoneNumber, ∃ found db,
      Connection.dbSelectPhoneNumber succeeds phoneNumber (beforeCall honey) = .ok found db ∧
      (Released db ↔ succeeds .close = true ∧
        selectRowLeaks (fun call => succeeds (selectCall call)) = false) := by
  have listing {statement : Statement} {listing : Listing} {succeeds : SelectCall → Bool}
      {steps : Nat → Bool} {counted listed : List HoneyRow}
      {result : Option (Nat × List SeenEntry)} {db : Db}
      (ran : Connection.select statement listing succeeds steps counted listed (beforeCall honey) =
        .ok result db) :
      Released db ↔ succeeds .close = true ∧ countLeaks succeeds = false ∧
        rowsLeak listing succeeds steps counted listed = false := by
    rw [(select_returned ran).1, released_ended_iff, Bool.or_eq_false_iff]
  refine ⟨fun succeeds badActor => ?_, fun succeeds eventUuid => ?_, fun succeeds ipAddress => ?_,
    fun _ _ _ _ _ _ ran => listing ran, fun _ _ _ _ _ _ ran => listing ran,
    fun succeeds phoneNumber => ?_⟩
  · exact ⟨_, _, dbInsertBadActor_run succeeds badActor honey, released_ended_iff⟩
  · by_cases valid : ∃ uuid, eventUuid = some uuid ∧ isValidUuid uuid = true
    · obtain ⟨uuid, rfl, valid⟩ := valid
      refine ⟨_, _, dbBadActorExists_run succeeds valid honey, released_ended_iff.trans ?_⟩
      simp [valid]
    · have invalid (uuid : CStr) (given : eventUuid = some uuid) : isValidUuid uuid = false := by
        by_contra isValid
        exact valid ⟨uuid, given, by simpa using isValid⟩
      refine ⟨_, _, dbBadActorExists_invalid succeeds invalid honey, ?_⟩
      simp only [Released, beforeCall, true_and, true_iff]
      intro uuid given isValid
      rw [invalid uuid given] at isValid
      cases isValid
  · exact ⟨_, _, selectDistinct_run _ _ succeeds ipAddress honey, released_ended_iff⟩
  · exact ⟨_, _, selectDistinct_run _ _ succeeds phoneNumber honey, released_ended_iff⟩

theorem database_released_empty_listing : ∃ result db,
    Connection.dbSelectBadActors (fun _ => true) (fun _ => true) [] [] (beforeCall []) =
      .ok result db ∧ Released db := by
  refine ⟨_, _, rfl, ?_⟩
  obtain ⟨-, -, -, listing, -⟩ := database_released_iff []
  rw [listing (fun _ => true) (fun _ => true) [] [] _ _ rfl]
  decide

theorem database_busy_count_leaks :
    Connection.dbSelectBadActors (fun call => call ≠ .stepCount) (fun _ => true) [] []
      (beforeCall []) = .ok none ⟨true, [.getRowCountStmt], []⟩ ∧
    ¬ Released ⟨true, [.getRowCountStmt], []⟩ := by
  refine ⟨rfl, fun released => ?_⟩
  cases released.1

end SentryPeer.Proof
