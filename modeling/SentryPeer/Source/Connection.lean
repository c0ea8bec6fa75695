import SentryPeer.Source.Database

/-!
# Connections and statements

The six functions of `database.c` call by call, with what SQLite holds for them: the connection, the
statements that are not finalized, and the table. `sqlite3_open` makes a connection even when it
fails, `sqlite3_finalize` takes the statement away whatever it returns, and `sqlite3_close` refuses
while there are statements.
-/

namespace SentryPeer.Connection
open Lib

inductive Statement
  | insertBadActorStmt
  | findBadActorStmt
  | findPhoneNumberStmt
  | getRowCountStmt
  | selectBadActorsStmt
  | selectPhoneNumbersStmt
deriving DecidableEq

structure Db where
  connected : Bool
  statements : List Statement
  honey : List HoneyRow
deriving DecidableEq

/-! ## The calls -/

def sqlite3Open (ok : Bool) : EStateM Abort Db Bool := do
  modify fun db => { db with connected := true }
  return ok

def sqlite3PrepareV2 (ok : Bool) (statement : Statement) : EStateM Abort Db Bool := do
  if ok then modify fun db => { db with statements := statement :: db.statements }
  return ok

def sqlite3Finalize (ok : Bool) (statement : Statement) : EStateM Abort Db Bool := do
  modify fun db => { db with statements := db.statements.erase statement }
  return ok

def sqlite3Close (ok : Bool) : EStateM Abort Db Bool := fun db =>
  if ok && db.statements.isEmpty then .ok true { db with connected := false } else .ok false db

/-- The end of every early return: its own result is not looked at. -/
def closeAndReturn {α : Type} (ok : Bool) (result : α) : EStateM Abort Db α := do
  let _ ← sqlite3Close ok
  return result

/-- The end of the calls that have got so far. -/
def finalizeAndReturn {α : Type} (finalizes closes : Bool) (statement : Statement)
    (failed result : α) : EStateM Abort Db α := do
  if !(← sqlite3Finalize finalizes statement) then return ← closeAndReturn closes failed
  if !(← sqlite3Close closes) then return failed
  return result

/-! ## Inserting -/

-- The calls of `sqlite3_exec`.
def insertSetup : List InsertCall :=
  [.schemaCheck, .createTable, .createSourceIpIndex, .createCalledNumberIndex, .createEventUuidIndex]

-- The calls of `sqlite3_exec` are alike and those of `sqlite3_bind_text` are: each failure closes the
-- connection and returns.
def dbInsertBadActor (succeeds : InsertCall → Bool) (badActor : BadActor) :
    EStateM Abort Db Exit := do
  if !(← sqlite3Open (succeeds .openDb)) then return ← closeAndReturn (succeeds .close) .failure
  if !insertSetup.all succeeds then return ← closeAndReturn (succeeds .close) .failure
  if !(← sqlite3PrepareV2 (succeeds .prepare) .insertBadActorStmt) then
    return ← closeAndReturn (succeeds .close) .failure
  if !(List.finRange 10).all fun column => succeeds (.bind column) then
    return ← closeAndReturn (succeeds .close) .failure
  if !succeeds .step then
    let _ ← sqlite3Finalize (succeeds .finalize) .insertBadActorStmt
    return ← closeAndReturn (succeeds .close) .failure
  modify fun db => { db with honey := db.honey ++ [honeyRow badActor] }
  finalizeAndReturn (succeeds .finalize) (succeeds .close) .insertBadActorStmt .failure .success

/-! ## One row -/

/-- What `db_bad_actor_exists`, `db_select_bad_actor_by_ip` and `db_select_phone_number` have in
common: `row` is the row that the query has, and `read` what is made of it. -/
def selectRow {α β : Type} (statement : Statement) (succeeds : ExistsCall → Bool) (row : Option α)
    (read : α → Except Abort β) : EStateM Abort Db (Option β) := do
  if !(← sqlite3Open (succeeds .openDb)) then return ← closeAndReturn (succeeds .close) none
  if !(← sqlite3PrepareV2 (succeeds .prepare) statement) then
    return ← closeAndReturn (succeeds .close) none
  if !succeeds .bind then return ← closeAndReturn (succeeds .close) none
  match (if succeeds .step then row else none) with
  | none =>
      let _ ← sqlite3Finalize (succeeds .finalize) statement
      closeAndReturn (succeeds .close) none
  | some row =>
      let value ← fromExcept (read row)
      finalizeAndReturn (succeeds .finalize) (succeeds .close) statement none (some value)

-- `SELECT EXISTS` always has its row. Without a valid UUID no connection is made.
def dbBadActorExists (succeeds : ExistsCall → Bool) (eventUuid : Option CStr) :
    EStateM Abort Db Bool := do
  match eventUuid with
  | none => return false
  | some eventUuid =>
      if isValidUuid eventUuid then
        let found := (← get).honey.any fun row => row.eventUuid == some eventUuid
        return (← selectRow .findBadActorStmt succeeds (some found) .ok).getD false
      else return false

def selectCall : ExistsCall → SelectCall
  | .openDb => .openDb
  | .prepare => .prepare
  | .bind => .bind
  | .step => .step
  | .finalize => .finalize
  | .close => .close

def selectDistinct (statement : Statement) (column : HoneyRow → Option CStr)
    (succeeds : SelectCall → Bool) (text : CStr) : EStateM Abort Db (Option CStr) := do
  let row := (← get).honey.find? fun row => column row == some text
  selectRow statement (fun call => succeeds (selectCall call)) row fun row =>
    utilDuplicateString (column row)

def dbSelectBadActorByIp := selectDistinct .findBadActorStmt HoneyRow.sourceIp
def dbSelectPhoneNumber := selectDistinct .findPhoneNumberStmt HoneyRow.calledNumber

/-! ## Listings -/

/-- The row loop. `steps` is how `sqlite3_step` ends in each round; it fails too where no row is
left. -/
def readRows (steps : Nat → Bool) : (left rowNum : Nat) → List SeenGroup →
    Except Abort (Option (List SeenEntry))
  | 0, _, _ => .ok (some [])
  | _ + 1, _, [] => .ok none
  | left + 1, rowNum, group :: rest =>
      if steps rowNum then do
        let entry ← readGroup group
        return (← readRows steps left (rowNum + 1) rest).map (entry :: ·)
      else .ok none

/-- `db_select_bad_actors` and `db_select_called_numbers`; `counted` and `listed` are the tables that
the two queries see. -/
def select (statement : Statement) (listing : Listing) (succeeds : SelectCall → Bool)
    (steps : Nat → Bool) (counted listed : List HoneyRow) :
    EStateM Abort Db (Option (Nat × List SeenEntry)) := do
  if !(← sqlite3Open (succeeds .openDb)) then return ← closeAndReturn (succeeds .close) none
  if !(← sqlite3PrepareV2 (succeeds .prepareCount) .getRowCountStmt) then
    return ← closeAndReturn (succeeds .close) none
  if !succeeds .stepCount then return ← closeAndReturn (succeeds .close) none
  let rowCount := listing.rowCount counted
  if !(← sqlite3Finalize (succeeds .finalizeCount) .getRowCountStmt) then
    return ← closeAndReturn (succeeds .close) none
  if !(← sqlite3PrepareV2 (succeeds .prepare) statement) then
    return ← closeAndReturn (succeeds .close) none
  match ← fromExcept (readRows steps rowCount 0 (listing.groups listed)) with
  | none => closeAndReturn (succeeds .close) none
  | some entries =>
      finalizeAndReturn (succeeds .finalize) (succeeds .close) statement none
        (some (rowCount, entries))

def dbSelectBadActors := select .selectBadActorsStmt sourceIps
def dbSelectCalledNumbers := select .selectPhoneNumbersStmt calledNumbers

end SentryPeer.Connection
