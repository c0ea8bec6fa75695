import SentryPeer.Source.Database
import Mathlib.Data.Fintype.Basic

/-!
# Concurrent connections

The functions of `database.c` as the statements they run on their own connection, over the locks of
SQLite's rollback journal. There is no busy handler: a lock that is not granted at once ends the
statement, its transaction is rolled back and the function returns a failure. A step of a connection
is one lock, one row or one commit, and the steps of the connections interleave.
-/

namespace SentryPeer
open Lib

inductive Lock
  | unlocked
  | shared
  | reserved
  | pending
  | exclusive
deriving DecidableEq

/-- Whether a lock is granted while another connection holds `held`. -/
def Lock.grantedBeside : Lock → Lock → Bool
  | .unlocked, _ => true
  | .shared, held => held ≠ .pending && held ≠ .exclusive
  | .reserved, held => held = .unlocked || held = .shared
  | .pending, held => held = .unlocked || held = .shared
  | .exclusive, held => held = .unlocked

inductive SchemaObject
  | honey
  | sourceIpIndex
  | calledNumberIndex
  | eventUuidIndex
deriving DecidableEq

inductive Statement
  | create (object : SchemaObject)
  | insert (row : HoneyRow)
  -- with the rows that are still to be read
  | select (rows : Nat)
deriving DecidableEq

/-- `rows` is the number of times the loop of the function steps. -/
inductive DbCall
  | insertBadActor (badActor : BadActor)
  | badActorExists
  | selectBadActorByIp
  | selectBadActors (rows : Nat)
  | selectCalledNumbers (rows : Nat)
  | selectPhoneNumber

-- The first statement that a connection prepares loads the schema.
def DbCall.statements : DbCall → List Statement
  | .insertBadActor badActor =>
      [.select 1, .select 0, .create .honey, .create .sourceIpIndex, .create .calledNumberIndex,
        .create .eventUuidIndex, .insert (honeyRow badActor)]
  | .badActorExists | .selectBadActorByIp | .selectPhoneNumber => [.select 0, .select 1]
  | .selectBadActors rows | .selectCalledNumbers rows => [.select 0, .select 1, .select rows]

structure Connection where
  statements : List Statement
  lock : Lock
  exit : Option Exit
deriving DecidableEq

structure DbFile (ι : Type) where
  schema : SchemaObject → Bool
  honey : List HoneyRow
  connections : ι → Connection

section Steps
variable {ι : Type} [DecidableEq ι] [Fintype ι]

def lockRequest (schema : SchemaObject → Bool) (connection : Connection) : Option Lock :=
  match connection.statements, connection.lock with
  | [], _ => none
  | _ :: _, .unlocked => some .shared
  | .select _ :: _, .shared => none
  | .create object :: _, .shared => if schema object then none else some .reserved
  | .insert _ :: _, .shared => some .reserved
  | _ :: _, .reserved => some .pending
  | _ :: _, .pending => some .exclusive
  | _ :: _, .exclusive => none

def lockGranted (file : DbFile ι) (i : ι) (lock : Lock) : Bool :=
  decide (∀ j, j ≠ i → lock.grantedBeside (file.connections j).lock = true)

def DbFile.setConnection (file : DbFile ι) (i : ι) (connection : Connection) : DbFile ι :=
  { file with connections := Function.update file.connections i connection }

/-- A step of a connection that has its lock. The last one finalizes and closes. -/
def performStatement (file : DbFile ι) (i : ι) (connection : Connection) : DbFile ι :=
  let release (rest : List Statement) : Connection := ⟨rest, .unlocked, none⟩
  match connection.statements with
  | [] => file.setConnection i { connection with exit := some .success }
  | .select 0 :: rest => file.setConnection i (release rest)
  | .select (rows + 1) :: rest =>
      file.setConnection i { connection with statements := .select rows :: rest }
  | .create object :: rest =>
      { file.setConnection i (release rest) with
        schema := Function.update file.schema object true }
  | .insert row :: rest =>
      { file.setConnection i (release rest) with honey := file.honey ++ [row] }

def connectionStep (file : DbFile ι) (i : ι) : DbFile ι :=
  let connection := file.connections i
  if connection.exit.isSome then file
  else
    match lockRequest file.schema connection with
    | some lock =>
        if lockGranted file i lock then file.setConnection i { connection with lock := lock }
        else file.setConnection i { connection with lock := .unlocked, exit := some .failure }
    | none => performStatement file i connection

def runSchedule (file : DbFile ι) (schedule : List ι) : DbFile ι :=
  schedule.foldl connectionStep file

end Steps

def DbFile.Opened {ι : Type} (file : DbFile ι) (calls : ι → DbCall) : Prop :=
  ∀ i, file.connections i = ⟨(calls i).statements, .unlocked, none⟩

end SentryPeer
