import SentryPeer.Source.Types
import SentryPeer.Lib.Grouping

/-!
# The honey table

`database.c` over the documented behaviour of SQLite: the calls of a function succeed or fail as
told, and a table is its rows in the order of insertion. Text is compared byte by byte.
-/

namespace SentryPeer
open Lib

/-- The ten columns that `db_insert_bad_actor` fills. -/
structure HoneyRow where
  eventTimestamp : Option CStr
  eventUuid : Option CStr
  collectedMethod : Option CStr
  sourceIp : Option CStr
  calledNumber : Option CStr
  transportType : Option CStr
  method : Option CStr
  userAgent : Option CStr
  sipMessage : Option CStr
  createdByNodeId : Option CStr
deriving DecidableEq

-- A null pointer is bound as NULL.
def honeyRow (badActor : BadActor) : HoneyRow where
  eventTimestamp := badActor.eventTimestamp
  eventUuid := badActor.eventUuid
  collectedMethod := badActor.collectedMethod
  sourceIp := badActor.sourceIp
  calledNumber := badActor.calledNumber
  transportType := badActor.transportType
  method := badActor.method
  userAgent := badActor.userAgent
  sipMessage := badActor.sipMessage
  createdByNodeId := badActor.createdByNodeId

/-! ## Inserting -/

inductive InsertCall
  | openDb
  | schemaCheck
  | createTable
  | createSourceIpIndex
  | createCalledNumberIndex
  | createEventUuidIndex
  | prepare
  | bind (column : Fin 10)
  | step
  | finalize
  | close
deriving DecidableEq

def insertCallsBeforeStep : List InsertCall :=
  [.openDb, .schemaCheck, .createTable, .createSourceIpIndex, .createCalledNumberIndex,
    .createEventUuidIndex, .prepare] ++ (List.finRange 10).map .bind

-- The row is there once `sqlite3_step` is done, whatever the calls after it return.
def dbInsertBadActor (succeeds : InsertCall → Bool) (badActor : BadActor) (honey : List HoneyRow) :
    Exit × List HoneyRow :=
  if !insertCallsBeforeStep.all succeeds then (.failure, honey)
  else if !succeeds .step then (.failure, honey)
  else if !succeeds .finalize then (.failure, honey ++ [honeyRow badActor])
  else if !succeeds .close then (.failure, honey ++ [honeyRow badActor])
  else (.success, honey ++ [honeyRow badActor])

/-! ## Duplicates -/

-- `uuid_parse`: 36 characters, hyphens at four positions and hexadecimal digits elsewhere.
def isValidUuid (uuid : CStr) : Bool :=
  uuid.length == 36 && (uuid.bytes.zipIdx.all fun entry =>
    if entry.2 ∈ [8, 13, 18, 23] then entry.1 == 0x2D else isHexDigit entry.1)

inductive ExistsCall
  | openDb
  | prepare
  | bind
  | step
  | finalize
  | close
deriving DecidableEq

def existsCalls : List ExistsCall := [.openDb, .prepare, .bind, .step, .finalize, .close]

-- A failed call is reported like an absent row. Before the first insert there is no table, and
-- `prepare` fails.
def dbBadActorExists (succeeds : ExistsCall → Bool) (eventUuid : CStr) (honey : List HoneyRow) :
    Bool :=
  isValidUuid eventUuid && existsCalls.all succeeds &&
    honey.any fun row => row.eventUuid == some eventUuid

/-! ## Listings -/

inductive SelectCall
  | openDb
  | prepareCount
  | stepCount
  | finalizeCount
  | prepare
  | bind
  | step
  | finalize
  | close
deriving DecidableEq

-- `SELECT DISTINCT(column) FROM honey WHERE column = ?`
def selectDistinct (column : HoneyRow → Option CStr) (succeeds : SelectCall → Bool) (text : CStr)
    (honey : List HoneyRow) : Option CStr :=
  if [.openDb, .prepare, .bind, .step, .finalize, .close].all succeeds then
    (honey.find? fun row => column row == some text).bind column
  else none

def dbSelectBadActorByIp := selectDistinct HoneyRow.sourceIp
def dbSelectPhoneNumber := selectDistinct HoneyRow.calledNumber

def bytesLe : List UInt8 → List UInt8 → Bool
  | [], _ => true
  | _ :: _, [] => false
  | a :: as, b :: bs => a < b || (a == b && bytesLe as bs)

-- NULL comes before every text.
def textLe : Option CStr → Option CStr → Bool
  | none, _ => true
  | some _, none => false
  | some a, some b => bytesLe a.bytes b.bytes

def maxText (texts : List (Option CStr)) : Option CStr := greatest textLe none texts

structure SeenGroup where
  key : Option CStr
  seenLast : Option CStr
  seenTotal : Nat
deriving DecidableEq

structure SeenEntry where
  key : CStr
  seenLast : CStr
  seenCount : CStr
deriving DecidableEq

def readGroup (group : SeenGroup) : Except Abort SeenEntry := do
  let key ← utilDuplicateString group.key
  let seenLast ← utilDuplicateString group.seenLast
  let seenCount ← utilDuplicateString (some (.ofMemory (decimal group.seenTotal)))
  return ⟨key, seenLast, seenCount⟩

/-- The column that a listing is grouped by, and its `WHERE` clause. -/
structure Listing where
  column : HoneyRow → Option CStr
  condition : Option CStr → Bool

namespace Listing
variable (listing : Listing)

def rows (honey : List HoneyRow) : List HoneyRow :=
  honey.filter fun row => listing.condition (listing.column row)

-- `COUNT(DISTINCT column)` leaves NULL out.
def rowCount (honey : List HoneyRow) : Nat :=
  ((listing.rows honey).filterMap listing.column).dedup.length

def group (key : Option CStr) (rows : List HoneyRow) : SeenGroup :=
  ⟨key, maxText (rows.map HoneyRow.eventTimestamp),
    rows.countP fun row => (listing.column row).isSome⟩

-- `SELECT column, max(event_timestamp) as seen_last, count(column) as seen_total FROM honey WHERE ..
-- GROUP BY column order by event_timestamp DESC`: beside `max` the bare column is the maximum.
def groups (honey : List HoneyRow) : List SeenGroup :=
  sortDown textLe SeenGroup.seenLast
    (groupedBy listing.column listing.group (listing.rows honey))

-- The two queries are not one transaction: `counted` is the table that the first one sees, and
-- `listed` the table that the second one sees. The loop steps as often as the first one says.
def select (succeeds : SelectCall → Bool) (counted listed : List HoneyRow) :
    Except Abort (Option (Nat × List SeenEntry)) :=
  if [.openDb, .prepareCount, .stepCount, .finalizeCount, .prepare, .step, .finalize, .close].all
      succeeds then do
    let rowCount := listing.rowCount counted
    let groups := listing.groups listed
    let entries ← (groups.take rowCount).mapM readGroup
    return if groups.length < rowCount then none else some (rowCount, entries)
  else .ok none

end Listing

def sourceIps : Listing := ⟨HoneyRow.sourceIp, fun _ => true⟩

def dbSelectBadActors := sourceIps.select

/-! ## Phone numbers -/

-- `sqlite3Isspace`
def isSqliteSpace (b : UInt8) : Bool := b == 0x20 || (0x09 ≤ b && b ≤ 0x0D)

def maxInt64 : Int := 0x7FFFFFFFFFFFFFFF

-- `sqlite3Atoi64`: white space, a sign and digits; the rest is left out and the value stays in range.
def sqliteAtoi64 (text : List UInt8) : Int :=
  let text := text.dropWhile isSqliteSpace
  let signed := text.head? = some 0x2D ∨ text.head? = some 0x2B
  let digits := (if signed then text.tail else text).takeWhile isDigit
  if text.head? = some 0x2D then max (-(digitsValue digits : Int)) (-maxInt64 - 1)
  else min (digitsValue digits : Int) maxInt64

-- `printf('%d', ..)`
def sqlitePrintfD (n : Int) : List UInt8 :=
  if n < 0 then 0x2D :: decimal n.natAbs else decimal n.natAbs

-- `called_number LIKE '+%' OR printf('%d', called_number) = called_number`, which is not true of NULL.
def isPhoneNumber : Option CStr → Bool
  | none => false
  | some calledNumber =>
      calledNumber.bytes.head? == some 0x2B ||
        sqlitePrintfD (sqliteAtoi64 calledNumber.bytes) == calledNumber.bytes

def calledNumbers : Listing := ⟨HoneyRow.calledNumber, isPhoneNumber⟩

def dbSelectCalledNumbers := calledNumbers.select

end SentryPeer
