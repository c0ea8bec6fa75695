import SentryPeer.Source.Connection
import SentryPeer.Source.Http

/-!
# The arrays of bad actors

`db_select_bad_actors`, `db_select_called_numbers` and the routes over them once more, with the array
that `calloc` gives and `bad_actors_destroy` of `bad_actor.c` empties. The size of the array is not part
of it, so every access names its index.
-/

namespace SentryPeer.BadActors
open Lib

/-- The array, if there is one, and what has been done with it. -/
structure Heap where
  array : Option (List (Option BadActor))
  accesses : List Nat
  destroyed : List Nat
  destroyCalls : Nat
deriving DecidableEq

def noArray : Heap := ⟨none, [], [], 0⟩

/-! ## Elements -/

def readCell (site : Function) (i : Nat) : EStateM Abort Heap (Option BadActor) := fun heap =>
  let accessed := { heap with accesses := i :: heap.accesses }
  match heap.array with
  | none => .error (.useAfterFree site) accessed
  | some cells =>
      match cells[i]? with
      | none => .error (.outOfBounds site) accessed
      | some cell => .ok cell accessed

def writeCell (site : Function) (i : Nat) (cell : Option BadActor) : EStateM Abort Heap Unit :=
  fun heap =>
    let accessed := { heap with accesses := i :: heap.accesses }
    match heap.array with
    | none => .error (.useAfterFree site) accessed
    | some cells =>
        if i < cells.length then .ok () { accessed with array := some (cells.set i cell) }
        else .error (.outOfBounds site) accessed

-- `array[i]->..`
def element (site : Function) (i : Nat) : EStateM Abort Heap BadActor := do
  match ← readCell site i with
  | none => throw (.nullPointer site)
  | some badActor => return badActor

def setElement (site : Function) (i : Nat) (set : BadActor → BadActor) :
    EStateM Abort Heap Unit := do
  let badActor ← element site i
  writeCell site i (some (set badActor))

def freeArray : EStateM Abort Heap Unit := modify fun heap => { heap with array := none }

/-! ## `bad_actor.c` -/

def badActorDestroy (rowNum : Nat) : EStateM Abort Heap Unit := do
  match ← readCell .badActorsDestroy rowNum with
  | none => return
  | some _ =>
      writeCell .badActorsDestroy rowNum none
      modify fun heap => { heap with destroyed := rowNum :: heap.destroyed }

def destroyFrom : (left rowNum : Nat) → EStateM Abort Heap Unit
  | 0, _ => return
  | left + 1, rowNum => do
      badActorDestroy rowNum
      destroyFrom left (rowNum + 1)

-- `if (*bad_actors)` is before the loop, and the size is not looked at there.
def badActorsDestroy (rowCount : Nat) : EStateM Abort Heap Unit := do
  modify fun heap => { heap with destroyCalls := heap.destroyCalls + 1 }
  match ← readCell .badActorsDestroy 0 with
  | none => return
  | some _ => destroyFrom rowCount 0

def destroyAndFree (rowCount : Nat) : EStateM Abort Heap Unit := do
  badActorsDestroy rowCount
  freeArray

/-! ## `database.c` and the routes -/

/-- What a request meets: how the calls of SQLite and of `calloc` end, what the constructor is given
and the tables that the two queries see. -/
structure Request where
  config : Config
  succeeds : SelectCall → Bool
  steps : Nat → Bool
  callocs : Nat → Bool
  fresh : Nat → Fresh
  counted : List HoneyRow
  listed : List HoneyRow

structure ListRoute where
  listing : Listing
  construct : Fresh → CStr → Option CStr → Except Abort BadActor
  column : BadActor → Option CStr
  selection : Function
  route : Function
  key : String
  total : String
  list : String
  notFound : CStr

def callsBeforeArray : List SelectCall :=
  [.openDb, .prepareCount, .stepCount, .finalizeCount, .prepare]

namespace ListRoute
variable (r : ListRoute) (request : Request)

-- The result is whether every `sqlite3_step` had a row.
def fillRows : (left rowNum : Nat) → List SeenGroup → EStateM Abort Heap Bool
  | 0, _, _ => return true
  | _ + 1, _, [] => return false
  | left + 1, rowNum, group :: rest => do
      if request.steps rowNum then
        let key ← fromExcept (utilDuplicateString group.key)
        let badActor ← fromExcept
          (r.construct (request.fresh rowNum) key (some request.config.nodeId))
        writeCell r.selection rowNum (some badActor)
        let seenLast ← fromExcept (utilDuplicateString group.seenLast)
        setElement r.selection rowNum fun badActor => { badActor with seenLast := some seenLast }
        let seenCount ← fromExcept
          (utilDuplicateString (some (.ofMemory (decimal group.seenTotal))))
        setElement r.selection rowNum fun badActor => { badActor with seenCount := some seenCount }
        fillRows left (rowNum + 1) rest
      else return false

-- A failed step frees the array and not what has been put there.
def select : EStateM Abort Heap (Option Nat) := do
  if !callsBeforeArray.all request.succeeds then return none
  let rowCount := r.listing.rowCount request.counted
  if !request.callocs rowCount then throw (.assertion r.selection)
  modify fun heap => { heap with array := some (List.replicate rowCount none) }
  if !(← r.fillRows request rowCount 0 (r.listing.groups request.listed)) then
    freeArray
    return none
  if !(request.succeeds .finalize && request.succeeds .close) then
    destroyAndFree rowCount
    return none
  return some rowCount

-- The element is read for the trace and for each member.
def packRow (rowNum : Nat) : EStateM Abort Heap (Option Json) := do
  if request.config.verboseMode || request.config.debugMode then
    let _ ← element r.route rowNum
  let key := r.column (← element r.route rowNum)
  let seenLast := (← element r.route rowNum).seenLast
  let seenCount := (← element r.route rowNum).seenCount
  return do seenEntryJson r.key ⟨← key, ← seenLast, ← seenCount⟩

def packRows : (left rowNum : Nat) → EStateM Abort Heap (Option (List Json))
  | 0, _ => return some []
  | left + 1, rowNum => do
      match ← r.packRow request rowNum with
      | none => return none
      | some row => return (← packRows left (rowNum + 1)).map (row :: ·)

def respond : EStateM Abort Heap Response := do
  match ← r.select request with
  | none => return ⟨404, contentTypeJson, .text r.notFound⟩
  | some rowCount =>
      if (← get).array.isSome && 0 < rowCount then
        match ← r.packRows request rowCount 0 with
        | none =>
            destroyAndFree rowCount
            return ⟨404, contentTypeJson, .text r.notFound⟩
        | some jsonArr =>
            destroyAndFree rowCount
            return ⟨200, contentTypeJson, .json (.object
              [(r.total, .number (intText rowCount)), (r.list, .array jsonArr)])⟩
      else
        destroyAndFree rowCount
        return ⟨404, contentTypeJson, .text r.notFound⟩

end ListRoute

def bySourceIp : ListRoute where
  listing := sourceIps
  construct fresh sourceIp := badActorNew fresh none (some sourceIp) none none none none none none
  column := BadActor.sourceIp
  selection := .dbSelectBadActors
  route := .ipAddressesRoute
  key := "ip_address"
  total := "ip_addresses_total"
  list := "ip_addresses"
  notFound := notFoundBadActorsJson

def byCalledNumber : ListRoute where
  listing := calledNumbers
  construct fresh calledNumber :=
    badActorNew fresh none none none (some calledNumber) none none none none
  column := BadActor.calledNumber
  selection := .dbSelectCalledNumbers
  route := .calledNumbersRoute
  key := "called_number"
  total := "called_numbers_total"
  list := "called_numbers"
  notFound := notFoundPhoneNumbersJson

def dbSelectBadActors := bySourceIp.select
def dbSelectCalledNumbers := byCalledNumber.select
def ipAddressesRoute := bySourceIp.respond
def calledNumbersRoute := byCalledNumber.respond

end SentryPeer.BadActors
