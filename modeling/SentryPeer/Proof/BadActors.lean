import SentryPeer.Source.BadActors
import SentryPeer.Source.Conf
import SentryPeer.Proof.Connection
import SentryPeer.Proof.Numbers

/-!
# Every access is inside the array

`Holds` is the state while the array is there. Each function on the array is one rule about it, and the
routes are put together from the rules; the array is emptied in the end, unless it has no element at all.
-/

namespace SentryPeer.Proof
open Lib BadActors

/-- Only elements of an array of this size have been accessed, and if `bad_actors_destroy` has been
called then each of them is destroyed once. -/
structure RowsSafe (rowCount : Nat) (heap : Heap) : Prop where
  accesses : ∀ i ∈ heap.accesses, i < rowCount
  destroyed : 0 < heap.destroyCalls → ∀ i < rowCount, heap.destroyed.count i = 1

structure Holds (cells : List (Option BadActor)) (destroyed : List Nat) (calls : Nat)
    (heap : Heap) : Prop where
  array : heap.array = some cells
  accesses : ∀ i ∈ heap.accesses, i < cells.length
  destroyed : heap.destroyed = destroyed
  destroyCalls : heap.destroyCalls = calls

section Array
variable {cells : List (Option BadActor)} {destroyed : List Nat} {calls i : Nat} {site : Function}
  {E : Heap → Prop} {badActor : BadActor}

theorem Holds.access {heap : Heap} (given : Holds cells destroyed calls heap)
    (inside : i < cells.length) :
    Holds cells destroyed calls { heap with accesses := i :: heap.accesses } :=
  ⟨given.array, List.forall_mem_cons.mpr ⟨inside, given.accesses⟩, given.destroyed,
    given.destroyCalls⟩

theorem Holds.rowsSafe {heap : Heap} (given : Holds cells destroyed 0 heap) :
    RowsSafe cells.length heap := by
  refine ⟨given.accesses, fun called => ?_⟩
  rw [given.destroyCalls] at called
  exact absurd called (Nat.lt_irrefl 0)

/-! ## One rule for each function on the array -/

theorem readCell_triple {cell : Option BadActor} (there : cells[i]? = some cell) :
    Triple (Holds cells destroyed calls) (readCell site i)
      (fun read heap => read = cell ∧ Holds cells destroyed calls heap) E := by
  intro heap given
  have ran : readCell site i heap = .ok cell { heap with accesses := i :: heap.accesses } := by
    simp only [readCell, given.array, there]
  rw [ran]
  exact ⟨rfl, given.access (List.getElem?_eq_some_iff.mp there).1⟩

theorem writeCell_triple (inside : i < cells.length) (cell : Option BadActor) :
    Triple (Holds cells destroyed calls) (writeCell site i cell)
      (fun _ => Holds (cells.set i cell) destroyed calls) E := by
  intro heap given
  have ran : writeCell site i cell heap = .ok ()
      { heap with accesses := i :: heap.accesses, array := some (cells.set i cell) } := by
    simp only [writeCell, given.array, if_pos inside]
  rw [ran]
  refine ⟨rfl, ?_, given.destroyed, given.destroyCalls⟩
  rw [List.length_set]
  exact (given.access inside).accesses

theorem element_triple (there : cells[i]? = some (some badActor)) :
    Triple (Holds cells destroyed calls) (element site i)
      (fun read heap => read = badActor ∧ Holds cells destroyed calls heap) E := by
  refine (readCell_triple there).bind fun read => ?_
  rintro heap ⟨rfl, given⟩
  exact ⟨rfl, given⟩

theorem setElement_triple (there : cells[i]? = some (some badActor))
    (set : BadActor → BadActor) :
    Triple (Holds cells destroyed calls) (setElement site i set)
      (fun _ => Holds (cells.set i (some (set badActor))) destroyed calls) E := by
  refine (element_triple there).bind fun read => ?_
  rintro heap ⟨rfl, given⟩
  exact writeCell_triple (List.getElem?_eq_some_iff.mp there).1 _ heap given

theorem badActorDestroy_triple (there : cells[i]? = some (some badActor)) :
    Triple (Holds cells destroyed calls) (badActorDestroy i)
      (fun _ => Holds (cells.set i none) (i :: destroyed) calls) E := by
  refine (readCell_triple there).bind fun read => ?_
  rintro heap ⟨rfl, given⟩
  refine Triple.bind (writeCell_triple (List.getElem?_eq_some_iff.mp there).1 none)
    (fun _ => Triple.modify fun after holds => ?_) heap given
  exact ⟨holds.array, holds.accesses, by rw [← holds.destroyed], holds.destroyCalls⟩

theorem destroyFrom_triple (rowNum : Nat) (actors : List BadActor) (destroyed : List Nat) :
    Triple (Holds (List.replicate rowNum none ++ actors.map some) destroyed calls)
      (destroyFrom actors.length rowNum)
      (fun _ => Holds (List.replicate (rowNum + actors.length) none)
        ((List.range' rowNum actors.length).reverse ++ destroyed) calls) E := by
  induction actors generalizing rowNum destroyed with
  | nil =>
      refine Triple.pure fun heap given => ?_
      simpa using given
  | cons badActor rest ih =>
      have there : (List.replicate rowNum none ++ (badActor :: rest).map some)[rowNum]? =
          some (some badActor) := by simp
      refine (badActorDestroy_triple there).bind fun _ => ?_
      refine (ih (rowNum + 1) (rowNum :: destroyed)).imp ?_ ?_ fun _ stopped => stopped
      · intro heap given
        simpa [List.set_append, List.replicate_succ', Nat.sub_self] using given
      · intro _ heap given
        simpa [List.range'_succ, Nat.add_assoc, Nat.add_comm 1] using given

theorem destroyAndFree_triple {actors : List BadActor} (nonempty : 0 < actors.length) :
    Triple (Holds (actors.map some) [] 0) (destroyAndFree actors.length)
      (fun _ => RowsSafe actors.length) E := by
  obtain ⟨first, rest, rfl⟩ := List.exists_cons_of_length_pos nonempty
  have there : ((first :: rest).map some)[0]? = some (some first) := rfl
  have destroys : Triple (Holds ((first :: rest).map some) [] 0)
      (badActorsDestroy (first :: rest).length)
      (fun _ => Holds (List.replicate (first :: rest).length none)
        (List.range (first :: rest).length).reverse 1) E := by
    refine Triple.bind (R := fun _ => Holds ((first :: rest).map some) [] 1)
      (Triple.modify fun heap given => ?_) fun _ => (readCell_triple there).bind fun read => ?_
    · exact ⟨given.array, given.accesses, given.destroyed, by rw [given.destroyCalls]⟩
    · rintro heap ⟨rfl, given⟩
      have looped := destroyFrom_triple (E := E) 0 (first :: rest) [] heap given
      rw [List.append_nil, Nat.zero_add, ← List.range_eq_range'] at looped
      exact looped
  refine destroys.bind fun _ => Triple.modify fun heap given => ⟨?_, fun _ i inside => ?_⟩
  · have accesses := given.accesses
    rwa [List.length_replicate] at accesses
  · show heap.destroyed.count i = 1
    rw [given.destroyed, List.count_reverse]
    exact List.count_eq_one_of_mem List.nodup_range (List.mem_range.mpr inside)

end Array

/-! ## Filling the array -/

/-- The constructor of the selection puts the text into the column that the route reads. -/
structure Coherent (r : ListRoute) : Prop where
  constructs : ∀ fresh key nodeId, ∃ badActor, r.construct fresh key (some nodeId) = .ok badActor ∧
    ∀ seenLast seenCount, r.column { badActor with seenLast, seenCount } = some key

theorem bySourceIp_coherent : Coherent bySourceIp := ⟨fun _ _ _ => ⟨_, rfl, fun _ _ => rfl⟩⟩

theorem byCalledNumber_coherent : Coherent byCalledNumber := ⟨fun _ _ _ => ⟨_, rfl, fun _ _ => rfl⟩⟩

def seenEntry (r : ListRoute) (badActor : BadActor) : Option SeenEntry := do
  return ⟨← r.column badActor, ← badActor.seenLast, ← badActor.seenCount⟩

section Rows
variable {r : ListRoute} (request : Request)

/-- The array is there and nothing has been destroyed. -/
def Partly (rowCount : Nat) (heap : Heap) : Prop :=
  ∃ cells : List (Option BadActor), cells.length = rowCount ∧ Holds cells [] 0 heap

theorem Partly.rowsSafe {rowCount : Nat} {heap : Heap} (given : Partly rowCount heap) :
    RowsSafe rowCount heap := by
  obtain ⟨cells, rfl, holds⟩ := given
  exact holds.rowsSafe

def cellsAt (before : List BadActor) (left : Nat) : List (Option BadActor) :=
  before.map some ++ List.replicate left none

theorem cellsAt_length (before : List BadActor) (left : Nat) :
    (cellsAt before left).length = before.length + left := by
  simp [cellsAt]

theorem cellsAt_set (before : List BadActor) (left : Nat) (badActor : BadActor) :
    (cellsAt before (left + 1)).set before.length (some badActor) =
      cellsAt (before ++ [badActor]) left := by
  simp [cellsAt, List.replicate_succ]

theorem cellsAt_set_last (before : List BadActor) (left : Nat) (first second : BadActor) :
    (cellsAt (before ++ [first]) left).set before.length (some second) =
      cellsAt (before ++ [second]) left := by
  simp [cellsAt]

theorem cellsAt_last (before : List BadActor) (left : Nat) (badActor : BadActor) :
    (cellsAt (before ++ [badActor]) left)[before.length]? = some (some badActor) := by
  simp [cellsAt]

/-- What the loop leaves, against the loop that has no array. -/
inductive FillResult (r : ListRoute) (steps : Nat → Bool) (before : List BadActor) (left : Nat)
    (groups : List SeenGroup) (heap : Heap) : Bool → Prop
  | short (read : Connection.readRows steps left before.length groups = .ok none)
      (partly : Partly (before.length + left) heap) : FillResult r steps before left groups heap false
  | filled (after : List BadActor) (entries : List SeenEntry) (length : after.length = left)
      (read : Connection.readRows steps left before.length groups = .ok (some entries))
      (seen : after.map (seenEntry r) = entries.map some)
      (holds : Holds ((before ++ after).map some) [] 0 heap) :
      FillResult r steps before left groups heap true

theorem FillResult.cons {steps : Nat → Bool} {before : List BadActor} {left : Nat}
    {group : SeenGroup} {rest : List SeenGroup} {heap : Heap} {result : Bool} {badActor : BadActor}
    {entry : SeenEntry} (runs : steps before.length = true) (readable : readGroup group = .ok entry)
    (seen : seenEntry r badActor = some entry)
    (given : FillResult r steps (before ++ [badActor]) left rest heap result) :
    FillResult r steps before (left + 1) (group :: rest) heap result := by
  have next : (before ++ [badActor]).length = before.length + 1 := List.length_append
  have unfolded : Connection.readRows steps (left + 1) before.length (group :: rest) = do
      return (← Connection.readRows steps left (before ++ [badActor]).length rest).map
        (entry :: ·) := by
    rw [Connection.readRows, if_pos runs, readable, next]
    rfl
  cases given with
  | short read partly =>
      refine .short ?_ ?_
      · rw [unfolded, read]
        rfl
      · rw [next, Nat.add_assoc, Nat.add_comm 1] at partly
        exact partly
  | filled after entries length read others holds =>
      refine .filled (badActor :: after) (entry :: entries) ?_ ?_ ?_ ?_
      · rw [List.length_cons, length]
      · rw [unfolded, read]
        rfl
      · rw [List.map_cons, List.map_cons, seen, others]
      · rw [List.append_assoc] at holds
        exact holds

theorem fillRows_triple (coherent : Coherent r) (before : List BadActor) (left : Nat)
    (groups : List SeenGroup) :
    Triple (Holds (cellsAt before left) [] 0) (r.fillRows request left before.length groups)
      (fun result heap => FillResult r request.steps before left groups heap result)
      (Partly (before.length + left)) := by
  induction left generalizing before groups with
  | zero =>
      refine Triple.pure fun heap given => ?_
      refine .filled [] [] rfl rfl rfl ?_
      simpa [cellsAt] using given
  | succ left ih =>
      have partly (heap : Heap) (given : Holds (cellsAt before (left + 1)) [] 0 heap) :
          Partly (before.length + (left + 1)) heap := ⟨_, cellsAt_length _ _, given⟩
      cases groups with
      | nil => exact Triple.pure fun heap given => .short rfl (partly heap given)
      | cons group rest =>
          unfold ListRoute.fillRows
          cases runs : request.steps before.length with
          | false =>
              refine Triple.pure fun heap given => .short ?_ (partly heap given)
              simp [Connection.readRows, runs]
          | true =>
              obtain ⟨key, seenLast, seenTotal⟩ := group
              cases key with
              | none => exact fun heap given => partly heap given
              | some key =>
                  obtain ⟨badActor, built, inColumn⟩ :=
                    coherent.constructs (request.fresh before.length) key request.config.nodeId
                  have room : before.length < (cellsAt before (left + 1)).length := by
                    rw [cellsAt_length]
                    omega
                  simp only [↓reduceIte, utilDuplicateString_some, built, fromExcept_ok, pure_bind]
                  refine (writeCell_triple room _).bind fun _ => ?_
                  rw [cellsAt_set]
                  cases seenLast with
                  | none =>
                      intro heap given
                      refine ⟨_, ?_, given⟩
                      rw [cellsAt_length, List.length_append, List.length_singleton]
                      omega
                  | some seenLast =>
                      simp only [utilDuplicateString_some, fromExcept_ok, pure_bind]
                      refine (setElement_triple (cellsAt_last _ _ _) _).bind fun _ => ?_
                      rw [cellsAt_set_last]
                      refine (setElement_triple (cellsAt_last _ _ _) _).bind fun _ => ?_
                      rw [cellsAt_set_last]
                      have later := ih (before ++ [{ badActor with
                        seenLast := some seenLast,
                        seenCount := some (.ofMemory (decimal seenTotal)) }]) rest
                      rw [List.length_append, List.length_singleton] at later
                      refine later.imp (fun _ given => given) ?_ ?_
                      · intro result heap given
                        have readable : readGroup ⟨some key, some seenLast, seenTotal⟩ =
                          .ok ⟨key, seenLast, .ofMemory (decimal seenTotal)⟩ := rfl
                        refine given.cons runs readable ?_
                        simp [seenEntry, inColumn]
                      · intro heap given
                        rw [Nat.add_assoc, Nat.add_comm 1] at given
                        exact given

/-- The selection on lists, as the calls that fail leave it. -/
def selected (r : ListRoute) (request : Request) : Except Abort (Option (Nat × List SeenEntry)) :=
  if !callsBeforeArray.all request.succeeds then .ok none
  else do
    let rowCount := r.listing.rowCount request.counted
    match ← Connection.readRows request.steps rowCount 0 (r.listing.groups request.listed) with
    | none => return none
    | some entries =>
        return if request.succeeds .finalize && request.succeeds .close then
          some (rowCount, entries)
        else none

/-- What the selection leaves for the route. -/
inductive SelectResult (r : ListRoute) (request : Request) (heap : Heap) : Option Nat → Prop
  | failed (chosen : selected r request = .ok none)
      (safe : RowsSafe (r.listing.rowCount request.counted) heap) : SelectResult r request heap none
  | listed (actors : List BadActor) (entries : List SeenEntry)
      (length : actors.length = r.listing.rowCount request.counted) (positive : 0 < actors.length)
      (chosen : selected r request = .ok (some (actors.length, entries)))
      (seen : actors.map (seenEntry r) = entries.map some)
      (holds : Holds (actors.map some) [] 0 heap) : SelectResult r request heap (some actors.length)

/-- The array that has to be emptied has an element, or is not there. -/
def ArrayNonempty (r : ListRoute) (request : Request) : Prop :=
  0 < r.listing.rowCount request.counted ∨ request.callocs 0 = false ∨
    callsBeforeArray.all request.succeeds = false

theorem noArray_rowsSafe (rowCount : Nat) : RowsSafe rowCount noArray :=
  ⟨List.forall_mem_nil _, fun called => absurd called (Nat.lt_irrefl 0)⟩

theorem selectEnd_triple {actors : List BadActor} {entries : List SeenEntry}
    (length : actors.length = r.listing.rowCount request.counted) (positive : 0 < actors.length)
    (seen : actors.map (seenEntry r) = entries.map some)
    (chosen : selected r request = .ok (if request.succeeds .finalize && request.succeeds .close then
      some (actors.length, entries) else none)) {E : Heap → Prop} :
    Triple (Holds (actors.map some) [] 0)
      (if (!(request.succeeds .finalize && request.succeeds .close)) = true then do
        destroyAndFree actors.length
        return none
      else return some actors.length)
      (fun result heap => SelectResult r request heap result) E := by
  cases released : request.succeeds .finalize && request.succeeds .close with
  | true =>
      rw [released] at chosen
      exact Triple.pure fun heap holds => .listed actors entries length positive chosen seen holds
  | false =>
      rw [released] at chosen
      refine (destroyAndFree_triple positive).bind fun _ => Triple.pure fun heap safe => ?_
      exact .failed chosen (length ▸ safe)

theorem select_triple (coherent : Coherent r) (nonempty : ArrayNonempty r request) :
    Triple (fun heap => heap = noArray) (r.select request)
      (fun result heap => SelectResult r request heap result)
      (RowsSafe (r.listing.rowCount request.counted)) := by
  unfold ListRoute.select
  cases before : callsBeforeArray.all request.succeeds with
  | false =>
      rintro heap rfl
      refine .failed ?_ (noArray_rowsSafe _)
      simp [selected, before]
  | true =>
      cases calloc : request.callocs (r.listing.rowCount request.counted) with
      | false =>
          simp only [calloc]
          rintro heap rfl
          exact noArray_rowsSafe _
      | true =>
          have positive : 0 < r.listing.rowCount request.counted := by
            refine Nat.pos_of_ne_zero fun empty => ?_
            rw [empty] at calloc
            rcases nonempty with positive | refused | failed
            · omega
            · cases refused.symm.trans calloc
            · cases failed.symm.trans before
          have fill := fillRows_triple (r := r) request coherent []
            (r.listing.rowCount request.counted) (r.listing.groups request.listed)
          rw [List.length_nil, Nat.zero_add] at fill
          simp only [calloc]
          refine Triple.bind (Triple.modify fun heap given => ?_) fun _ =>
            (fill.imp (fun _ given => given) (fun _ _ given => given)
              (fun _ partly => partly.rowsSafe)).bind fun filled heap given => ?_
          · subst given
            exact ⟨rfl, List.forall_mem_nil _, rfl, rfl⟩
          · cases given with
            | short read partly =>
                rw [List.length_nil, Nat.zero_add] at partly
                refine .failed ?_ ⟨partly.rowsSafe.accesses, partly.rowsSafe.destroyed⟩
                rw [List.length_nil] at read
                simp only [selected, before, read]
                rfl
            | filled actors entries length read seen holds =>
                refine length ▸ selectEnd_triple request length (length ▸ positive) seen ?_ heap holds
                rw [List.length_nil] at read
                simp only [selected, before, read, length]
                rfl

/-! ## The routes -/

theorem packRow_triple {actors : List BadActor} {rowNum : Nat} {badActor : BadActor}
    (there : actors[rowNum]? = some badActor) {E : Heap → Prop} :
    Triple (Holds (actors.map some) [] 0) (r.packRow request rowNum)
      (fun row heap => row = (seenEntry r badActor).bind (seenEntryJson r.key) ∧
        Holds (actors.map some) [] 0 heap) E := by
  have inArray : (actors.map some)[rowNum]? = some (some badActor) := by
    rw [List.getElem?_map, there, Option.map_some]
  have read {β : Type} {f : BadActor → EStateM Abort Heap β} {Q : β → Heap → Prop}
      (rest : Triple (Holds (actors.map some) [] 0) (f badActor) Q E) :
      Triple (Holds (actors.map some) [] 0) (element r.route rowNum >>= f) Q E := by
    refine (element_triple inArray).bind fun found => ?_
    rintro heap ⟨rfl, given⟩
    exact rest heap given
  have members : Triple (Holds (actors.map some) [] 0)
      (do
        let key := r.column (← element r.route rowNum)
        let seenLast := (← element r.route rowNum).seenLast
        let seenCount := (← element r.route rowNum).seenCount
        return do seenEntryJson r.key ⟨← key, ← seenLast, ← seenCount⟩)
      (fun row heap => row = (seenEntry r badActor).bind (seenEntryJson r.key) ∧
        Holds (actors.map some) [] 0 heap) E := by
    refine read (read (read (Triple.pure fun heap given => ⟨?_, given⟩)))
    cases hkey : r.column badActor <;> cases hlast : badActor.seenLast <;>
      cases hcount : badActor.seenCount <;> simp [seenEntry, hkey, hlast, hcount]
  unfold ListRoute.packRow
  cases request.config.verboseMode || request.config.debugMode with
  | false => exact members
  | true => exact read members

theorem packRows_triple (before rest : List BadActor) {E : Heap → Prop} :
    Triple (Holds ((before ++ rest).map some) [] 0)
      (r.packRows request rest.length before.length)
      (fun rows heap =>
        rows = rest.mapM (fun badActor => (seenEntry r badActor).bind (seenEntryJson r.key)) ∧
        Holds ((before ++ rest).map some) [] 0 heap) E := by
  induction rest generalizing before with
  | nil => exact Triple.pure fun heap given => ⟨rfl, given⟩
  | cons badActor rest ih =>
      have there : (before ++ badActor :: rest)[before.length]? = some badActor := by simp
      have later := ih (before ++ [badActor])
      rw [List.append_assoc, List.length_append, List.length_singleton] at later
      refine (packRow_triple request there).bind fun row => ?_
      rintro heap ⟨rfl, given⟩
      rw [List.mapM_cons]
      cases packed : (seenEntry r badActor).bind (seenEntryJson r.key) with
      | none => exact ⟨rfl, given⟩
      | some row =>
          refine later.bind (fun rows => ?_) heap given
          rintro after ⟨rfl, holds⟩
          refine ⟨?_, holds⟩
          cases rest.mapM fun badActor => (seenEntry r badActor).bind (seenEntryJson r.key) <;> rfl

theorem mapM_seenEntry {actors : List BadActor} {entries : List SeenEntry}
    (seen : actors.map (seenEntry r) = entries.map some) :
    actors.mapM (fun badActor => (seenEntry r badActor).bind (seenEntryJson r.key)) =
      entries.mapM (seenEntryJson r.key) := by
  induction actors generalizing entries with
  | nil =>
      obtain rfl : entries = [] := by simpa using seen.symm
      rfl
  | cons badActor rest ih =>
      cases entries with
      | nil => cases seen
      | cons entry entries =>
          obtain ⟨first, others⟩ := List.cons.inj seen
          rw [List.mapM_cons, List.mapM_cons, ih others, first]
          rfl

theorem respond_triple (coherent : Coherent r) (nonempty : ArrayNonempty r request) :
    Triple (fun heap => heap = noArray) (r.respond request)
      (fun response heap => RowsSafe (r.listing.rowCount request.counted) heap ∧
        ∃ chosen, selected r request = .ok chosen ∧
          response = listingResponse r.key r.total r.list r.notFound chosen)
      (RowsSafe (r.listing.rowCount request.counted)) := by
  refine (select_triple request coherent nonempty).bind fun result heap given => ?_
  cases given with
  | failed chosen safe => exact ⟨safe, none, chosen, rfl⟩
  | listed actors entries length positive chosen seen holds =>
      have packs := packRows_triple (r := r) request [] actors
        (E := RowsSafe (r.listing.rowCount request.counted))
      refine Triple.bind Triple.get (fun state => ?_) heap holds
      rintro state ⟨rfl, holds⟩
      have guard : (state.array.isSome && decide (0 < actors.length)) = true := by
        rw [holds.array, Option.isSome_some, Bool.true_and, decide_eq_true positive]
      rw [if_pos guard]
      refine packs.bind (fun rows => ?_) state holds
      rintro after ⟨rfl, holds⟩
      rw [mapM_seenEntry seen]
      cases packed : entries.mapM (seenEntryJson r.key) with
      | none =>
          refine (destroyAndFree_triple positive).bind
            (fun _ => Triple.pure fun heap safe => ⟨length ▸ safe, _, chosen, ?_⟩) after holds
          simp only [listingResponse, if_neg positive.ne', packed]
      | some jsonArr =>
          refine (destroyAndFree_triple positive).bind
            (fun _ => Triple.pure fun heap safe => ⟨length ▸ safe, _, chosen, ?_⟩) after holds
          simp only [listingResponse, if_neg positive.ne', packed]

/-- The selection is the one of the model that has the connection and no array. -/
theorem selected_of_connection {statement : Connection.Statement} {honey : List HoneyRow}
    {result : Option (Nat × List SeenEntry)} {db : Connection.Db}
    (ran : Connection.select statement r.listing request.succeeds request.steps request.counted
      request.listed (beforeCall honey) = .ok result db) : selected r request = .ok result := by
  have same : callsBeforeArray.all request.succeeds = callsBeforeRows.all request.succeeds := rfl
  unfold selected
  rw [same]
  obtain ⟨-, ⟨stops, rfl⟩ | ⟨goes, rows, read, rfl⟩⟩ := select_returned ran
  · rw [stops]
    rfl
  · simp only [goes, read]
    cases rows <;> rfl

/-- The array is not seen from outside: the route answers as it does without one. -/
theorem respond_listingResponse (coherent : Coherent r) (nonempty : ArrayNonempty r request)
    {response : Response} {heap : Heap} (ran : r.respond request noArray = .ok response heap)
    {statement : Connection.Statement} {honey : List HoneyRow}
    {chosen : Option (Nat × List SeenEntry)} {db : Connection.Db}
    (listed : Connection.select statement r.listing request.succeeds request.steps request.counted
      request.listed (beforeCall honey) = .ok chosen db) :
    response = listingResponse r.key r.total r.list r.notFound chosen := by
  have ended := respond_triple request coherent nonempty noArray rfl
  rw [ran] at ended
  obtain ⟨-, listing, isListing, rfl⟩ := ended
  rw [selected_of_connection request listed] at isListing
  cases isListing
  rfl

/-! ## An array without elements -/

theorem respond_empty (empty : r.listing.rowCount request.counted = 0)
    (calloc : request.callocs 0 = true) (before : callsBeforeArray.all request.succeeds = true) :
    0 ∈ (finalState (r.respond request noArray)).accesses := by
  have filled : r.select request noArray = .ok (some 0) ⟨some [], [], [], 0⟩ ∨
      r.select request noArray = .error (.outOfBounds .badActorsDestroy) ⟨some [], [0], [], 1⟩ := by
    unfold ListRoute.select
    simp only [before, empty, calloc]
    cases request.succeeds .finalize && request.succeeds .close with
    | true => exact .inl rfl
    | false => exact .inr rfl
  unfold ListRoute.respond
  rw [run_bind]
  rcases filled with ran | ran
  · rw [ran]
    exact List.mem_singleton.mpr rfl
  · rw [ran]
    exact List.mem_singleton.mpr rfl

theorem rowsSafe_iff (coherent : Coherent r) :
    RowsSafe (r.listing.rowCount request.counted) (finalState (r.respond request noArray)) ↔
      ¬ (r.listing.rowCount request.counted = 0 ∧ request.callocs 0 = true ∧
        callsBeforeArray.all request.succeeds = true) := by
  constructor
  · rintro safe ⟨empty, calloc, before⟩
    have inside := safe.accesses 0 (respond_empty request empty calloc before)
    rw [empty] at inside
    exact absurd inside (Nat.lt_irrefl 0)
  · intro given
    have nonempty : ArrayNonempty r request := by
      rcases Nat.eq_zero_or_pos (r.listing.rowCount request.counted) with empty | positive
      · right
        by_contra neither
        rw [not_or, Bool.not_eq_false, Bool.not_eq_false] at neither
        exact given ⟨empty, neither⟩
      · exact .inl positive
    exact (respond_triple request coherent nonempty).finalState rfl (fun _ _ ended => ended.1)
      fun _ safe => safe

end Rows

theorem rows_in_bounds_iff (request : Request) :
    (RowsSafe (sourceIps.rowCount request.counted)
        (finalState (BadActors.ipAddressesRoute request noArray)) ↔
      ¬ (sourceIps.rowCount request.counted = 0 ∧ request.callocs 0 = true ∧
        callsBeforeArray.all request.succeeds = true)) ∧
    (RowsSafe (calledNumbers.rowCount request.counted)
        (finalState (BadActors.calledNumbersRoute request noArray)) ↔
      ¬ (calledNumbers.rowCount request.counted = 0 ∧ request.callocs 0 = true ∧
        callsBeforeArray.all request.succeeds = true)) :=
  ⟨rowsSafe_iff request bySourceIp_coherent, rowsSafe_iff request byCalledNumber_coherent⟩

/-- The numbers are asked for while the table holds one probe, and that without a number. -/
def earlyRequest : Request where
  config := sentrypeerConfigNew ⟨false, false⟩ (.lit "e1d4")
  succeeds _ := true
  steps _ := true
  callocs _ := true
  fresh _ := ⟨.lit "2026-01-01 00:00:00.000000", .lit "e1d4"⟩
  counted := [calledRow badActorNotFound]
  listed := [calledRow badActorNotFound]

theorem rows_none_out_of_bounds :
    ¬ RowsSafe (calledNumbers.rowCount earlyRequest.counted)
      (finalState (BadActors.calledNumbersRoute earlyRequest noArray)) := by
  intro safe
  have none : calledNumbers.rowCount earlyRequest.counted = 0 := by decide
  have accessed := safe.accesses 0 (respond_empty (r := byCalledNumber) earlyRequest none rfl rfl)
  rw [none] at accessed
  exact absurd accessed (Nat.lt_irrefl 0)

end SentryPeer.Proof
