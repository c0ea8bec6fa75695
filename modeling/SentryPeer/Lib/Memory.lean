import SentryPeer.Lib.Text

/-!
# Buffers

A buffer of fixed size with the writes made to it, and the functions of `string.h` that fill one. A
write outside the buffer and a scan that finds no zero byte are faults.
-/

namespace SentryPeer.Lib

inductive Fault
  | write (index : Nat)
  | unterminated
deriving DecidableEq

structure Memory where
  bytes : List UInt8
  writes : List (Nat × UInt8)
deriving DecidableEq

namespace Memory

def calloc (size : Nat) : Memory := ⟨List.replicate size 0, []⟩

def store (m : Memory) (i : Nat) (b : UInt8) : Except Fault Memory :=
  if i < m.bytes.length then .ok ⟨m.bytes.set i b, m.writes ++ [(i, b)]⟩ else .error (.write i)

def storeAll (m : Memory) (i : Nat) : List UInt8 → Except Fault Memory
  | [] => .ok m
  | b :: bs => do (← m.store i b).storeAll (i + 1) bs

def scan (m : Memory) : Except Fault Nat :=
  match strlen m.bytes with
  | none => .error .unterminated
  | some n => .ok n

/-- Exactly `n` bytes are written: what is left after the source is filled with zeros. -/
def strncpy (m : Memory) (src : CStr) (n : Nat) : Except Fault Memory :=
  m.storeAll 0 (src.bytes.take n ++ List.replicate (n - src.length) 0)

/-- At most `n` bytes of the source are appended, and a zero after them. -/
def strncat (m : Memory) (src : CStr) (n : Nat) : Except Fault Memory := do
  m.storeAll (← m.scan) (src.bytes.take n ++ [0])

/-! ## Buffers that end with a zero -/

/-- The last byte is at `limit`: it is zero, and nothing else has been written there. -/
structure Terminated (limit : Nat) (m : Memory) : Prop where
  length : m.bytes.length = limit + 1
  last : m.bytes[limit]? = some 0
  writes : ∀ write ∈ m.writes, write.1 ≤ limit ∧ (write.1 = limit → write.2 = 0)

section Terminated
variable {limit : Nat} {m : Memory}

theorem terminated_calloc (limit : Nat) : Terminated limit (calloc (limit + 1)) where
  length := List.length_replicate
  last := by simp [calloc]
  writes := List.forall_mem_nil _

theorem Terminated.zero_mem (given : Terminated limit m) : 0 ∈ m.bytes :=
  List.mem_of_getElem? given.last

theorem Terminated.store (given : Terminated limit m) {i : Nat} {b : UInt8} (inside : i ≤ limit)
    (zero : i = limit → b = 0) :
    ∃ m', m.store i b = .ok m' ∧ Terminated limit m' ∧ m'.bytes = m.bytes.set i b := by
  have room : i < m.bytes.length := by
    rw [given.length]
    omega
  refine ⟨_, if_pos room, ⟨?_, ?_, ?_⟩, rfl⟩
  · rw [List.length_set, given.length]
  · by_cases isLast : i = limit
    · rw [← isLast, List.getElem?_set_self room, zero isLast]
    · rw [List.getElem?_set_ne isLast, given.last]
  · intro write member
    rcases List.mem_append.mp member with old | new
    · exact given.writes write old
    · rw [List.mem_singleton.mp new]
      exact ⟨inside, zero⟩

theorem Terminated.storeAll (given : Terminated limit m) {i : Nat} {bs : List UInt8}
    (each : ∀ k b, bs[k]? = some b → i + k ≤ limit ∧ (i + k = limit → b = 0)) :
    ∃ m', m.storeAll i bs = .ok m' ∧ Terminated limit m' ∧
      m'.bytes = m.bytes.take i ++ (bs ++ m.bytes.drop (i + bs.length)) := by
  induction bs generalizing m i with
  | nil => exact ⟨m, rfl, given, (List.take_append_drop i m.bytes).symm⟩
  | cons b bs ih =>
      obtain ⟨inside, zero⟩ : i ≤ limit ∧ (i = limit → b = 0) := each 0 b rfl
      obtain ⟨stored, ran, terminated, isStored⟩ := given.store inside zero
      have later (k : Nat) (c : UInt8) (there : bs[k]? = some c) :
          i + 1 + k ≤ limit ∧ (i + 1 + k = limit → c = 0) := by
        have shifted := each (k + 1) c there
        rwa [← Nat.add_assoc, Nat.add_right_comm] at shifted
      obtain ⟨m', runs, final, isBytes⟩ := ih terminated later
      refine ⟨m', ?_, final, ?_⟩
      · rw [Memory.storeAll, ran]
        exact runs
      · have room : i < m.bytes.length := by
          rw [given.length]
          omega
        have length : (m.bytes.take i).length = i := List.length_take_of_le room.le
        have first : (m.bytes.set i b).take (i + 1) = m.bytes.take i ++ [b] := by
          rw [List.set_eq_take_append_cons_drop, if_pos room]
          rw [List.take_append, List.take_of_length_le (by omega), length, Nat.add_sub_cancel_left]
          rfl
        rw [isBytes, isStored, first, List.drop_set_of_lt (by omega), List.length_cons,
          List.append_assoc, List.singleton_append, Nat.add_right_comm, Nat.add_assoc]
        rfl

theorem strlen_eq_length {bytes : List UInt8} (zero : 0 ∈ bytes) :
    strlen bytes = some (CStr.ofMemory bytes).length := by
  induction bytes with
  | nil => cases zero
  | cons b bs ih =>
      by_cases isZero : b = 0
      · subst isZero
        rfl
      · have later : 0 ∈ bs := (List.mem_cons.mp zero).resolve_left fun same => isZero same.symm
        have nonzero : (b != 0) = true := bne_iff_ne.mpr isZero
        have skipped : (b == 0) = false := beq_eq_false_iff_ne.mpr isZero
        have rest := ih later
        rw [strlen] at rest
        rw [strlen, List.findIdx?_cons, skipped, rest]
        simp [CStr.length, CStr.ofMemory, nonzero]

theorem take_length_ofMemory (bytes : List UInt8) :
    bytes.take (CStr.ofMemory bytes).length = (CStr.ofMemory bytes).bytes :=
  (List.prefix_iff_eq_take.mp (List.takeWhile_prefix _)).symm

theorem ofMemory_append (s : CStr) (rest : List UInt8) : CStr.ofMemory (s.bytes ++ 0 :: rest) = s := by
  apply CStr.ext_bytes
  have nonzero (b : UInt8) (member : b ∈ s.bytes) : (b != 0) = true := by
    rw [bne_iff_ne]
    rintro rfl
    exact s.noNul member
  show (s.bytes ++ 0 :: rest).takeWhile (· != 0) = s.bytes
  rw [List.takeWhile_append_of_pos nonzero]
  exact List.append_nil _

theorem Terminated.length_le (given : Terminated limit m) :
    (CStr.ofMemory m.bytes).length ≤ limit := by
  by_contra beyond
  rw [not_le] at beyond
  have start : (CStr.ofMemory m.bytes).bytes <+: m.bytes := List.takeWhile_prefix _
  have there : (CStr.ofMemory m.bytes).bytes[limit]? = some 0 := by
    rw [List.getElem?_eq_getElem beyond, start.getElem beyond, ← List.getElem?_eq_getElem, given.last]
  exact (CStr.ofMemory m.bytes).noNul (List.mem_of_getElem? there)

theorem Terminated.drop_limit (given : Terminated limit m) : m.bytes.drop limit = [0] := by
  have room : limit < m.bytes.length := by
    rw [given.length]
    exact Nat.lt_succ_self limit
  have last : m.bytes[limit] = 0 := Option.some.inj ((List.getElem?_eq_getElem room).symm.trans given.last)
  rw [List.drop_eq_getElem_cons room, last, List.drop_of_length_le given.length.le]

theorem Terminated.scan (given : Terminated limit m) :
    m.scan = .ok (CStr.ofMemory m.bytes).length := by
  rw [Memory.scan, strlen_eq_length given.zero_mem]

theorem Terminated.strncpy (given : Terminated limit m) {src : CStr} (fits : src.length ≤ limit) :
    ∃ m', m.strncpy src limit = .ok m' ∧ Terminated limit m' ∧
      m'.bytes = src.bytes ++ List.replicate (limit + 1 - src.length) 0 := by
  have whole : src.bytes.take limit = src.bytes := List.take_of_length_le fits
  have length : (src.bytes ++ List.replicate (limit - src.length) 0).length = limit := by
    rw [List.length_append, List.length_replicate]
    exact Nat.add_sub_cancel' fits
  have each (k : Nat) (b : UInt8)
      (there : (src.bytes ++ List.replicate (limit - src.length) 0)[k]? = some b) :
      0 + k ≤ limit ∧ (0 + k = limit → b = 0) := by
    have inside := (List.getElem?_eq_some_iff.mp there).1
    omega
  obtain ⟨m', ran, terminated, isBytes⟩ := given.storeAll each
  refine ⟨m', ?_, terminated, ?_⟩
  · rw [Memory.strncpy, whole]
    exact ran
  · rw [isBytes, length, Nat.zero_add, given.drop_limit, List.take_zero, List.nil_append, List.append_assoc,
      Nat.succ_sub fits, List.replicate_succ']

/-- The zero after the appended bytes may be the last byte of the buffer. -/
theorem Terminated.strncat (given : Terminated limit m) {src : CStr} {n : Nat}
    (room : (CStr.ofMemory m.bytes).length + (src.bytes.take n).length ≤ limit) :
    ∃ m', m.strncat src n = .ok m' ∧ Terminated limit m' ∧
      (CStr.ofMemory m'.bytes).bytes = (CStr.ofMemory m.bytes).bytes ++ src.bytes.take n := by
  have each (k : Nat) (b : UInt8) (there : (src.bytes.take n ++ [0])[k]? = some b) :
      (CStr.ofMemory m.bytes).length + k ≤ limit ∧
        ((CStr.ofMemory m.bytes).length + k = limit → b = 0) := by
    have inside := (List.getElem?_eq_some_iff.mp there).1
    rw [List.length_append, List.length_singleton] at inside
    refine ⟨by omega, fun isLast => ?_⟩
    obtain rfl : k = (src.bytes.take n).length := by omega
    rw [List.getElem?_concat_length] at there
    exact (Option.some.inj there).symm
  obtain ⟨m', ran, terminated, isBytes⟩ := given.storeAll each
  refine ⟨m', ?_, terminated, ?_⟩
  · rw [Memory.strncat, given.scan]
    exact ran
  · have absent : 0 ∉ (CStr.ofMemory m.bytes).bytes ++ src.bytes.take n := by
      rw [List.mem_append]
      rintro (before | appended)
      · exact (CStr.ofMemory m.bytes).noNul before
      · exact src.noNul (List.mem_of_mem_take appended)
    rw [take_length_ofMemory, List.append_assoc, ← List.append_assoc] at isBytes
    rw [isBytes]
    exact congrArg CStr.bytes (ofMemory_append ⟨_, absent⟩ _)

end Terminated

end Memory

end SentryPeer.Lib
