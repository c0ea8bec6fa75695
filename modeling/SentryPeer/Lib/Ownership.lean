import SentryPeer.Lib.Exec
import Mathlib.Algebra.Group.Pointwise.Set.Lattice
import Mathlib.Data.Finmap

/-!
# Owned memory

A heap of blocks, and a separation logic over it. An assertion is a set of multisets of blocks, and
the separating conjunction is the pointwise sum of sets. A procedure on the heap is compared with
the same procedure on values: it goes through the same states, touches nothing but the blocks that
it owns, and never uses a block that is not allocated.
-/

namespace SentryPeer.Lib
open Pointwise

abbrev Owned (β : Type) := Multiset (Σ _ : ℕ, β)

abbrev Assertion (β : Type) := Set (Owned β)

/-- An address that has been freed is not given out again. -/
structure Heap (β : Type) where
  cells : Finmap fun _ : ℕ => β
  next : ℕ
  bounded : ∀ p ∈ cells, p < next

section Heap
variable {β : Type}

namespace Heap

def empty : Heap β := ⟨∅, 0, fun _ member => absurd member Finmap.notMem_empty⟩

def owned (heap : Heap β) : Owned β := heap.cells.entries

def insert (heap : Heap β) (block : β) : Heap β where
  cells := heap.cells.insert heap.next block
  next := heap.next + 1
  bounded p member := by
    rcases Finmap.mem_insert.mp member with rfl | old
    · exact Nat.lt_succ_self _
    · exact Nat.lt_succ_of_lt (heap.bounded p old)

def replace (heap : Heap β) {p : ℕ} (allocated : p ∈ heap.cells) (block : β) : Heap β where
  cells := heap.cells.insert p block
  next := heap.next
  bounded q member := by
    rcases Finmap.mem_insert.mp member with rfl | old
    · exact heap.bounded _ allocated
    · exact heap.bounded q old

def erase (heap : Heap β) (p : ℕ) : Heap β where
  cells := heap.cells.erase p
  next := heap.next
  bounded q member := heap.bounded q (Finmap.mem_erase.mp member).2

variable {heap : Heap β} {p : ℕ} {block : β} {rest : Owned β}

theorem lookup_of_owned (owned : heap.owned = ⟨p, block⟩ ::ₘ rest) :
    heap.cells.lookup p = some block := by
  have member : (⟨p, block⟩ : Σ _ : ℕ, β) ∈ heap.owned := by simp [owned]
  unfold Heap.owned at member
  generalize heap.cells = cells at member
  induction cells using Finmap.induction_on with
  | H cells => exact List.mem_dlookup cells.nodupKeys member

theorem mem_of_owned (owned : heap.owned = ⟨p, block⟩ ::ₘ rest) : p ∈ heap.cells :=
  Finmap.mem_of_lookup_eq_some (lookup_of_owned owned)

theorem owned_insert (heap : Heap β) (block : β) :
    (heap.insert block).owned = ⟨heap.next, block⟩ ::ₘ heap.owned :=
  Finmap.entries_insert_of_notMem fun member => (heap.bounded _ member).false

theorem insert_erase (cells : Finmap fun _ : ℕ => β) (p : ℕ) (block : β) :
    (cells.erase p).insert p block = cells.insert p block := by
  apply Finmap.ext_lookup
  intro q
  by_cases same : q = p
  · subst same
    simp
  · simp [same]

theorem owned_erase (owned : heap.owned = ⟨p, block⟩ ::ₘ rest) : (heap.erase p).owned = rest := by
  have whole : (heap.cells.erase p).insert p block = heap.cells := by
    rw [insert_erase]
    apply Finmap.ext_lookup
    intro q
    by_cases same : q = p
    · subst same
      rw [Finmap.lookup_insert, lookup_of_owned owned]
    · rw [Finmap.lookup_insert_of_ne _ same]
  have entries := Finmap.entries_insert_of_notMem (b := block)
    (Finmap.notMem_erase_self (a := p) (s := heap.cells))
  rw [whole] at entries
  exact (Multiset.cons_inj_right _).mp (entries.symm.trans owned)

theorem owned_replace (owned : heap.owned = ⟨p, block⟩ ::ₘ rest) (allocated : p ∈ heap.cells)
    (block' : β) : (heap.replace allocated block').owned = ⟨p, block'⟩ ::ₘ rest := by
  have entries := Finmap.entries_insert_of_notMem (b := block')
    (Finmap.notMem_erase_self (a := p) (s := heap.cells))
  rw [insert_erase] at entries
  exact entries.trans (congrArg _ (owned_erase owned))

end Heap

end Heap

/-! ## Procedures on the heap -/

inductive Stop (ε : Type)
  /-- The address is not that of an allocated block. -/
  | invalid (p : ℕ)
  | stopped (error : ε)

structure WithHeap (β σ : Type) where
  heap : Heap β
  rest : σ

abbrev HeapM (ε β σ : Type) := EStateM (Stop ε) (WithHeap β σ)

variable {ε β σ α γ δ : Type}

def malloc (block : β) : HeapM ε β σ ℕ := fun s =>
  .ok s.heap.next { s with heap := s.heap.insert block }

/-- A read of a block that has to be of the kind the view takes. -/
def load (view : β → Option α) (p : ℕ) : HeapM ε β σ α := fun s =>
  match (s.heap.cells.lookup p).bind view with
  | some a => .ok a s
  | none => .error (.invalid p) s

def store (p : ℕ) (block : β) : HeapM ε β σ Unit := fun s =>
  if allocated : p ∈ s.heap.cells then .ok () { s with heap := s.heap.replace allocated block }
  else .error (.invalid p) s

def free (allowed : β → Bool) (p : ℕ) : HeapM ε β σ Unit := fun s =>
  if (s.heap.cells.lookup p).any allowed then .ok () { s with heap := s.heap.erase p }
  else .error (.invalid p) s

def onRest (v : EStateM ε σ α) : HeapM ε β σ α := fun s =>
  match v s.rest with
  | .ok a t => .ok a { s with rest := t }
  | .error e t => .error (.stopped e) { s with rest := t }

/-! ## Assertions -/

def pointsTo (p : ℕ) (block : β) : Assertion β := {{⟨p, block⟩}}

theorem cons_mem {p : ℕ} {block : β} {rest : Owned β} {P : Assertion β} (member : rest ∈ P) :
    ⟨p, block⟩ ::ₘ rest ∈ pointsTo p block + P := by
  rw [← Multiset.singleton_add]
  exact Set.add_mem_add (Set.mem_singleton _) member

theorem mem_pointsTo_add {p : ℕ} {block : β} {whole : Owned β} {P : Assertion β}
    (member : whole ∈ pointsTo p block + P) : ∃ rest ∈ P, whole = ⟨p, block⟩ ::ₘ rest := by
  obtain ⟨_, rfl, rest, others, rfl⟩ := Set.mem_add.mp member
  exact ⟨rest, others, Multiset.singleton_add _ _⟩

theorem subset_given {φ : Prop} (P : Assertion β) (holds : φ) : P ⊆ ⋃ _ : φ, P :=
  Set.subset_iUnion (fun _ => P) holds

theorem add_subset_of_subset_zero {P R : Assertion β} (nothing : P ⊆ 0) : P + R ⊆ R := by
  simpa only [zero_add] using Set.add_subset_add nothing (subset_refl R)

/-- As many blocks, whatever they hold. -/
def blocks (n : ℕ) : Assertion β := {owned | Multiset.card owned = n}

theorem blocks_zero : (blocks 0 : Assertion β) = 0 := by
  ext owned
  exact Multiset.card_eq_zero

theorem pointsTo_add_blocks (p : ℕ) (block : β) (n : ℕ) :
    pointsTo p block + blocks n ⊆ blocks (n + 1) := by
  rintro _ ⟨_, rfl, rest, rfl, rfl⟩
  exact Multiset.card_cons _ _

theorem blocks_add (m n : ℕ) : blocks m + blocks n ⊆ (blocks (m + n) : Assertion β) := by
  rintro _ ⟨left, rfl, right, rfl, rfl⟩
  exact Multiset.card_add left right

/-- Beside whatever else is on the heap, `x` does with the blocks of `P` what `v` does without them,
and leaves those of `Q`. -/
def Simulates (P : Assertion β) (x : HeapM ε β σ α) (v : EStateM ε σ γ)
    (Q : α → γ → Assertion β) : Prop :=
  ∀ (F : Assertion β) (s : WithHeap β σ), s.heap.owned ∈ P + F →
    match v s.rest with
    | .ok c t => ∃ a s', x s = .ok a s' ∧ s'.rest = t ∧ s'.heap.owned ∈ Q a c + F
    | .error e t => ∃ s', x s = .error (.stopped e) s' ∧ s'.rest = t

namespace Simulates
variable {P P' R : Assertion β} {x : HeapM ε β σ α} {v : EStateM ε σ γ} {Q Q' : α → γ → Assertion β}

theorem imp (given : Simulates P x v Q) (pre : P' ⊆ P) (post : ∀ a c, Q a c ⊆ Q' a c) :
    Simulates P' x v Q' := by
  intro F s owned
  have ran := given F s (Set.add_subset_add_right pre owned)
  split at ran
  · obtain ⟨a, s', ran, rest, owned⟩ := ran
    exact ⟨a, s', ran, rest, Set.add_subset_add_right (post a _) owned⟩
  · exact ran

theorem post (given : Simulates P x v Q) (post : ∀ a c, Q a c ⊆ Q' a c) : Simulates P x v Q' :=
  given.imp subset_rfl post

theorem frame (given : Simulates P x v Q) (R : Assertion β) :
    Simulates (P + R) x v fun a c => Q a c + R := by
  intro F s owned
  rw [add_assoc] at owned
  simpa only [add_assoc] using given (R + F) s owned

theorem iUnion {ι : Sort*} {P : ι → Assertion β} (each : ∀ i, Simulates (P i) x v Q) :
    Simulates (⋃ i, P i) x v Q := by
  intro F s owned
  rw [Set.iUnion_add] at owned
  obtain ⟨i, owned⟩ := Set.mem_iUnion.mp owned
  exact each i F s owned

theorem vacuous (empty : P = ∅) : Simulates P x v Q := by
  subst empty
  intro F s owned
  rw [Set.empty_add] at owned
  exact owned.elim

theorem pure {a : α} {c : γ} (holds : P ⊆ Q a c) :
    Simulates (ε := ε) (σ := σ) P (Pure.pure a) (Pure.pure c) Q :=
  fun _ s owned => ⟨a, s, rfl, rfl, Set.add_subset_add_right holds owned⟩

variable {f : α → HeapM ε β σ δ} {ω : Type} {g : γ → EStateM ε σ ω} {w : EStateM ε σ ω}
  {T : δ → ω → Assertion β} {block block' : β} {p : ℕ}

theorem bind (first : Simulates P x v Q) (rest : ∀ a c, Simulates (Q a c) (f a) (g c) T) :
    Simulates P (x >>= f) (v >>= g) T := by
  intro F s owned
  have ran := first F s owned
  rw [run_bind]
  cases value : v s.rest with
  | ok c t =>
      rw [value] at ran
      obtain ⟨a, s', ran, rfl, owned⟩ := ran
      simpa only [run_bind, ran] using rest a c F s' owned
  | error e t =>
      rw [value] at ran
      obtain ⟨s', ran, rfl⟩ := ran
      exact ⟨s', by rw [run_bind, ran], rfl⟩

/-- The rule of a procedure call: what is not the callee's stays as it is. -/
theorem call (first : Simulates P x v Q) (rest : ∀ a c, Simulates (Q a c + R) (f a) (g c) T) :
    Simulates (P + R) (x >>= f) (v >>= g) T :=
  (first.frame R).bind rest

/-- Steps with no effect outside the heap. -/
theorem bindPure {c : γ} (first : Simulates P x (Pure.pure c) Q)
    (rest : ∀ a, Simulates (Q a c) (f a) w T) : Simulates P (x >>= f) w T := by
  intro F s owned
  obtain ⟨a, s', ran, same, owned⟩ := first F s owned
  rw [← same]
  simpa only [run_bind, ran] using rest a F s' owned

theorem callPure {c : γ} (first : Simulates P x (Pure.pure c) Q)
    (rest : ∀ a, Simulates (Q a c + R) (f a) w T) : Simulates (P + R) (x >>= f) w T :=
  (first.frame R).bindPure rest

theorem onRest {h : γ → HeapM ε β σ δ} (rest : ∀ c, Simulates P (h c) (g c) T) :
    Simulates P (Lib.onRest v >>= h) (v >>= g) T := by
  intro F s owned
  simp only [run_bind, Lib.onRest]
  cases v s.rest with
  | ok c t => exact rest c F ⟨s.heap, t⟩ owned
  | error e t => exact ⟨_, rfl, rfl⟩

theorem onRestEnd : Simulates P (Lib.onRest v) v fun a c => ⋃ _ : a = c, P := by
  intro F s owned
  unfold Lib.onRest
  cases v s.rest with
  | ok c t => exact ⟨c, ⟨s.heap, t⟩, rfl, rfl, Set.add_subset_add_right (subset_given P rfl) owned⟩
  | error e t => exact ⟨_, rfl, rfl⟩

theorem onRestLast {h : γ → HeapM ε β σ δ} {T : δ → γ → Assertion β}
    (rest : ∀ c, Simulates P (h c) (Pure.pure c) T) : Simulates P (Lib.onRest v >>= h) v T := by
  have whole := Simulates.onRest (v := v) rest
  rwa [bind_pure] at whole

theorem malloc (P : Assertion β) (block : β) (c : γ) :
    Simulates (ε := ε) (σ := σ) P (Lib.malloc block) (Pure.pure c)
      fun p _ => pointsTo p block + P := by
  intro F s owned
  refine ⟨_, _, rfl, rfl, ?_⟩
  rw [add_assoc, Heap.owned_insert]
  exact cons_mem owned

theorem load {view : β → Option α} {a : α} (has : P = pointsTo p block + R)
    (seen : view block = some a) (rest : Simulates P (f a) w T) :
    Simulates P (Lib.load view p >>= f) w T := by
  intro F s owned
  rw [has, add_assoc] at owned
  obtain ⟨others, -, whole⟩ := mem_pointsTo_add owned
  rw [← add_assoc, ← has] at owned
  rw [run_bind, Lib.load, Heap.lookup_of_owned whole, Option.bind_some, seen]
  exact rest F s owned

theorem store {c : γ} (has : P = pointsTo p block + R) :
    Simulates (ε := ε) (σ := σ) P (Lib.store p block') (Pure.pure c)
      fun _ _ => pointsTo p block' + R := by
  subst has
  intro F s owned
  rw [add_assoc] at owned
  obtain ⟨others, member, whole⟩ := mem_pointsTo_add owned
  have allocated := Heap.mem_of_owned whole
  refine ⟨(), { s with heap := s.heap.replace allocated block' }, dif_pos allocated, rfl, ?_⟩
  rw [add_assoc, Heap.owned_replace whole]
  exact cons_mem member

theorem free {c : γ} {allowed : β → Bool} (has : P = pointsTo p block + R)
    (may : allowed block = true) :
    Simulates (ε := ε) (σ := σ) P (Lib.free allowed p) (Pure.pure c) fun _ _ => R := by
  subst has
  intro F s owned
  rw [add_assoc] at owned
  obtain ⟨others, member, whole⟩ := mem_pointsTo_add owned
  refine ⟨(), { s with heap := s.heap.erase p }, ?_, rfl, ?_⟩
  · rw [Lib.free, Heap.lookup_of_owned whole, Option.any_some, if_pos may]
  · rw [Heap.owned_erase whole]
    exact member

end Simulates

/-- Beside whatever else is on the heap, `x` takes the state `s` to `t` and the blocks of `P` to those
of `Q`. -/
def Runs (P : Assertion β) (x : HeapM ε β σ α) (s t : σ) (Q : α → Assertion β) : Prop :=
  ∀ (F : Assertion β) (heap : Heap β), heap.owned ∈ P + F →
    ∃ a heap', x ⟨heap, s⟩ = .ok a ⟨heap', t⟩ ∧ heap'.owned ∈ Q a + F

theorem Simulates.runs {P : Assertion β} {x : HeapM ε β σ α} {v : EStateM ε σ γ}
    {Q : α → γ → Assertion β} {s t : σ} {c : γ} (simulates : Simulates P x v Q)
    (ran : v s = .ok c t) : Runs P x s t fun a => Q a c := by
  intro F heap owned
  have both := simulates F ⟨heap, s⟩ owned
  dsimp only at both
  rw [ran] at both
  obtain ⟨a, ⟨heap', _⟩, same, rfl, owned⟩ := both
  exact ⟨a, heap', same, owned⟩

/-- From any heap: what was there is still there, beside the blocks that were left. -/
theorem Simulates.leaves {x : HeapM ε β σ α} {v : EStateM ε σ γ} {Q : α → γ → Assertion β}
    (given : Simulates 0 x v Q) (heap : Heap β) (s : σ) :
    match v s with
    | .ok c t => ∃ a heap' kept, x ⟨heap, s⟩ = .ok a ⟨heap', t⟩ ∧ kept ∈ Q a c ∧
        heap'.owned = kept + heap.owned
    | .error e t => ∃ heap', x ⟨heap, s⟩ = .error (.stopped e) ⟨heap', t⟩ := by
  have ran := given {heap.owned} ⟨heap, s⟩ (by
    rw [zero_add]
    exact Set.mem_singleton _)
  dsimp only at ran
  cases ended : v s with
  | ok c t =>
      rw [ended] at ran
      obtain ⟨a, ⟨heap', _⟩, same, rfl, owned⟩ := ran
      obtain ⟨kept, member, _, rfl, whole⟩ := Set.mem_add.mp owned
      exact ⟨a, heap', kept, same, member, whole.symm⟩
  | error e t =>
      rw [ended] at ran
      obtain ⟨⟨heap', _⟩, same, rfl⟩ := ran
      exact ⟨heap', same⟩

namespace Runs
variable {P P' R : Assertion β} {x : HeapM ε β σ α} {s t u : σ} {Q Q' : α → Assertion β}
  {f : α → HeapM ε β σ δ} {T : δ → Assertion β}

theorem imp (given : Runs P x s t Q) (pre : P' ⊆ P) (post : ∀ a, Q a ⊆ Q' a) :
    Runs P' x s t Q' := by
  intro F heap owned
  obtain ⟨a, heap', ran, owned⟩ := given F heap (Set.add_subset_add_right pre owned)
  exact ⟨a, heap', ran, Set.add_subset_add_right (post a) owned⟩

theorem frame (given : Runs P x s t Q) (R : Assertion β) :
    Runs (P + R) x s t fun a => Q a + R := by
  intro F heap owned
  rw [add_assoc] at owned
  simpa only [add_assoc] using given (R + F) heap owned

theorem iUnion {ι : Sort*} {P : ι → Assertion β} (each : ∀ i, Runs (P i) x s t Q) :
    Runs (⋃ i, P i) x s t Q := by
  intro F heap owned
  rw [Set.iUnion_add] at owned
  obtain ⟨i, owned⟩ := Set.mem_iUnion.mp owned
  exact each i F heap owned

theorem vacuous (empty : P = ∅) : Runs P x s t Q := by
  subst empty
  intro F heap owned
  rw [Set.empty_add] at owned
  exact owned.elim

theorem pure {a : α} (holds : P ⊆ Q a) : Runs (ε := ε) P (Pure.pure a) s s Q :=
  fun _ heap owned => ⟨a, heap, rfl, Set.add_subset_add_right holds owned⟩

theorem bind (first : Runs P x s u Q) (rest : ∀ a, Runs (Q a) (f a) u t T) :
    Runs P (x >>= f) s t T := by
  intro F heap owned
  obtain ⟨a, heap', ran, owned⟩ := first F heap owned
  obtain ⟨b, heap'', ran', owned⟩ := rest a F heap' owned
  exact ⟨b, heap'', run_bind_eq_ok.mpr ⟨a, _, ran, ran'⟩, owned⟩

theorem steps {γ : Type} {c : γ} {Q : α → γ → Assertion β} (simulates : Simulates P x (Pure.pure c) Q)
    (rest : ∀ a, Runs (Q a c) (f a) s t T) : Runs P (x >>= f) s t T :=
  (simulates.runs rfl).bind rest

theorem onRest {v : EStateM ε σ γ} {h : γ → HeapM ε β σ δ} {c : γ} (ran : v s = .ok c u)
    (rest : Runs P (h c) u t T) : Runs P (Lib.onRest v >>= h) s t T := by
  intro F heap owned
  obtain ⟨b, heap', ran', owned⟩ := rest F heap owned
  refine ⟨b, heap', run_bind_eq_ok.mpr ⟨c, ⟨heap, u⟩, ?_, ran'⟩, owned⟩
  simp only [Lib.onRest, ran]

theorem onRestEnd {v : EStateM ε σ γ} {c : γ} (ran : v s = .ok c t) :
    Runs P (Lib.onRest v) s t fun a => ⋃ _ : a = c, P := by
  intro F heap owned
  refine ⟨c, heap, ?_, Set.add_subset_add_right (subset_given P rfl) owned⟩
  simp only [Lib.onRest, ran]

theorem leaves {Q : α → Assertion β} (given : Runs 0 x s t Q) (heap : Heap β) :
    ∃ a heap' kept, x ⟨heap, s⟩ = .ok a ⟨heap', t⟩ ∧ kept ∈ Q a ∧
      heap'.owned = kept + heap.owned := by
  obtain ⟨a, heap', ran, owned⟩ := given {heap.owned} heap (by
    rw [zero_add]
    exact Set.mem_singleton _)
  obtain ⟨kept, member, _, rfl, whole⟩ := Set.mem_add.mp owned
  exact ⟨a, heap', kept, ran, member, whole.symm⟩

end Runs

end SentryPeer.Lib
