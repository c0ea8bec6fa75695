import SentryPeer.Lib.Ownership

/-!
# State that is kept on the heap

A procedure on the heap beside one on values whose state is partly kept in blocks: `seen` is the
part of the state that both have. From a given state the two go through the same calls, and the
assertion after them may speak of the state they have come to.
-/

namespace SentryPeer.Lib
open Pointwise

variable {ε β σ τ α γ δ ω : Type}

/-- Beside whatever else is on the heap, `x` does with the blocks of `P` what `v` does in the state
`s`, and leaves those of `Q`. -/
def Represents (seen : σ → τ) (s : σ) (P : Assertion β) (x : HeapM ε β τ α) (v : EStateM ε σ γ)
    (Q : α → γ → σ → Assertion β) : Prop :=
  ∀ (F : Assertion β) (heap : Heap β), heap.owned ∈ P + F →
    match v s with
    | .ok c t => ∃ a heap', x ⟨heap, seen s⟩ = .ok a ⟨heap', seen t⟩ ∧ heap'.owned ∈ Q a c t + F
    | .error e t => ∃ heap', x ⟨heap, seen s⟩ = .error (.stopped e) ⟨heap', seen t⟩

/-- The third of the blocks comes first. -/
theorem add_third {M : Type*} [AddCommSemigroup M] (a b c d : M) :
    a + (b + (c + d)) = c + (a + (b + d)) := by
  rw [add_left_comm b, add_left_comm]

namespace Represents
variable {seen : σ → τ} {s t : σ} {P P' R : Assertion β} {x : HeapM ε β τ α} {v : EStateM ε σ γ}
  {Q Q' : α → γ → σ → Assertion β} {f : α → HeapM ε β τ δ} {g : γ → EStateM ε σ ω}
  {T : δ → ω → σ → Assertion β} {c : γ}

theorem imp (given : Represents seen s P x v Q) (pre : P' ⊆ P)
    (post : ∀ a c t, Q a c t ⊆ Q' a c t) : Represents seen s P' x v Q' := by
  intro F heap owned
  have ran := given F heap (Set.add_subset_add_right pre owned)
  split at ran
  · obtain ⟨a, heap', ran, owned⟩ := ran
    exact ⟨a, heap', ran, Set.add_subset_add_right (post a _ _) owned⟩
  · exact ran

theorem post (given : Represents seen s P x v Q) (post : ∀ a c t, Q a c t ⊆ Q' a c t) :
    Represents seen s P x v Q' :=
  given.imp subset_rfl post

theorem frame (given : Represents seen s P x v Q) (R : Assertion β) :
    Represents seen s (P + R) x v fun a c t => Q a c t + R := by
  intro F heap owned
  rw [add_assoc] at owned
  simpa only [add_assoc] using given (R + F) heap owned

theorem iUnion {ι : Sort*} {P : ι → Assertion β} (each : ∀ i, Represents seen s (P i) x v Q) :
    Represents seen s (⋃ i, P i) x v Q := by
  intro F heap owned
  rw [Set.iUnion_add] at owned
  obtain ⟨i, owned⟩ := Set.mem_iUnion.mp owned
  exact each i F heap owned

theorem vacuous (empty : P = ∅) : Represents seen s P x v Q := by
  subst empty
  intro F heap owned
  rw [Set.empty_add] at owned
  exact owned.elim

theorem pure {a : α} (holds : P ⊆ Q a c s) :
    Represents (ε := ε) seen s P (Pure.pure a) (Pure.pure c) Q :=
  fun _ heap owned => ⟨a, heap, rfl, Set.add_subset_add_right holds owned⟩

theorem bind (first : Represents seen s P x v Q)
    (rest : ∀ a c t, Represents seen t (Q a c t) (f a) (g c) T) :
    Represents seen s P (x >>= f) (v >>= g) T := by
  intro F heap owned
  have ran := first F heap owned
  rw [run_bind]
  cases value : v s with
  | ok c t =>
      rw [value] at ran
      obtain ⟨a, heap', ran, owned⟩ := ran
      simpa only [run_bind, ran] using rest a c t F heap' owned
  | error e t =>
      rw [value] at ran
      obtain ⟨heap', ran⟩ := ran
      exact ⟨heap', by rw [run_bind, ran]⟩

/-- The rule of a procedure call: what is not the callee's stays as it is. -/
theorem call (first : Represents seen s P x v Q)
    (rest : ∀ a c t, Represents seen t (Q a c t + R) (f a) (g c) T) :
    Represents seen s (P + R) (x >>= f) (v >>= g) T :=
  (first.frame R).bind rest

/-- Steps with no effect outside the heap. -/
theorem steps {Q : α → γ → Assertion β} {w : EStateM ε σ ω}
    (first : Simulates P x (Pure.pure c) Q)
    (rest : ∀ a, Represents seen s (Q a c) (f a) w T) : Represents seen s P (x >>= f) w T := by
  intro F heap owned
  obtain ⟨a, ⟨heap', _⟩, ran, rfl, owned⟩ := first F ⟨heap, seen s⟩ owned
  simpa only [run_bind, ran] using rest a F heap' owned

theorem last {Q : α → γ → Assertion β} {c' : ω} {T : α → ω → σ → Assertion β}
    (first : Simulates P x (Pure.pure c) Q) (holds : ∀ a, Q a c ⊆ T a c' s) :
    Represents seen s P x (Pure.pure c') T := by
  intro F heap owned
  obtain ⟨a, ⟨heap', _⟩, ran, rfl, owned⟩ := first F ⟨heap, seen s⟩ owned
  exact ⟨a, heap', ran, Set.add_subset_add_right (holds a) owned⟩

theorem callSteps {Q : α → γ → Assertion β} {w : EStateM ε σ ω}
    (first : Simulates P x (Pure.pure c) Q)
    (rest : ∀ a, Represents seen s (Q a c + R) (f a) w T) :
    Represents seen s (P + R) (x >>= f) w T :=
  steps (first.frame R) rest

theorem load {block : β} {p : ℕ} {view : β → Option α} {a : α} {w : EStateM ε σ ω}
    (has : P = pointsTo p block + R) (kind : view block = some a)
    (rest : Represents seen s P (f a) w T) :
    Represents seen s P (Lib.load view p >>= f) w T := by
  intro F heap owned
  rw [has, add_assoc] at owned
  obtain ⟨others, -, whole⟩ := mem_pointsTo_add owned
  rw [← add_assoc, ← has] at owned
  simpa only [run_bind, Lib.load, Heap.lookup_of_owned whole, Option.bind_some, kind] using
    rest F heap owned

/-- A step outside the heap. -/
theorem outside {h : EStateM ε τ α} {a : α} (ran : v s = .ok c t)
    (seenRan : h (seen s) = .ok a (seen t)) (rest : Represents seen t P (f a) (g c) T) :
    Represents seen s P (onRest h >>= f) (v >>= g) T := by
  intro F heap owned
  simp only [run_bind, onRest, ran, seenRan]
  exact rest F heap owned

/-- A look outside the heap. -/
theorem look {h : EStateM ε τ α} {a : α} {w : EStateM ε σ ω}
    (seenRan : h (seen s) = .ok a (seen s)) (rest : Represents seen s P (f a) w T) :
    Represents seen s P (onRest h >>= f) w T := by
  intro F heap owned
  simpa only [run_bind, onRest, seenRan] using rest F heap owned

/-- A step of the part of the state that is kept on the heap. -/
theorem kept {y : HeapM ε β τ δ} (ran : v s = .ok c t) (same : seen t = seen s)
    (rest : Represents seen t P y (g c) T) : Represents seen s P y (v >>= g) T := by
  intro F heap owned
  have both := rest F heap owned
  rw [same] at both
  simpa only [run_bind, ran] using both

theorem stop {e : ε} {y : HeapM ε β τ δ} {w : EStateM ε σ ω} (ran : w s = .error e s)
    (stops : ∀ heap, ∃ heap', y ⟨heap, seen s⟩ = .error (.stopped e) ⟨heap', seen s⟩) :
    Represents seen s P y w T := by
  intro F heap owned
  rw [ran]
  exact stops heap

end Represents

end SentryPeer.Lib
