import Mathlib.Logic.Relation

/-!
# Stateful computations that may stop

`EStateM ε σ` is the model of a procedure that reads and writes a state `σ` and either returns or
stops with an `ε`. These are the rules with which the runs of such procedures are taken apart, and
the invariant rule for transition systems.
-/

namespace SentryPeer.Lib

section Except
variable {ε α β : Type}

theorem bind_eq_ok {x : Except ε α} {f : α → Except ε β} {b : β} :
    (x >>= f) = .ok b ↔ ∃ a, x = .ok a ∧ f a = .ok b := by
  cases x <;> simp [bind, Except.bind]

theorem mapM_ok_each {f : α → Except ε β} {xs : List α} {ys : List β} (ran : xs.mapM f = .ok ys) :
    ∀ x ∈ xs, ∃ y, f x = .ok y := by
  induction xs generalizing ys with
  | nil => exact List.forall_mem_nil _
  | cons x rest ih =>
      rw [List.mapM_cons] at ran
      obtain ⟨y, first, ran⟩ := bind_eq_ok.mp ran
      obtain ⟨others, later, -⟩ := bind_eq_ok.mp ran
      exact List.forall_mem_cons.mpr ⟨⟨y, first⟩, ih later⟩

/-- The property of what is returned, if anything is. -/
def OnReturn (property : α → Prop) : Except ε α → Prop
  | .ok a => property a
  | .error _ => True

instance (property : α → Prop) [(a : α) → Decidable (property a)] :
    (x : Except ε α) → Decidable (OnReturn property x)
  | .ok a => inferInstanceAs (Decidable (property a))
  | .error _ => isTrue trivial

section Runs
variable {σ ι : Type} (step : σ → ι → Except ε σ) (met : σ → ι → Prop)

/-- Every step of the run is taken in a state that meets its condition. -/
def Throughout : List ι → σ → Prop
  | [], _ => True
  | i :: rest, s => met s i ∧ OnReturn (Throughout rest) (step s i)

instance decideThroughout [(s : σ) → (i : ι) → Decidable (met s i)] :
    (run : List ι) → (s : σ) → Decidable (Throughout step met run s)
  | [], _ => isTrue trivial
  | _ :: rest, _ =>
      have (t : σ) : Decidable (Throughout step met rest t) := decideThroughout rest t
      inferInstanceAs (Decidable (_ ∧ _))

variable {step met}

theorem Throughout.foldlM {inv : σ → Prop} {run : List ι} {s : σ}
    (throughout : Throughout step met run s) (initial : inv s)
    (preserved : ∀ s i, inv s → met s i → ∃ t, step s i = .ok t ∧ inv t) :
    ∃ t, run.foldlM step s = .ok t ∧ inv t := by
  induction run generalizing s with
  | nil => exact ⟨s, rfl, initial⟩
  | cons i rest ih =>
      obtain ⟨ready, throughout⟩ := throughout
      obtain ⟨t, ran, holds⟩ := preserved s i initial ready
      rw [ran] at throughout
      obtain ⟨u, runs, final⟩ := ih throughout holds
      refine ⟨u, ?_, final⟩
      rw [List.foldlM_cons, ran]
      exact runs

end Runs

end Except

theorem mapM_some_each {α β : Type} {f : α → Option β} {xs : List α} {ys : List β}
    (ran : xs.mapM f = some ys) : ∀ x ∈ xs, ∃ y, f x = some y := by
  induction xs generalizing ys with
  | nil => exact List.forall_mem_nil _
  | cons x rest ih =>
      rw [List.mapM_cons] at ran
      obtain ⟨y, first, ran⟩ := Option.bind_eq_some_iff.mp ran
      obtain ⟨others, later, -⟩ := Option.bind_eq_some_iff.mp ran
      exact List.forall_mem_cons.mpr ⟨⟨y, first⟩, ih later⟩

theorem mapM_eq_pure {m : Type → Type} [Monad m] [LawfulMonad m] {α β : Type} {f : α → m β}
    {g : α → β} {xs : List α} (all : ∀ x ∈ xs, f x = pure (g x)) :
    xs.mapM f = pure (xs.map g) := by
  induction xs with
  | nil => rfl
  | cons x rest ih =>
      rw [List.mapM_cons, all x List.mem_cons_self, ih fun y member =>
        all y (List.mem_cons_of_mem x member), pure_bind, pure_bind, List.map_cons]

section EStateM
variable {ε σ α β : Type}

theorem run_bind (x : EStateM ε σ α) (f : α → EStateM ε σ β) (s : σ) :
    (x >>= f) s = match x s with
      | .ok a s' => f a s'
      | .error e s' => .error e s' := rfl

@[simp] theorem run_pure (a : α) (s : σ) : (pure a : EStateM ε σ α) s = .ok a s := rfl

theorem run_get (s : σ) : (MonadState.get : EStateM ε σ σ) s = .ok s s := rfl

theorem run_bind_eq_ok {x : EStateM ε σ α} {f : α → EStateM ε σ β} {s t : σ} {b : β} :
    (x >>= f) s = .ok b t ↔ ∃ a u, x s = .ok a u ∧ f a u = .ok b t := by
  rw [run_bind]
  cases h : x s with
  | ok a u => simp only [EStateM.Result.ok.injEq]; exact ⟨fun ran => ⟨a, u, ⟨rfl, rfl⟩, ran⟩,
      by rintro ⟨_, _, ⟨rfl, rfl⟩, ran⟩; exact ran⟩
  | error e u => simp

def Returns (x : EStateM ε σ α) (s : σ) : Prop := ∃ a t, x s = .ok a t

theorem Returns.pure (a : α) (s : σ) : Returns (Pure.pure a : EStateM ε σ α) s := ⟨a, s, rfl⟩

theorem Returns.bind {x : EStateM ε σ α} {f : α → EStateM ε σ β} {s : σ}
    (first : Returns x s) (rest : ∀ a t, x s = .ok a t → Returns (f a) t) :
    Returns (x >>= f) s := by
  obtain ⟨a, t, ran⟩ := first
  obtain ⟨b, u, done⟩ := rest a t ran
  exact ⟨b, u, run_bind_eq_ok.mpr ⟨a, t, ran, done⟩⟩

def fromExcept : Except ε α → EStateM ε σ α
  | .ok a => Pure.pure a
  | .error e => fun s => .error e s

@[simp] theorem fromExcept_ok (a : α) : (fromExcept (.ok a) : EStateM ε σ α) = Pure.pure a := rfl

theorem fromExcept_eq_ok {x : Except ε α} {s t : σ} {a : α} :
    fromExcept x s = .ok a t ↔ x = .ok a ∧ t = s := by
  cases x <;> simp [fromExcept, eq_comm]

theorem fromExcept_bind (x : Except ε α) (f : α → Except ε β) :
    (fromExcept (x >>= f) : EStateM ε σ β) = fromExcept x >>= fun a => fromExcept (f a) := by
  cases x <;> rfl

def finalState : EStateM.Result ε σ α → σ
  | .ok _ s => s
  | .error _ s => s

theorem finalState_bind_pure (x : EStateM ε σ α) (b : β) (s : σ) :
    finalState ((x >>= fun _ => Pure.pure b) s) = finalState (x s) := by
  rw [run_bind]
  cases x s <;> rfl

structure Ends (stop : ε → Prop) (final : σ → Prop) (result : EStateM.Result ε σ α) : Prop where
  stops : ∀ e s, result = .error e s → stop e
  ends : final (finalState result)

theorem Ends.ok {stop : ε → Prop} {final : σ → Prop} {a : α} {s : σ} (holds : final s) :
    Ends stop final (.ok a s : EStateM.Result ε σ α) :=
  ⟨nofun, holds⟩

theorem Ends.imp {stop : ε → Prop} {final final' : σ → Prop} {result : EStateM.Result ε σ α}
    (given : Ends stop final result) (weaker : ∀ s, final s → final' s) : Ends stop final' result :=
  ⟨given.stops, weaker _ given.ends⟩

theorem Ends.bind_pure {stop : ε → Prop} {final : σ → Prop} {x : EStateM ε σ α} {s : σ} (b : β)
    (given : Ends stop final (x s)) : Ends stop final ((x >>= fun _ => Pure.pure b) s) := by
  rw [run_bind]
  cases ran : x s with
  | ok a t =>
      rw [ran] at given
      exact .ok given.ends
  | error e t =>
      rw [ran] at given
      refine ⟨fun _ _ stopped => ?_, given.ends⟩
      cases stopped
      exact given.stops e t rfl

/-- From a state with `P` the computation returns with `Q`, or stops in a state with `E`. -/
def Triple (P : σ → Prop) (x : EStateM ε σ α) (Q : α → σ → Prop) (E : σ → Prop) : Prop :=
  ∀ s, P s → match x s with
    | .ok a t => Q a t
    | .error _ t => E t

namespace Triple
variable {P : σ → Prop} {Q : β → σ → Prop} {E : σ → Prop}

theorem pure {R : α → σ → Prop} {a : α} (holds : ∀ s, P s → R a s) :
    Triple P (Pure.pure a : EStateM ε σ α) R E := holds

theorem bind {x : EStateM ε σ α} {f : α → EStateM ε σ β} {R : α → σ → Prop}
    (first : Triple P x R E) (rest : ∀ a, Triple (R a) (f a) Q E) : Triple P (x >>= f) Q E := by
  intro s given
  rw [run_bind]
  have ran := first s given
  cases h : x s with
  | ok a t =>
      rw [h] at ran
      exact rest a t ran
  | error e t =>
      rw [h] at ran
      exact ran

theorem bindCheck {x : EStateM ε σ Bool} {fail rest : EStateM ε σ β}
    (call : Triple P x (fun _ => P) E) (failed : Triple P fail Q E) (worked : Triple P rest Q E) :
    Triple P (x >>= fun ok => if (!ok) = true then fail else rest) Q E := by
  apply call.bind
  intro ok
  split
  · exact failed
  · exact worked

theorem imp {x : EStateM ε σ β} {P' : σ → Prop} {Q' : β → σ → Prop} {E' : σ → Prop}
    (triple : Triple P x Q E) (pre : ∀ s, P' s → P s) (post : ∀ b s, Q b s → Q' b s)
    (stop : ∀ s, E s → E' s) : Triple P' x Q' E' := by
  intro s given
  have ran := triple s (pre s given)
  cases h : x s with
  | ok b t =>
      rw [h] at ran
      exact post b t ran
  | error e t =>
      rw [h] at ran
      exact stop t ran

theorem fromExcept {x : Except ε α} {R : α → σ → Prop} (returned : ∀ a, x = .ok a → ∀ s, P s → R a s)
    (stopped : ∀ s, P s → E s) : Triple P (Lib.fromExcept x) R E := by
  intro s given
  cases x with
  | ok a => exact returned a rfl s given
  | error e => exact stopped s given

theorem finalState {x : EStateM ε σ β} {R : σ → Prop} {s : σ} (triple : Triple P x Q E)
    (given : P s) (returned : ∀ b t, Q b t → R t) (stopped : ∀ t, E t → R t) :
    R (Lib.finalState (x s)) := by
  have ran := triple s given
  cases h : x s with
  | ok b t =>
      rw [h] at ran
      exact returned b t ran
  | error e t =>
      rw [h] at ran
      exact stopped t ran

theorem get : Triple P (MonadState.get : EStateM ε σ σ) (fun a s => a = s ∧ P s) E :=
  fun _ given => ⟨rfl, given⟩

theorem modify {f : σ → σ} {R : PUnit → σ → Prop} (holds : ∀ s, P s → R ⟨⟩ (f s)) :
    Triple P (modifyThe σ f : EStateM ε σ PUnit) R E := holds

end Triple

end EStateM

/-- A property that every step keeps holds in every state a run reaches. -/
theorem invariant_of_step {σ : Type*} {step : σ → σ → Prop} {inv : σ → Prop} {s t : σ}
    (preserved : ∀ a b, step a b → inv a → inv b) (initial : inv s)
    (run : Relation.ReflTransGen step s t) : inv t := by
  induction run with
  | refl => exact initial
  | tail _ last ih => exact preserved _ _ last ih

end SentryPeer.Lib
