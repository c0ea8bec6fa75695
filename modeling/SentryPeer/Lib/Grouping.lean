import Mathlib.Data.List.Dedup
import Mathlib.Data.List.Sort

/-!
# Grouping rows

One summary for each key, the greatest of a list, and lists sorted downwards.
-/

namespace SentryPeer.Lib

/-! ## The greatest item -/

section Greatest
variable {τ : Type}

/-- The last one where several are greatest. -/
def greatest (le : τ → τ → Bool) (bottom : τ) (items : List τ) : τ :=
  items.foldl (fun largest item => if le largest item then item else largest) bottom

structure TotalPreorder (le : τ → τ → Bool) : Prop where
  total : ∀ a b, le a b = true ∨ le b a = true
  trans : ∀ a b c, le a b = true → le b c = true → le a c = true

variable {le : τ → τ → Bool} {bottom : τ} {items : List τ}

theorem greatest_mem_cons (bottom : τ) (items : List τ) :
    greatest le bottom items ∈ bottom :: items := by
  unfold greatest
  induction items generalizing bottom with
  | nil => exact List.mem_cons_self
  | cons item rest ih =>
      rw [List.foldl_cons]
      split
      · exact List.mem_cons_of_mem _ (ih item)
      · rcases List.mem_cons.mp (ih bottom) with same | later
        · rw [same]
          exact List.mem_cons_self
        · exact List.mem_cons_of_mem _ (List.mem_cons_of_mem _ later)

theorem greatest_mem (least : ∀ item, le bottom item = true) (nonempty : items ≠ []) :
    greatest le bottom items ∈ items := by
  cases items with
  | nil => exact absurd rfl nonempty
  | cons item rest =>
      have first : greatest le bottom (item :: rest) = greatest le item rest := by
        simp only [greatest, List.foldl_cons, least item, ↓reduceIte]
      rw [first]
      exact greatest_mem_cons item rest

theorem TotalPreorder.le_greatest (order : TotalPreorder le) (bottom : τ) (items : List τ) :
    ∀ item ∈ bottom :: items, le item (greatest le bottom items) = true := by
  unfold greatest
  induction items generalizing bottom with
  | nil =>
      intro item member
      rw [List.mem_singleton.mp member]
      exact (order.total bottom bottom).elim id id
  | cons next rest ih =>
      intro item member
      rw [List.foldl_cons]
      have reaches (larger : τ) (below : le item larger = true) :
          le item (rest.foldl (fun largest item => if le largest item then item else largest)
            larger) = true :=
        order.trans _ _ _ below (ih larger larger List.mem_cons_self)
      split
      · rename_i rises
        rcases List.mem_cons.mp member with rfl | later
        · exact reaches next rises
        · exact ih next item later
      · rename_i stays
        have below : le next bottom = true := (order.total next bottom).resolve_right stays
        rcases List.mem_cons.mp member with rfl | later
        · exact ih item item List.mem_cons_self
        · rcases List.mem_cons.mp later with rfl | later
          · exact reaches bottom below
          · exact ih bottom item (List.mem_cons_of_mem _ later)

end Greatest

/-! ## One summary for each key -/

section Groups
variable {α κ γ : Type} [DecidableEq κ]

def groupedBy (key : α → κ) (summary : κ → List α → γ) (rows : List α) : List γ :=
  (rows.map key).dedup.map fun k => summary k (rows.filter fun row => key row = k)

variable {key : α → κ} {summary : κ → List α → γ} {rows : List α}

theorem mem_groupedBy {group : γ} :
    group ∈ groupedBy key summary rows ↔
      ∃ row ∈ rows, summary (key row) (rows.filter fun other => key other = key row) = group := by
  simp only [groupedBy, List.mem_map, List.mem_dedup]
  constructor
  · rintro ⟨_, ⟨row, member, rfl⟩, rfl⟩
    exact ⟨row, member, rfl⟩
  · rintro ⟨row, member, rfl⟩
    exact ⟨key row, ⟨row, member, rfl⟩, rfl⟩

variable (key rows) in
theorem map_groupedBy (keyOf : γ → κ) (own : ∀ k members, keyOf (summary k members) = k) :
    (groupedBy key summary rows).map keyOf = (rows.map key).dedup := by
  rw [groupedBy, List.map_map]
  conv_rhs => rw [← List.map_id (rows.map key).dedup]
  apply List.map_congr_left
  intro k _
  exact own k _

end Groups

/-! ## Sorting downwards -/

section Sorting
variable {γ τ : Type} (le : τ → τ → Bool) (measure : γ → τ)

def sortDown (groups : List γ) : List γ :=
  groups.insertionSort fun a b => le (measure b) (measure a) = true

theorem sortDown_perm (groups : List γ) : (sortDown le measure groups).Perm groups :=
  List.perm_insertionSort _ _

variable {le} in
theorem TotalPreorder.sortDown_pairwise (order : TotalPreorder le) (groups : List γ) :
    (sortDown le measure groups).Pairwise fun a b => le (measure b) (measure a) = true := by
  have total : Std.Total fun a b : γ => le (measure b) (measure a) = true :=
    ⟨fun a b => order.total _ _⟩
  have trans : IsTrans γ fun a b => le (measure b) (measure a) = true :=
    ⟨fun a b c first second => order.trans _ _ _ second first⟩
  exact List.pairwise_insertionSort _ _

end Sorting

end SentryPeer.Lib
