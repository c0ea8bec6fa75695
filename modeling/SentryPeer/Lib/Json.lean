import SentryPeer.Lib.Text

/-!
# JSON values

The text of a string is its UTF-8 encoding. Objects are read by key, so two objects that only differ
in the order of their members are the same.
-/

namespace SentryPeer.Lib

inductive Json
  | null
  | bool (value : Bool)
  | number (text : List UInt8)
  | string (text : List UInt8)
  | array (elements : List Json)
  | object (members : List (String × Json))

namespace Json

def get? (json : Json) (key : String) : Option Json :=
  match json with
  | .object members => members.lookup key
  | _ => none

def SameObject (a b : Json) : Prop := ∀ key, a.get? key = b.get? key

def isString : Json → Bool
  | .string _ => true
  | _ => false

def isObject : Json → Bool
  | .object _ => true
  | _ => false

end Json

section Lookup
variable {κ α : Type} [DecidableEq κ]

theorem lookup_eq_some_of_mem {members : List (κ × α)} (distinct : (members.map Prod.fst).Nodup)
    {key : κ} {value : α} (member : (key, value) ∈ members) : members.lookup key = some value := by
  induction members with
  | nil => cases member
  | cons head rest ih =>
      obtain ⟨k, v⟩ := head
      simp only [List.map_cons, List.nodup_cons] at distinct
      rcases List.mem_cons.mp member with equal | later
      · cases equal
        simp
      · have other : key ≠ k := by
          rintro rfl
          exact distinct.1 (List.mem_map.mpr ⟨_, later, rfl⟩)
        rw [List.lookup_cons, beq_false_of_ne other]
        exact ih distinct.2 later

theorem mem_of_lookup_eq_some {members : List (κ × α)} {key : κ} {value : α}
    (found : members.lookup key = some value) : (key, value) ∈ members := by
  obtain ⟨before, after, rfl, -⟩ := List.lookup_eq_some_iff.mp found
  simp

theorem lookup_eq_of_perm {a b : List (κ × α)} (same : a.Perm b)
    (distinct : (a.map Prod.fst).Nodup) (key : κ) : a.lookup key = b.lookup key := by
  apply Option.ext
  intro value
  constructor
  · intro found
    exact lookup_eq_some_of_mem ((same.map Prod.fst).nodup_iff.mp distinct)
      (same.subset (mem_of_lookup_eq_some found))
  · intro found
    exact lookup_eq_some_of_mem distinct (same.symm.subset (mem_of_lookup_eq_some found))

theorem lookup_map_snd {β : Type} (f : α → β) (members : List (κ × α)) (key : κ) :
    (members.map fun member => (member.1, f member.2)).lookup key = (members.lookup key).map f := by
  induction members with
  | nil => rfl
  | cons head rest ih =>
      obtain ⟨k, v⟩ := head
      simp only [List.map_cons, List.lookup_cons]
      split <;> simp_all

end Lookup

end SentryPeer.Lib
