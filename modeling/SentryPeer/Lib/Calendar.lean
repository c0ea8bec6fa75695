import Mathlib.Order.Monotone.Basic

/-!
# The Gregorian calendar

Days are counted from the first of January of the year 0, and may be negative.
-/

namespace SentryPeer.Lib

/-! ## Consecutive spans -/

/-- The span that holds the position, and the position inside it. -/
def locate : List Nat → Nat → Nat × Nat
  | [], n => (0, n)
  | size :: sizes, n =>
      if n < size then (0, n)
      else ((locate sizes (n - size)).1 + 1, (locate sizes (n - size)).2)

theorem locate_lt (sizes : List Nat) {m n : Nat} (less : m < n) :
    (locate sizes m).1 < (locate sizes n).1 ∨
      (locate sizes m).1 = (locate sizes n).1 ∧ (locate sizes m).2 < (locate sizes n).2 := by
  induction sizes generalizing m n with
  | nil => exact .inr ⟨rfl, less⟩
  | cons size sizes ih =>
      simp only [locate]
      by_cases first : m < size
      · rw [if_pos first]
        split
        · exact .inr ⟨rfl, less⟩
        · exact .inl (Nat.succ_pos _)
      · rw [if_neg first, if_neg (by omega)]
        have rest : m - size < n - size := by omega
        exact (ih rest).imp (fun earlier => Nat.succ_lt_succ earlier)
          fun same => ⟨congrArg Nat.succ same.1, same.2⟩

theorem locate_bounds {sizes : List Nat} {n bound : Nat} (inside : n < sizes.foldr (· + ·) 0)
    (small : ∀ size ∈ sizes, size ≤ bound) :
    (locate sizes n).1 < sizes.length ∧ (locate sizes n).2 < bound := by
  induction sizes generalizing n with
  | nil => cases inside
  | cons size sizes ih =>
      simp only [locate]
      split
      · rename_i first
        exact ⟨Nat.succ_pos _, lt_of_lt_of_le first (small size List.mem_cons_self)⟩
      · rw [List.foldr_cons] at inside
        have rest : n - size < sizes.foldr (· + ·) 0 := by omega
        have ⟨index, position⟩ := ih rest fun size member =>
          small size (List.mem_cons_of_mem _ member)
        exact ⟨Nat.succ_lt_succ index, position⟩

/-! ## Years -/

def isLeap (year : Int) : Bool := year % 4 = 0 ∧ (year % 100 ≠ 0 ∨ year % 400 = 0)

def daysBeforeYear (year : Int) : Int :=
  365 * year + (year + 3) / 4 - (year + 99) / 100 + (year + 399) / 400

def yearLength (year : Int) : Nat := if isLeap year then 366 else 365

theorem daysBeforeYear_succ (year : Int) :
    daysBeforeYear (year + 1) = daysBeforeYear year + yearLength year := by
  unfold daysBeforeYear yearLength isLeap
  simp only [decide_eq_true_eq]
  split <;> omega

theorem daysBeforeYear_mono {earlier later : Int} (le : earlier ≤ later) :
    daysBeforeYear earlier ≤ daysBeforeYear later := by
  unfold daysBeforeYear
  omega

-- There are 146097 days in 400 years. Inside them the division is at most one year too far.
def yearOf (day : Int) : Int :=
  let guess := 400 * (day / 146097) + day % 146097 / 365
  if daysBeforeYear guess ≤ day then guess else guess - 1

theorem yearOf_bounds (day : Int) :
    daysBeforeYear (yearOf day) ≤ day ∧ day < daysBeforeYear (yearOf day + 1) := by
  unfold yearOf
  dsimp only
  split
  · unfold daysBeforeYear at *
    omega
  · rename_i tooFar
    constructor
    · unfold daysBeforeYear
      omega
    · rw [Int.sub_add_cancel]
      exact not_le.mp tooFar

theorem yearOf_le {earlier later : Int} (less : earlier < later) : yearOf earlier ≤ yearOf later := by
  by_contra after
  have next := daysBeforeYear_mono (show yearOf later + 1 ≤ yearOf earlier by omega)
  have first := (yearOf_bounds earlier).1
  have last := (yearOf_bounds later).2
  omega

/-! ## Days of a year -/

def monthLengths (leap : Bool) : List Nat :=
  [31, if leap then 29 else 28, 31, 30, 31, 30, 31, 31, 30, 31, 30, 31]

def dayOfYear (day : Int) : Nat := (day - daysBeforeYear (yearOf day)).toNat

def monthDay (day : Int) : Nat × Nat := locate (monthLengths (isLeap (yearOf day))) (dayOfYear day)

def monthOf (day : Int) : Nat := (monthDay day).1 + 1
def dayOfMonth (day : Int) : Nat := (monthDay day).2 + 1

theorem monthLengths_total (year : Int) :
    (monthLengths (isLeap year)).foldr (· + ·) 0 = yearLength year := by
  unfold yearLength
  cases isLeap year <;> rfl

theorem dayOfYear_lt (day : Int) : dayOfYear day < yearLength (yearOf day) := by
  have bounds := yearOf_bounds day
  have next := daysBeforeYear_succ (yearOf day)
  unfold dayOfYear
  omega

theorem monthDay_bounds (day : Int) : monthOf day ≤ 12 ∧ dayOfMonth day ≤ 31 := by
  have inside : dayOfYear day < (monthLengths (isLeap (yearOf day))).foldr (· + ·) 0 := by
    rw [monthLengths_total]
    exact dayOfYear_lt day
  have small : ∀ size ∈ monthLengths (isLeap (yearOf day)), size ≤ 31 := by
    cases isLeap (yearOf day) <;> decide
  exact locate_bounds inside small

theorem date_lt {earlier later : Int} (less : earlier < later) :
    yearOf earlier < yearOf later ∨ yearOf earlier = yearOf later ∧
      (monthOf earlier < monthOf later ∨ monthOf earlier = monthOf later ∧
        dayOfMonth earlier < dayOfMonth later) := by
  rcases lt_or_eq_of_le (yearOf_le less) with before | same
  · exact .inl before
  · have inYear : dayOfYear earlier < dayOfYear later := by
      have first := (yearOf_bounds earlier).1
      unfold dayOfYear
      rw [← same]
      omega
    have located := locate_lt (monthLengths (isLeap (yearOf earlier))) inYear
    unfold monthOf dayOfMonth monthDay
    rw [← same]
    omega

-- 1970-01-01, 2000-02-29 and 2000-03-01
example : (yearOf 719528, monthDay 719528) = (1970, 0, 0) := by decide
example : (yearOf 730544, monthDay 730544) = (2000, 1, 28) := by decide
example : (yearOf 730545, monthDay 730545) = (2000, 2, 0) := by decide

end SentryPeer.Lib
