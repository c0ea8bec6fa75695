import SentryPeer.Lib.Text
import Mathlib.Tactic.Ring

/-!
# The order of byte strings

The lexicographic order of numerals: that of the numbers, where both are written with as many digits,
and else that of the shorter one extended by zeros.
-/

namespace SentryPeer.Lib

theorem append_lt_append_iff {a b : List UInt8} (same : a.length = b.length) (x y : List UInt8) :
    a ++ x < b ++ y ↔ a < b ∨ a = b ∧ x < y := by
  induction a generalizing b with
  | nil =>
      rw [List.eq_nil_of_length_eq_zero same.symm]
      simp
  | cons c a ih =>
      cases b with
      | nil => cases same
      | cons d b =>
          rw [List.cons_append, List.cons_append, List.cons_lt_cons_iff, List.cons_lt_cons_iff,
            ih (Nat.succ.inj same), List.cons.injEq]
          tauto

/-! ## Numerals -/

def Digits (text : List UInt8) : Prop := ∀ b ∈ text, isDigit b = true

theorem Digits.head {b : UInt8} {text : List UInt8} (digits : Digits (b :: text)) :
    48 ≤ b.toNat ∧ b.toNat ≤ 57 :=
  isDigit_bounds (digits b List.mem_cons_self)

theorem Digits.tail {b : UInt8} {text : List UInt8} (digits : Digits (b :: text)) : Digits text :=
  fun c member => digits c (List.mem_cons_of_mem b member)

theorem digitsValue_cons (b : UInt8) (text : List UInt8) :
    digitsValue (b :: text) = (b.toNat - 48) * 10 ^ text.length + digitsValue text := by
  have general (start : Nat) : text.foldl (fun n b => 10 * n + (b.toNat - 48)) start =
      start * 10 ^ text.length + digitsValue text := by
    unfold digitsValue
    induction text generalizing start with
    | nil => simp
    | cons c text ih =>
        rw [List.foldl_cons, List.foldl_cons, ih, ih (10 * 0 + (c.toNat - 48)), List.length_cons]
        ring
  show text.foldl _ (10 * 0 + (b.toNat - 48)) = _
  rw [general, Nat.mul_zero, Nat.zero_add]

theorem digitsValue_lt {text : List UInt8} (digits : Digits text) :
    digitsValue text < 10 ^ text.length := by
  induction text with
  | nil => exact Nat.one_pos
  | cons b text ih =>
      have head := digits.head
      have rest := ih digits.tail
      have scaled := Nat.mul_le_mul_right (10 ^ text.length) (show b.toNat - 48 ≤ 9 by omega)
      rw [digitsValue_cons, List.length_cons, pow_succ]
      omega

/-- Two numbers of a leading digit and a rest that is below its weight. -/
theorem leading_le_iff {p q m n weight : Nat} (smallM : m < weight) (smallN : n < weight) :
    p * weight + m ≤ q * weight + n ↔ p < q ∨ p = q ∧ m ≤ n := by
  rcases Nat.lt_trichotomy p q with less | same | more
  · have step := Nat.mul_le_mul_right weight (Nat.succ_le_of_lt less)
    rw [Nat.succ_mul] at step
    omega
  · rw [same]
    omega
  · have step := Nat.mul_le_mul_right weight (Nat.succ_le_of_lt more)
    rw [Nat.succ_mul] at step
    omega

/-- The shorter numeral is compared as if zeros followed it. -/
theorem digits_lt_iff {a b : List UInt8} (digitsA : Digits a) (digitsB : Digits b)
    (le : a.length ≤ b.length) :
    a < b ↔ digitsValue a * 10 ^ (b.length - a.length) ≤ digitsValue b ∧ a ≠ b := by
  induction a generalizing b with
  | nil =>
      cases b with
      | nil => simp
      | cons y b => simp [digitsValue]
  | cons x a ih =>
      cases b with
      | nil => cases le
      | cons y b =>
          have le : a.length ≤ b.length := Nat.le_of_succ_le_succ le
          have widths : 10 ^ a.length * 10 ^ (b.length - a.length) = 10 ^ b.length := by
            rw [← pow_add, Nat.add_sub_cancel' le]
          have below : digitsValue a * 10 ^ (b.length - a.length) < 10 ^ b.length := by
            rw [← widths]
            exact Nat.mul_lt_mul_of_pos_right (digitsValue_lt digitsA.tail) (Nat.pow_pos (by decide))
          have headA := digitsA.head
          have headB := digitsB.head
          have less : x < y ↔ x.toNat - 48 < y.toNat - 48 := by
            rw [UInt8.lt_iff_toNat_lt]
            omega
          have same : x = y ↔ x.toNat - 48 = y.toNat - 48 := by
            rw [← UInt8.toNat_inj]
            omega
          have differ : x :: a ≠ y :: b ↔ ¬ (x.toNat - 48 = y.toNat - 48 ∧ a = b) := by
            rw [ne_eq, List.cons.injEq, same]
          have apart : x.toNat - 48 < y.toNat - 48 → x.toNat - 48 ≠ y.toNat - 48 := ne_of_lt
          rw [List.cons_lt_cons_iff, ih digitsA.tail digitsB.tail le, digitsValue_cons,
            digitsValue_cons, List.length_cons, List.length_cons, Nat.add_sub_add_right,
            Nat.add_mul, Nat.mul_assoc, widths, leading_le_iff below (digitsValue_lt digitsB.tail),
            differ, less, same]
          constructor
          · rintro (first | ⟨equal, least, other⟩)
            · exact ⟨.inl first, fun both => apart first both.1⟩
            · exact ⟨.inr ⟨equal, least⟩, fun both => other both.2⟩
          · rintro ⟨first | ⟨equal, least⟩, other⟩
            · exact .inl first
            · exact .inr ⟨equal, least, fun rest => other ⟨equal, rest⟩⟩

theorem length_decimal_le_iff {n width : Nat} (positive : 0 < width) :
    (decimal n).length ≤ width ↔ n < 10 ^ width := by
  rw [decimal, ascii, List.length_map]
  exact Nat.length_toDigits_le_iff (by decide) positive

end SentryPeer.Lib
