import SentryPeer.Lib.Text

/-!
# Lossy decoding

A lossy decoding keeps the characters and replaces what is between them, one part of at most three
bytes after the other. So the text is never shorter than the bytes, and has a zero byte exactly if
they have one.
-/

namespace SentryPeer.Lib

theorem utf8Lead_some {b low high : UInt8} {n : Nat} (lead : utf8Lead b = some (n, low, high)) :
    n ≤ 3 ∧ 0x80 ≤ low := by
  unfold utf8Lead at lead
  split_ifs at lead <;> cases lead <;> decide

theorem utf8Lead_zero : utf8Lead 0 = some (0, 0x80, 0xBF) := by decide

/-- The bytes and the text that is made of them. -/
inductive Lossy : List UInt8 → List UInt8 → Prop
  | nil : Lossy [] []
  | keep {bytes text : List UInt8} (char : List UInt8) (rest : Lossy bytes text) :
      Lossy (char ++ bytes) (char ++ text)
  | replace {bytes text : List UInt8} (part : List UInt8) (few : part.length ≤ 3)
      (noNul : 0 ∉ part) (rest : Lossy bytes text) :
      Lossy (part ++ bytes) (replacement ++ text)

theorem Lossy.length_le {bytes text : List UInt8} (lossy : Lossy bytes text) :
    bytes.length ≤ text.length := by
  induction lossy with
  | nil => exact le_rfl
  | keep char _ ih =>
      simp only [List.length_append]
      omega
  | replace part few _ _ ih =>
      simp only [List.length_append, replacement, List.length_cons, List.length_nil]
      omega

theorem Lossy.zero_mem_iff {bytes text : List UInt8} (lossy : Lossy bytes text) :
    0 ∈ text ↔ 0 ∈ bytes := by
  induction lossy with
  | nil => rfl
  | keep char _ ih => simp only [List.mem_append, ih]
  | replace part _ noNul _ ih =>
      have kept : (0 : UInt8) ∉ replacement := by decide
      simp only [List.mem_append, ih, kept, noNul]

/-- The bytes of a character that is being read, with this many missing. -/
structure Pending (pending : List UInt8) (n : Nat) (low : UInt8) : Prop where
  few : pending.length + n ≤ 4
  between : n = 0 → pending = []
  least : 0x80 ≤ low
  noNul : 0 ∉ pending

theorem Pending.start : Pending [] 0 0x80 := ⟨by decide, fun _ => rfl, by decide, List.not_mem_nil⟩

section Pending
variable {pending : List UInt8} {n : Nat} {low high b : UInt8}

theorem Pending.lead (lead : utf8Lead b = some (n + 1, low, high)) : Pending [b] (n + 1) low := by
  obtain ⟨few, least⟩ := utf8Lead_some lead
  refine ⟨by simp only [List.length_singleton]; omega, by simp, least, ?_⟩
  rw [List.mem_singleton]
  rintro rfl
  rw [utf8Lead_zero] at lead
  cases lead

theorem Pending.next (given : Pending pending (n + 1) low) (above : low ≤ b) (more : n ≠ 0) :
    Pending (pending ++ [b]) n 0x80 where
  few := by
    have bound := given.few
    simp only [List.length_append, List.length_singleton]
    omega
  between none := absurd none more
  least := by decide
  noNul member := by
    rcases List.mem_append.mp member with inside | last
    · exact given.noNul inside
    · rw [← List.mem_singleton.mp last] at above
      exact absurd (UInt8.le_trans given.least above) (by decide)

theorem Pending.part (given : Pending pending (n + 1) low) : pending.length ≤ 3 := by
  have bound := given.few
  omega

theorem Lossy.byte {bytes text : List UInt8} (lead : utf8Lead b = none) (rest : Lossy bytes text) :
    Lossy (b :: bytes) (replacement ++ text) := by
  refine .replace [b] (by simp) ?_ rest
  rw [List.mem_singleton]
  rintro rfl
  rw [utf8Lead_zero] at lead
  cases lead

theorem lossy_lossyFrom {bs : List UInt8} (given : Pending pending n low) :
    Lossy (pending ++ bs) (lossyFrom pending n low high bs) := by
  induction bs generalizing pending n low high with
  | nil =>
      cases n with
      | zero =>
          rw [given.between rfl]
          exact .nil
      | succ n => exact .replace pending given.part given.noNul .nil
  | cons b bs ih =>
      have restart : Lossy bs (lossyFrom [] 0 0x80 0xBF bs) := ih Pending.start
      cases n with
      | zero =>
          rw [given.between rfl, lossyFrom]
          split
          · rename_i lead
            exact .byte lead restart
          · exact .keep [b] restart
          · rename_i lead
            exact ih (Pending.lead lead)
      | succ n =>
          rw [lossyFrom]
          split
          · rename_i inRange
            simp only [Bool.and_eq_true, decide_eq_true_eq] at inRange
            split
            · have kept := Lossy.keep (pending ++ [b]) restart
              simpa using kept
            · rename_i more
              have later : Lossy (pending ++ [b] ++ bs)
                  (lossyFrom (pending ++ [b]) n 0x80 0xBF bs) := ih (given.next inRange.1 more)
              simpa using later
          · -- the character ends here, and its bytes so far are one part
            split
            · rename_i lead
              rw [List.append_assoc]
              exact .replace pending given.part given.noNul (.byte lead restart)
            · exact .replace pending given.part given.noNul (.keep [b] restart)
            · rename_i lead
              exact .replace pending given.part given.noNul (ih (Pending.lead lead))

end Pending

theorem lossy_fromUtf8Lossy (bytes : List UInt8) : Lossy bytes (fromUtf8Lossy bytes) :=
  lossy_lossyFrom Pending.start

theorem lossyFrom_valid {pending bs : List UInt8} {n : Nat} {low high : UInt8}
    (between : n = 0 → pending = []) (valid : utf8From n low high bs = true) :
    lossyFrom pending n low high bs = pending ++ bs := by
  induction bs generalizing pending n low high with
  | nil =>
      cases n with
      | zero =>
          rw [between rfl]
          rfl
      | succ n => cases valid
  | cons b bs ih =>
      cases n with
      | zero =>
          rw [between rfl]
          simp only [utf8From] at valid
          rw [lossyFrom]
          split at valid
          · cases valid
          · rename_i m low high lead
            cases m with
            | zero =>
                have restart : utf8From 0 0x80 0xBF bs = true := by cases bs <;> exact valid
                simp only [lead]
                rw [ih (fun _ => rfl) restart]
                rfl
            | succ m =>
                simp only [lead]
                exact ih (by simp) valid
      | succ n =>
          simp only [utf8From, Bool.and_eq_true] at valid
          obtain ⟨inRange, valid⟩ := valid
          rw [lossyFrom, if_pos (by simpa using inRange)]
          split
          · rename_i last
            subst last
            rw [ih (fun _ => rfl) valid]
            rfl
          · rename_i more
            rw [ih (fun none => absurd none more) valid]
            simp

theorem fromUtf8Lossy_valid {bytes : List UInt8} (valid : validUtf8 bytes = true) :
    fromUtf8Lossy bytes = bytes :=
  lossyFrom_valid (fun _ => rfl) valid

end SentryPeer.Lib
