import Mathlib.Data.List.TakeWhile

/-!
# C strings and UTF-8

A `CStr` is what a non-null `char *` points to: bytes up to, and without, the terminator.
-/

namespace SentryPeer.Lib

def ascii (chars : List Char) : List UInt8 := chars.map fun c => UInt8.ofNat c.toNat

structure CStr where
  bytes : List UInt8
  noNul : 0 ∉ bytes
deriving DecidableEq

namespace CStr

theorem ext_bytes {s t : CStr} (equal : s.bytes = t.bytes) : s = t := by
  cases s; cases t; cases equal; rfl

def length (s : CStr) : Nat := s.bytes.length

/-- What a C function reads from memory: the bytes before the first zero. -/
def ofMemory (memory : List UInt8) : CStr where
  bytes := memory.takeWhile (· != 0)
  noNul member := by simpa using List.mem_takeWhile_imp member

def lit (text : String) : CStr := .ofMemory (ascii text.toList)

theorem bytes_ofMemory {memory : List UInt8} (absent : 0 ∉ memory) :
    (ofMemory memory).bytes = memory := by
  apply List.takeWhile_eq_self_iff.mpr
  intro b member
  rw [bne_iff_ne]
  rintro rfl
  exact absent member

@[simp] theorem ofMemory_bytes (s : CStr) : ofMemory s.bytes = s := by
  apply ext_bytes
  exact bytes_ofMemory s.noNul

def stored (s : CStr) : List UInt8 := s.bytes ++ [0]

end CStr

/-- The position of the first zero byte; `none` when a scan would leave the memory. -/
def strlen (memory : List UInt8) : Option Nat := memory.findIdx? (· == 0)

theorem strlen_eq_none {memory : List UInt8} : strlen memory = none ↔ 0 ∉ memory := by
  simp only [strlen, List.findIdx?_eq_none_iff, beq_eq_false_iff_ne]
  exact ⟨fun all member => all 0 member rfl, fun absent x member zero => absent (zero ▸ member)⟩

/-! ## UTF-8 -/

def utf8Lead (b : UInt8) : Option (Nat × UInt8 × UInt8) :=
  if b < 0x80 then some (0, 0x80, 0xBF)
  else if b < 0xC2 then none
  else if b < 0xE0 then some (1, 0x80, 0xBF)
  else if b = 0xE0 then some (2, 0xA0, 0xBF)
  else if b = 0xED then some (2, 0x80, 0x9F)
  else if b < 0xF0 then some (2, 0x80, 0xBF)
  else if b = 0xF0 then some (3, 0x90, 0xBF)
  else if b < 0xF4 then some (3, 0x80, 0xBF)
  else if b = 0xF4 then some (3, 0x80, 0x8F)
  else none

/-- The well-formed sequences, read from inside a character of which `n` bytes are missing. -/
def utf8From : Nat → UInt8 → UInt8 → List UInt8 → Bool
  | 0, _, _, [] => true
  | _ + 1, _, _, [] => false
  | 0, _, _, b :: bs =>
      match utf8Lead b with
      | none => false
      | some (n, low, high) => utf8From n low high bs
  | n + 1, low, high, b :: bs => low ≤ b && b ≤ high && utf8From n 0x80 0xBF bs

def validUtf8 (bytes : List UInt8) : Bool := utf8From 0 0x80 0xBF bytes

example : validUtf8 [0x61, 0xC3, 0xA9, 0xF0, 0x9F, 0x98, 0x80] = true := by decide
example : validUtf8 [0x61, 0xFF] = false := by decide
example : validUtf8 [0xED, 0xA0, 0x80] = false := by decide

-- U+FFFD
def replacement : List UInt8 := [0xEF, 0xBF, 0xBD]

-- Each maximal part of a character that cannot be continued becomes one replacement; `pending` are
-- the bytes of the character being read.
def lossyFrom (pending : List UInt8) : Nat → UInt8 → UInt8 → List UInt8 → List UInt8
  | 0, _, _, [] => []
  | _ + 1, _, _, [] => replacement
  | 0, _, _, b :: bs =>
      match utf8Lead b with
      | none => replacement ++ lossyFrom [] 0 0x80 0xBF bs
      | some (0, _, _) => b :: lossyFrom [] 0 0x80 0xBF bs
      | some (n + 1, low, high) => lossyFrom [b] (n + 1) low high bs
  | n + 1, low, high, b :: bs =>
      if low ≤ b && b ≤ high then
        if n = 0 then pending ++ b :: lossyFrom [] 0 0x80 0xBF bs
        else lossyFrom (pending ++ [b]) n 0x80 0xBF bs
      else
        match utf8Lead b with
        | none => replacement ++ replacement ++ lossyFrom [] 0 0x80 0xBF bs
        | some (0, _, _) => replacement ++ b :: lossyFrom [] 0 0x80 0xBF bs
        | some (n + 1, low, high) => replacement ++ lossyFrom [b] (n + 1) low high bs

def fromUtf8Lossy (bytes : List UInt8) : List UInt8 := lossyFrom [] 0 0x80 0xBF bytes

example : fromUtf8Lossy [0x61, 0xE0, 0x80, 0xC3, 0xA9] =
    0x61 :: replacement ++ replacement ++ [0xC3, 0xA9] := by decide

/-! ## Numerals -/

def isHexDigit (b : UInt8) : Bool :=
  (48 ≤ b && b ≤ 57) || (65 ≤ b && b ≤ 70) || (97 ≤ b && b ≤ 102)

def isDigit (b : UInt8) : Bool := 48 ≤ b && b ≤ 57

theorem isDigit_bounds {b : UInt8} (digit : isDigit b = true) : 48 ≤ b.toNat ∧ b.toNat ≤ 57 := by
  simpa [isDigit, UInt8.le_iff_toNat_le] using digit

def decimal (n : Nat) : List UInt8 := ascii (Nat.toDigits 10 n)

theorem ascii_injective_of_small {a b : List Char} (small : ∀ c ∈ a ++ b, c.toNat < 256)
    (equal : ascii a = ascii b) : a = b := by
  induction a generalizing b with
  | nil => cases b <;> simp_all [ascii]
  | cons c cs ih =>
      cases b with
      | nil => simp [ascii] at equal
      | cons d ds =>
          simp only [ascii, List.map_cons, List.cons.injEq] at equal
          have hc := small c (by simp)
          have hd := small d (by simp)
          have same : c.toNat = d.toNat := by
            have := congrArg UInt8.toNat equal.1
            simpa [UInt8.toNat_ofNat', Nat.mod_eq_of_lt, hc, hd] using this
          rw [Char.toNat_inj.mp same, ih (fun x hx => small x ?_) equal.2]
          rcases List.mem_append.mp hx with h | h <;> simp [h]

theorem digit_small {c : Char} (digit : c.isDigit = true) : 48 ≤ c.toNat ∧ c.toNat ≤ 57 := by
  simp only [Char.isDigit, Bool.and_eq_true, decide_eq_true_eq, ge_iff_le,
    UInt32.le_iff_toNat_le] at digit
  exact digit

theorem mem_decimal {n : Nat} {b : UInt8} (member : b ∈ decimal n) : 48 ≤ b ∧ b ≤ 57 := by
  obtain ⟨c, hc, rfl⟩ := List.mem_map.mp member
  have bound := digit_small (Nat.isDigit_of_mem_toDigits (by decide) (by decide) hc)
  simp only [UInt8.le_iff_toNat_le, UInt8.toNat_ofNat']
  rw [Nat.mod_eq_of_lt (by omega)]
  exact bound

theorem decimal_injective : Function.Injective decimal := by
  intro m n equal
  have same : Nat.toDigits 10 m = Nat.toDigits 10 n := by
    apply ascii_injective_of_small _ equal
    intro c hc
    have digit : c.isDigit = true := by
      rcases List.mem_append.mp hc with h | h <;>
        exact Nat.isDigit_of_mem_toDigits (by decide) (by decide) h
    have := digit_small digit
    omega
  rw [← Nat.ofDigitChars_ten_toDigits (n := m), same, Nat.ofDigitChars_ten_toDigits]

def digitsValue (digits : List UInt8) : Nat := digits.foldl (fun n b => 10 * n + (b.toNat - 48)) 0

theorem digitsValue_decimal (n : Nat) : digitsValue (decimal n) = n := by
  have general (chars : List Char) (small : ∀ c ∈ chars, c.toNat < 256) (start : Nat) :
      (ascii chars).foldl (fun n b => 10 * n + (b.toNat - 48)) start =
        Nat.ofDigitChars 10 chars start := by
    induction chars generalizing start with
    | nil => simp [ascii]
    | cons c rest ih =>
        have byte : (UInt8.ofNat c.toNat).toNat = c.toNat := by
          rw [UInt8.toNat_ofNat', Nat.mod_eq_of_lt (small c List.mem_cons_self)]
        rw [Nat.ofDigitChars_cons, ← ih fun d member => small d (List.mem_cons_of_mem c member)]
        simp only [ascii, List.map_cons, List.foldl_cons, byte]
        rfl
  rw [digitsValue, decimal, general, Nat.ofDigitChars_ten_toDigits]
  intro c member
  have bound := digit_small (Nat.isDigit_of_mem_toDigits (by decide) (by decide) member)
  omega

theorem isDigit_decimal {n : Nat} {b : UInt8} (member : b ∈ decimal n) : isDigit b = true := by
  have bound := mem_decimal member
  simp [isDigit, bound.1, bound.2]

theorem isHexDigit_decimal {n : Nat} {b : UInt8} (member : b ∈ decimal n) : isHexDigit b = true := by
  have bound := mem_decimal member
  simp [isHexDigit, bound.1, bound.2]

/-! ## ASCII -/

def Plain (text : List UInt8) : Prop := ∀ b ∈ text, b ≠ 0 ∧ b < 0x80

instance (text : List UInt8) : Decidable (Plain text) :=
  decidable_of_iff ((text.all fun b => b != 0 && decide (b < 0x80)) = true) (by simp [Plain])

theorem Plain.noNul {text : List UInt8} (plain : Plain text) : 0 ∉ text :=
  fun zero => (plain 0 zero).1 rfl

theorem Plain.mono {a b : List UInt8} (plain : Plain b) (part : a ⊆ b) : Plain a :=
  fun byte member => plain byte (part member)

theorem Plain.append {a b : List UInt8} (first : Plain a) (second : Plain b) : Plain (a ++ b) := by
  intro byte member
  rcases List.mem_append.mp member with left | right
  · exact first byte left
  · exact second byte right

theorem Plain.cons {b : UInt8} {text : List UInt8} (first : b ≠ 0 ∧ b < 0x80) (rest : Plain text) :
    Plain (b :: text) :=
  List.forall_mem_cons.mpr ⟨first, rest⟩

theorem Plain.validUtf8 {text : List UInt8} (plain : Plain text) : validUtf8 text = true := by
  have walk (low high : UInt8) : utf8From 0 low high text = true := by
    induction text generalizing low high with
    | nil => rfl
    | cons b rest ih =>
        have lead : utf8Lead b = some (0, 0x80, 0xBF) := if_pos (plain b List.mem_cons_self).2
        simp only [utf8From, lead]
        exact ih (plain.mono (List.subset_cons_self b rest)) 0x80 0xBF
  exact walk 0x80 0xBF

theorem plain_of_hexDigits {text : List UInt8} (digits : ∀ b ∈ text, isHexDigit b = true) :
    Plain text := by
  intro b member
  have digit := digits b member
  simp only [isHexDigit, Bool.or_eq_true, Bool.and_eq_true, decide_eq_true_eq, UInt8.le_iff_toNat_le]
    at digit
  constructor
  · rintro rfl
    revert digit
    decide
  · rw [UInt8.lt_iff_toNat_lt]
    change b.toNat < 128
    have values : (70 : UInt8).toNat = 70 ∧ (102 : UInt8).toNat = 102 ∧ (57 : UInt8).toNat = 57 := by
      decide
    omega

theorem decimal_plain (n : Nat) : Plain (decimal n) := plain_of_hexDigits fun _ => isHexDigit_decimal

end SentryPeer.Lib
