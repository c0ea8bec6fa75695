import SentryPeer.Lib.Json
import Mathlib.Data.List.Sort

/-!
# The text of flat JSON objects

Printing and reading of objects whose members are strings, without white space. Printers agree on
the short escapes and differ in the letter case of `\u00xx`, which the reader takes in both.
-/

namespace SentryPeer.Lib

def hexDigit (upper : Bool) (digit : Nat) : UInt8 :=
  UInt8.ofNat (if digit < 10 then 48 + digit else if upper then 55 + digit else 87 + digit)

def hexValue (b : UInt8) : Option Nat :=
  if 48 ≤ b ∧ b ≤ 57 then some (b.toNat - 48)
  else if 65 ≤ b ∧ b ≤ 70 then some (b.toNat - 55)
  else if 97 ≤ b ∧ b ≤ 102 then some (b.toNat - 87)
  else none

theorem hexValue_hexDigit (upper : Bool) {digit : Nat} (small : digit < 16) :
    hexValue (hexDigit upper digit) = some digit := by
  have table : ∀ upper, ∀ digit < 16, hexValue (hexDigit upper digit) = some digit := by decide
  exact table upper digit small

def shortEscape (b : UInt8) : Option UInt8 :=
  if b = 0x22 then some 0x22
  else if b = 0x5C then some 0x5C
  else if b = 0x08 then some 0x62
  else if b = 0x0C then some 0x66
  else if b = 0x0A then some 0x6E
  else if b = 0x0D then some 0x72
  else if b = 0x09 then some 0x74
  else none

def shortUnescape (b : UInt8) : Option UInt8 :=
  if b = 0x22 then some 0x22
  else if b = 0x5C then some 0x5C
  else if b = 0x62 then some 0x08
  else if b = 0x66 then some 0x0C
  else if b = 0x6E then some 0x0A
  else if b = 0x72 then some 0x0D
  else if b = 0x74 then some 0x09
  else none

def escapeByte (upper : Bool) (b : UInt8) : List UInt8 :=
  match shortEscape b with
  | some letter => [0x5C, letter]
  | none =>
      if b < 0x20 then
        [0x5C, 0x75, 0x30, 0x30, hexDigit upper (b.toNat / 16), hexDigit upper (b.toNat % 16)]
      else [b]

def printString (upper : Bool) (text : List UInt8) : List UInt8 :=
  0x22 :: (text.flatMap (escapeByte upper) ++ [0x22])

def readChars : List UInt8 → Option (List UInt8 × List UInt8)
  | [] => none
  | b :: rest =>
      if b = 0x22 then some ([], rest)
      else if b = 0x5C then
        match rest with
        | e :: x :: y :: high :: low :: after =>
            if e = 0x75 then
              if x = 0x30 ∧ y = 0x30 then
                match hexValue high, hexValue low with
                | some h, some l =>
                    if h < 8 then
                      (readChars after).map fun read => (UInt8.ofNat (16 * h + l) :: read.1, read.2)
                    else none
                | _, _ => none
              else none
            else (shortUnescape e).bind fun c =>
              (readChars (x :: y :: high :: low :: after)).map fun read => (c :: read.1, read.2)
        | e :: after => (shortUnescape e).bind fun c =>
            (readChars after).map fun read => (c :: read.1, read.2)
        | [] => none
      else if b < 0x20 then none
      else (readChars rest).map fun read => (b :: read.1, read.2)

def readString : List UInt8 → Option (List UInt8 × List UInt8)
  | b :: rest => if b = 0x22 then readChars rest else none
  | [] => none

theorem shortUnescape_shortEscape {b letter : UInt8} (short : shortEscape b = some letter) :
    shortUnescape letter = some b ∧ letter ≠ 0x75 := by
  unfold shortEscape at short
  split_ifs at short <;> cases short <;> simp_all [shortUnescape]

theorem readChars_short {b e c : UInt8} (slash : b = 0x5C) (letter : e ≠ 0x75)
    (short : shortUnescape e = some c) (rest : List UInt8) :
    readChars (b :: e :: rest) = (readChars rest).map fun read => (c :: read.1, read.2) := by
  subst slash
  rcases rest with _ | ⟨x, _ | ⟨y, _ | ⟨high, _ | ⟨low, after⟩⟩⟩⟩ <;>
    simp [readChars, short, letter]

/-! ## Encodings -/

/-- One of the ways that RFC 8259 has to write the bytes of a string; what is not ASCII is written as
it is. -/
inductive EncodesChars : List UInt8 → List UInt8 → Prop
  | nil : EncodesChars [] []
  | plain {b : UInt8} {text chars : List UInt8} (printable : ¬ b < 0x20)
      (unescaped : b ≠ 0x22 ∧ b ≠ 0x5C) (rest : EncodesChars text chars) :
      EncodesChars (b :: text) (b :: chars)
  | short {b letter : UInt8} {text chars : List UInt8} (short : shortUnescape letter = some b)
      (rest : EncodesChars text chars) : EncodesChars (b :: text) (0x5C :: letter :: chars)
  | unicode {b high low : UInt8} {h l : Nat} {text chars : List UInt8}
      (highDigit : hexValue high = some h) (lowDigit : hexValue low = some l) (small : h < 8)
      (value : b = UInt8.ofNat (16 * h + l)) (rest : EncodesChars text chars) :
      EncodesChars (b :: text) (0x5C :: 0x75 :: 0x30 :: 0x30 :: high :: low :: chars)

def quoted (chars : List UInt8) : List UInt8 := 0x22 :: (chars ++ [0x22])

def memberText (key value : List UInt8) : List UInt8 := quoted key ++ 0x3A :: quoted value

inductive EncodesMembers : List (List UInt8 × List UInt8) → List UInt8 → Prop
  | last {member : List UInt8 × List UInt8} {key value : List UInt8}
      (encodesKey : EncodesChars member.1 key) (encodesValue : EncodesChars member.2 value) :
      EncodesMembers [member] (memberText key value ++ [0x7D])
  | more {member : List UInt8 × List UInt8} {key value : List UInt8}
      {members : List (List UInt8 × List UInt8)} {text : List UInt8}
      (encodesKey : EncodesChars member.1 key) (encodesValue : EncodesChars member.2 value)
      (rest : EncodesMembers members text) :
      EncodesMembers (member :: members) (memberText key value ++ 0x2C :: text)

theorem escapeByte_encodes (upper : Bool) (b : UInt8) {text chars : List UInt8}
    (rest : EncodesChars text chars) : EncodesChars (b :: text) (escapeByte upper b ++ chars) := by
  unfold escapeByte
  cases short : shortEscape b with
  | some letter => exact .short (shortUnescape_shortEscape short).1 rest
  | none =>
      by_cases control : b < 0x20
      · have small : b.toNat < 32 := by simpa [UInt8.lt_iff_toNat_lt] using control
        have value : b = UInt8.ofNat (16 * (b.toNat / 16) + b.toNat % 16) := by
          rw [Nat.div_add_mod]
          simp
        rw [if_pos control]
        exact .unicode (hexValue_hexDigit upper (by omega)) (hexValue_hexDigit upper (by omega))
          (by omega) value rest
      · have unescaped : b ≠ 0x22 ∧ b ≠ 0x5C := by
          constructor <;> rintro rfl <;> cases short
        rw [if_neg control]
        exact .plain control unescaped rest

theorem flatMap_escapeByte_encodes (upper : Bool) (text : List UInt8) :
    EncodesChars text (text.flatMap (escapeByte upper)) := by
  induction text with
  | nil => exact .nil
  | cons b bs ih =>
      rw [List.flatMap_cons]
      exact escapeByte_encodes upper b ih

theorem readChars_encodes {text chars : List UInt8} (encodes : EncodesChars text chars)
    (rest : List UInt8) : readChars (chars ++ 0x22 :: rest) = some (text, rest) := by
  induction encodes with
  | nil =>
      rw [List.nil_append, readChars.eq_def]
      simp
  | plain printable unescaped _ ih =>
      rw [List.cons_append, readChars.eq_def]
      simp [printable, unescaped.1, unescaped.2, ih]
  | @short b letter _ _ short _ ih =>
      have other : letter ≠ 0x75 := by
        rintro rfl
        cases short
      rw [List.cons_append, List.cons_append, readChars_short rfl other short, ih]
      rfl
  | unicode highDigit lowDigit small value _ ih =>
      rw [value]
      simp only [List.cons_append]
      rw [readChars.eq_def]
      simp [highDigit, lowDigit, small, ih]

theorem readString_quoted {text chars : List UInt8} (encodes : EncodesChars text chars)
    (rest : List UInt8) : readString (quoted chars ++ rest) = some (text, rest) := by
  simpa [readString, quoted] using readChars_encodes encodes rest

/-! ## Members -/

def printMember (upper : Bool) (member : List UInt8 × List UInt8) : List UInt8 :=
  printString upper member.1 ++ 0x3A :: printString upper member.2

def printMembers (upper : Bool) : List (List UInt8 × List UInt8) → List UInt8
  | [] => [0x7D]
  | [member] => printMember upper member ++ [0x7D]
  | member :: more => printMember upper member ++ 0x2C :: printMembers upper more

theorem length_le_flatMap_escapeByte (upper : Bool) (text : List UInt8) :
    text.length ≤ (text.flatMap (escapeByte upper)).length := by
  induction text with
  | nil => exact le_rfl
  | cons b rest ih =>
      have some_ : 1 ≤ (escapeByte upper b).length := by
        unfold escapeByte
        split
        · simp
        · split_ifs <;> simp
      rw [List.flatMap_cons, List.length_append, List.length_cons]
      omega

theorem length_le_printMembers (upper : Bool) {members : List (List UInt8 × List UInt8)}
    {member : List UInt8 × List UInt8} (inside : member ∈ members) :
    member.2.length ≤ (printMembers upper members).length := by
  have printed : member.2.length ≤ (printMember upper member).length := by
    have escaped := length_le_flatMap_escapeByte upper member.2
    simp only [printMember, printString, List.length_append, List.length_cons]
    omega
  fun_induction printMembers upper members with
  | case1 => cases inside
  | case2 only =>
      rw [List.mem_singleton.mp inside] at printed ⊢
      rw [List.length_append]
      omega
  | case3 first more _ ih =>
      rw [List.length_append, List.length_cons]
      rcases List.mem_cons.mp inside with rfl | later
      · omega
      · have rest := ih later
        omega

def readMember (text : List UInt8) : Option ((List UInt8 × List UInt8) × List UInt8) := do
  let (key, rest) ← readString text
  match rest with
  | colon :: rest =>
      if colon = 0x3A then
        let (value, rest) ← readString rest
        return ((key, value), rest)
      else none
  | [] => none

def readMembers : Nat → List UInt8 → Option (List (List UInt8 × List UInt8))
  | 0, _ => none
  | fuel + 1, text => do
      let (member, rest) ← readMember text
      match rest with
      | [] => none
      | b :: rest =>
          if b = 0x2C then return member :: (← readMembers fuel rest)
          else if b = 0x7D ∧ rest = [] then return [member]
          else none

theorem printMembers_encodes (upper : Bool) {members : List (List UInt8 × List UInt8)}
    (some_ : members ≠ []) : EncodesMembers members (printMembers upper members) := by
  induction members with
  | nil => exact absurd rfl some_
  | cons member more ih =>
      have key := flatMap_escapeByte_encodes upper member.1
      have value := flatMap_escapeByte_encodes upper member.2
      cases more with
      | nil => exact .last key value
      | cons next rest => exact .more key value (ih (List.cons_ne_nil next rest))

theorem readMember_memberText {member : List UInt8 × List UInt8} {key value : List UInt8}
    (encodesKey : EncodesChars member.1 key) (encodesValue : EncodesChars member.2 value)
    (rest : List UInt8) : readMember (memberText key value ++ rest) = some (member, rest) := by
  rw [readMember, memberText, List.append_assoc, readString_quoted encodesKey]
  simp [readString_quoted encodesValue]

theorem readMembers_encodes {members : List (List UInt8 × List UInt8)} {text : List UInt8}
    (encodes : EncodesMembers members text) (fuel : Nat) (enough : members.length ≤ fuel) :
    readMembers fuel text = some members := by
  induction encodes generalizing fuel with
  | last encodesKey encodesValue =>
      obtain ⟨fuel, rfl⟩ : ∃ k, fuel = k + 1 := ⟨fuel - 1, by simp at enough; omega⟩
      simp [readMembers, readMember_memberText encodesKey encodesValue]
  | more encodesKey encodesValue _ ih =>
      obtain ⟨fuel, rfl⟩ : ∃ k, fuel = k + 1 := ⟨fuel - 1, by simp at enough; omega⟩
      have read := ih fuel (by simpa using enough)
      simp [readMembers, readMember_memberText encodesKey encodesValue, read]

/-! Every byte of an encoding is printable, so an encoding has no zero byte and no newline. -/

def Printable (text : List UInt8) : Prop := ∀ b ∈ text, ¬ b < 0x20

theorem Printable.append {a b : List UInt8} (first : Printable a) (second : Printable b) :
    Printable (a ++ b) := by
  intro byte member
  rcases List.mem_append.mp member with member | member
  · exact first byte member
  · exact second byte member

theorem Printable.cons {b : UInt8} {text : List UInt8} (head : ¬ b < 0x20)
    (rest : Printable text) : Printable (b :: text) := by
  intro byte member
  rcases List.mem_cons.mp member with rfl | member
  · exact head
  · exact rest byte member

theorem hexValue_printable {b : UInt8} {n : Nat} (digit : hexValue b = some n) : ¬ b < 0x20 := by
  intro control
  have small : b.toNat < 32 := by simpa [UInt8.lt_iff_toNat_lt] using control
  simp only [hexValue, UInt8.le_iff_toNat_le] at digit
  split_ifs at digit <;> simp at * <;> omega

theorem shortUnescape_printable {letter b : UInt8} (short : shortUnescape letter = some b) :
    ¬ letter < 0x20 := by
  intro control
  have small : letter.toNat < 32 := by simpa [UInt8.lt_iff_toNat_lt] using control
  unfold shortUnescape at short
  split_ifs at short <;> simp_all

theorem EncodesChars.printable {text chars : List UInt8} (encodes : EncodesChars text chars) :
    Printable chars := by
  induction encodes with
  | nil => intro b member; cases member
  | plain printable _ _ ih => exact .cons printable ih
  | short short _ ih => exact .cons (by decide) (.cons (shortUnescape_printable short) ih)
  | unicode highDigit lowDigit _ _ _ ih =>
      exact .cons (by decide) (.cons (by decide) (.cons (by decide) (.cons (by decide)
        (.cons (hexValue_printable highDigit) (.cons (hexValue_printable lowDigit) ih)))))

theorem memberText_printable {key value : List UInt8} (first : Printable key)
    (second : Printable value) : Printable (memberText key value) := by
  have string {chars : List UInt8} (inside : Printable chars) : Printable (quoted chars) :=
    .cons (by decide) (inside.append (.cons (by decide) nofun))
  exact (string first).append (.cons (by decide) (string second))

theorem EncodesMembers.printable {members : List (List UInt8 × List UInt8)} {text : List UInt8}
    (encodes : EncodesMembers members text) : Printable text := by
  induction encodes with
  | last encodesKey encodesValue =>
      exact (memberText_printable encodesKey.printable encodesValue.printable).append
        (.cons (by decide) nofun)
  | more encodesKey encodesValue _ ih =>
      exact (memberText_printable encodesKey.printable encodesValue.printable).append
        (.cons (by decide) ih)

theorem EncodesMembers.length_le {members : List (List UInt8 × List UInt8)} {text : List UInt8}
    (encodes : EncodesMembers members text) : members.length ≤ text.length := by
  induction encodes with
  | last _ _ => simp
  | more _ _ _ ih =>
      simp only [List.length_cons, List.length_append]
      omega

theorem printMembers_noNul (upper : Bool) (members : List (List UInt8 × List UInt8)) :
    0 ∉ printMembers upper members := by
  cases members with
  | nil => simp [printMembers]
  | cons member more =>
      intro zero
      exact (printMembers_encodes upper (List.cons_ne_nil member more)).printable 0 zero (by decide)

/-! ## Flat objects -/

def flatObject (members : List (String × List UInt8)) : Json :=
  .object (members.map fun member => (member.1, .string member.2))

def stringMembers : Json → List (String × List UInt8)
  | .object members => members.filterMap fun member =>
      match member.2 with
      | .string text => some (member.1, text)
      | _ => none
  | _ => []

@[simp] theorem stringMembers_flatObject (members : List (String × List UInt8)) :
    stringMembers (flatObject members) = members := by
  simp [stringMembers, flatObject, List.filterMap_map]

def isAscii (text : String) : Bool := text.toList.all fun c => c.toNat < 128

structure FlatMembers (members : List (String × List UInt8)) : Prop where
  nonempty : members ≠ []
  distinct : (members.map Prod.fst).Nodup
  keys : ∀ member ∈ members, isAscii member.1 = true
  values : ∀ member ∈ members, validUtf8 member.2 = true ∧ 0 ∉ member.2

theorem FlatMembers.perm {a b : List (String × List UInt8)} (flat : FlatMembers a)
    (same : a.Perm b) : FlatMembers b where
  nonempty empty := flat.nonempty (by rw [empty] at same; exact same.eq_nil)
  distinct := (same.map Prod.fst).nodup_iff.mp flat.distinct
  keys member isMember := flat.keys member (same.symm.subset isMember)
  values member isMember := flat.values member (same.symm.subset isMember)

theorem flatObject_get? (members : List (String × List UInt8)) (key : String) :
    (flatObject members).get? key = (members.lookup key).map .string :=
  lookup_map_snd Json.string members key

theorem flatObject_same_of_perm {a b : List (String × List UInt8)} (same : a.Perm b)
    (distinct : (a.map Prod.fst).Nodup) : (flatObject a).SameObject (flatObject b) := by
  intro key
  rw [flatObject_get?, flatObject_get?, lookup_eq_of_perm same distinct key]

def keyBytes (key : String) : List UInt8 := ascii key.toList
def keyText (bytes : List UInt8) : String := String.ofList (bytes.map fun b => Char.ofNat b.toNat)

theorem keyText_keyBytes {key : String} (small : isAscii key = true) :
    keyText (keyBytes key) = key := by
  have chars : (key.toList.map fun c => Char.ofNat (UInt8.ofNat c.toNat).toNat) = key.toList := by
    rw [List.map_congr_left (g := id), List.map_id]
    intro c member
    have bound : c.toNat < 128 := by simpa using List.all_eq_true.mp small c member
    rw [UInt8.toNat_ofNat', Nat.mod_eq_of_lt (by omega)]
    exact Char.ofNat_toNat c
  simp only [keyText, keyBytes, ascii, List.map_map, Function.comp_def, chars]
  exact String.ofList_toList

def printFlat (upper : Bool) (members : List (String × List UInt8)) : CStr where
  bytes := 0x7B :: printMembers upper (members.map fun member => (keyBytes member.1, member.2))
  noNul := by simp [printMembers_noNul]

def readFlat (text : List UInt8) : Option Json :=
  match text with
  | b :: rest =>
      if b = 0x7B then
        (readMembers rest.length rest).map fun members =>
          flatObject (members.map fun member => (keyText member.1, member.2))
      else none
  | [] => none

/-- The object is written without white space, in any of the encodings of its strings. -/
def EncodesFlat (members : List (String × List UInt8)) (text : List UInt8) : Prop :=
  ∃ body, EncodesMembers (members.map fun member => (keyBytes member.1, member.2)) body ∧
    text = 0x7B :: body

theorem EncodesFlat.printable {members : List (String × List UInt8)} {text : List UInt8}
    (encodes : EncodesFlat members text) : Printable text := by
  obtain ⟨body, inside, rfl⟩ := encodes
  exact .cons (by decide) inside.printable

theorem printFlat_encodes (upper : Bool) {members : List (String × List UInt8)}
    (flat : FlatMembers members) : EncodesFlat members (printFlat upper members).bytes :=
  ⟨_, printMembers_encodes upper (by simpa using flat.nonempty), rfl⟩

theorem readFlat_encodes {members : List (String × List UInt8)} {text : List UInt8}
    (flat : FlatMembers members) (encodes : EncodesFlat members text) :
    readFlat text = some (flatObject members) := by
  obtain ⟨body, inside, rfl⟩ := encodes
  have back : (members.map fun member => (keyText (keyBytes member.1), member.2)) = members := by
    rw [List.map_congr_left (g := id), List.map_id]
    intro member isMember
    rw [keyText_keyBytes (flat.keys member isMember)]
    rfl
  have read := readMembers_encodes inside body.length inside.length_le
  simp only [readFlat, ↓reduceIte, read, Option.map_some, List.map_map, Function.comp_def, back]

theorem readFlat_printFlat (upper : Bool) {members : List (String × List UInt8)}
    (flat : FlatMembers members) :
    readFlat (printFlat upper members).bytes = some (flatObject members) :=
  readFlat_encodes flat (printFlat_encodes upper flat)

end SentryPeer.Lib
