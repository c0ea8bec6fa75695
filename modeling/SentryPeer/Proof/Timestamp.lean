import SentryPeer.Lib.TextOrder
import SentryPeer.Proof.Listing

/-!
# The order of timestamps

`event_timestamp` writes the nanoseconds with six digits at least. Within one second a fraction of
fewer digits is compared as if zeros followed it, so the later text need not be the later instant.
-/

namespace SentryPeer.Proof
open Lib

/-! ## Numbers of a width -/

section Padded
variable {width m n : Nat}

theorem paddedDecimal_plain (width n : Nat) : Plain (paddedDecimal width n) := by
  apply Plain.append _ (decimal_plain n)
  intro b member
  rw [(List.mem_replicate.mp member).2]
  decide

theorem paddedDecimal_digits (width n : Nat) : Digits (paddedDecimal width n) := by
  intro b member
  rcases List.mem_append.mp member with zero | digit
  · rw [(List.mem_replicate.mp zero).2]
    rfl
  · exact isDigit_decimal digit

theorem length_paddedDecimal (width n : Nat) :
    (paddedDecimal width n).length = max width (decimal n).length := by
  rw [paddedDecimal, List.length_append, List.length_replicate]
  omega

theorem digitsValue_paddedDecimal (width n : Nat) : digitsValue (paddedDecimal width n) = n := by
  have zeros (k : Nat) : digitsValue (List.replicate k 48 ++ decimal n) = n := by
    induction k with
    | zero => exact digitsValue_decimal n
    | succ k ih =>
        rw [List.replicate_succ, List.cons_append, digitsValue_cons, ih]
        simp
  exact zeros _

theorem paddedDecimal_injective (width : Nat) : Function.Injective (paddedDecimal width) := by
  intro m n same
  rw [← digitsValue_paddedDecimal width m, same, digitsValue_paddedDecimal]

theorem length_decimal_mono (le : m ≤ n) : (decimal m).length ≤ (decimal n).length := by
  have positive : 0 < (decimal n).length := by
    rw [decimal, ascii, List.length_map]
    exact Nat.length_toDigits_pos
  rw [length_decimal_le_iff positive]
  exact lt_of_le_of_lt le ((length_decimal_le_iff positive).mp (le_refl _))

theorem length_paddedDecimal_of_lt (positive : 0 < width) (small : n < 10 ^ width) :
    (paddedDecimal width n).length = width := by
  rw [length_paddedDecimal, max_eq_left ((length_decimal_le_iff positive).mpr small)]

theorem paddedDecimal_field_lt (positive : 0 < width) (smallM : m < 10 ^ width)
    (smallN : n < 10 ^ width) (mark : UInt8) (x y : List UInt8) :
    paddedDecimal width m ++ mark :: x < paddedDecimal width n ++ mark :: y ↔
      m < n ∨ m = n ∧ x < y := by
  have lengths : (paddedDecimal width m).length = (paddedDecimal width n).length := by
    rw [length_paddedDecimal_of_lt positive smallM, length_paddedDecimal_of_lt positive smallN]
  rw [append_lt_append_iff lengths, List.cons_lt_cons_iff,
    digits_lt_iff (paddedDecimal_digits _ _) (paddedDecimal_digits _ _) (le_of_eq lengths),
    lengths, Nat.sub_self, pow_zero, Nat.mul_one, digitsValue_paddedDecimal,
    digitsValue_paddedDecimal, (paddedDecimal_injective width).ne_iff,
    (paddedDecimal_injective width).eq_iff]
  simp only [UInt8.lt_irrefl, true_and, false_or, lt_iff_le_and_ne]

theorem decimal_eq_paddedDecimal (positive : 0 < width) (wide : 10 ^ width ≤ n) :
    decimal n = paddedDecimal (width + 1) n := by
  have length : width < (decimal n).length := by
    by_contra short
    exact absurd ((length_decimal_le_iff positive).mp (not_lt.mp short)) (not_lt.mpr wide)
  rw [paddedDecimal, Nat.sub_eq_zero_of_le length, List.replicate_zero, List.nil_append]

end Padded

/-! ## The text of a clock -/

def timestampText (clock : Clock) : List UInt8 :=
  decimal clock.year ++ 0x2D :: (paddedDecimal 2 clock.month ++ 0x2D :: (paddedDecimal 2 clock.day ++
    0x20 :: (paddedDecimal 2 clock.hour ++ 0x3A :: (paddedDecimal 2 clock.minute ++
      0x3A :: (paddedDecimal 2 clock.second ++ 0x2E :: paddedDecimal 6 clock.nanosecond)))))

theorem timestampText_plain (clock : Clock) : Plain (timestampText clock) := by
  have field {width n : Nat} {b : UInt8} {rest : List UInt8} (mark : b ≠ 0 ∧ b < 0x80)
      (plain : Plain rest) : Plain (paddedDecimal width n ++ b :: rest) :=
    (paddedDecimal_plain width n).append (.cons mark plain)
  apply (decimal_plain _).append
  apply Plain.cons (by decide)
  apply field (by decide)
  apply field (by decide)
  apply field (by decide)
  apply field (by decide)
  apply field (by decide)
  exact paddedDecimal_plain _ _

theorem eventTimestamp_plain (clock : Clock) : Plain (eventTimestamp clock).bytes := by
  apply (timestampText_plain clock).mono
  exact List.Subset.trans (List.takeWhile_sublist _).subset (List.take_subset _ _)

structure FixedWidth (clock : Clock) : Prop where
  yearLow : 1000 ≤ clock.year
  yearHigh : clock.year < 10000
  month : clock.month < 100
  day : clock.day < 100
  hour : clock.hour < 100
  minute : clock.minute < 100
  second : clock.second < 100
  nanosecond : clock.nanosecond < 1000000000

theorem FixedWidth.year {clock : Clock} (fixed : FixedWidth clock) :
    decimal clock.year = paddedDecimal 4 clock.year :=
  decimal_eq_paddedDecimal (by decide) fixed.yearLow

theorem FixedWidth.bytes {clock : Clock} (fixed : FixedWidth clock) :
    (eventTimestamp clock).bytes = timestampText clock := by
  have two {n : Nat} (small : n < 100) : (paddedDecimal 2 n).length = 2 :=
    length_paddedDecimal_of_lt (by decide) small
  have year : (paddedDecimal 4 clock.year).length = 4 :=
    length_paddedDecimal_of_lt (by decide) fixed.yearHigh
  have fraction : (decimal clock.nanosecond).length ≤ 9 :=
    (length_decimal_le_iff (by decide)).mpr fixed.nanosecond
  have fits : (timestampText clock).length ≤ timestampLen - 1 := by
    simp only [timestampText, fixed.year, List.length_append, List.length_cons, year,
      two fixed.month, two fixed.day, two fixed.hour, two fixed.minute, two fixed.second,
      length_paddedDecimal, timestampLen]
    omega
  have whole : eventTimestamp clock = .ofMemory (timestampText clock) :=
    congrArg CStr.ofMemory (List.take_of_length_le fits)
  rw [whole, CStr.bytes_ofMemory (timestampText_plain clock).noNul]

/-- The fields before the nanoseconds in their order, and `tie` where they are all the same. -/
def ClockBefore (a b : Clock) (tie : Prop) : Prop :=
  a.year < b.year ∨ a.year = b.year ∧
    (a.month < b.month ∨ a.month = b.month ∧
      (a.day < b.day ∨ a.day = b.day ∧
        (a.hour < b.hour ∨ a.hour = b.hour ∧
          (a.minute < b.minute ∨ a.minute = b.minute ∧
            (a.second < b.second ∨ a.second = b.second ∧ tie)))))

theorem FixedWidth.lt_iff {a b : Clock} (fixedA : FixedWidth a) (fixedB : FixedWidth b) :
    (eventTimestamp a).bytes < (eventTimestamp b).bytes ↔
      ClockBefore a b (paddedDecimal 6 a.nanosecond < paddedDecimal 6 b.nanosecond) := by
  rw [fixedA.bytes, fixedB.bytes, timestampText, timestampText, fixedA.year, fixedB.year,
    paddedDecimal_field_lt (by decide) fixedA.yearHigh fixedB.yearHigh,
    paddedDecimal_field_lt (by decide) fixedA.month fixedB.month,
    paddedDecimal_field_lt (by decide) fixedA.day fixedB.day,
    paddedDecimal_field_lt (by decide) fixedA.hour fixedB.hour,
    paddedDecimal_field_lt (by decide) fixedA.minute fixedB.minute,
    paddedDecimal_field_lt (by decide) fixedA.second fixedB.second, ClockBefore]

/-! ## The clock of an instant -/

def Before (a b : Timespec) : Prop := a.tvSec < b.tvSec ∨ a.tvSec = b.tvSec ∧ a.tvNsec < b.tvNsec

instance (a b : Timespec) : Decidable (Before a b) := inferInstanceAs (Decidable (_ ∨ _))

def FourDigitYear (utcOffset : Int) (instant : Timespec) : Prop :=
  1000 ≤ (localtimeR utcOffset instant).year ∧ (localtimeR utcOffset instant).year < 10000

instance (utcOffset : Int) (instant : Timespec) : Decidable (FourDigitYear utcOffset instant) :=
  inferInstanceAs (Decidable (_ ∧ _))

section Instants
variable {utcOffset : Int} {a b : Timespec}

theorem FourDigitYear.fixedWidth (year : FourDigitYear utcOffset a) :
    FixedWidth (localtimeR utcOffset a) := by
  have date := monthDay_bounds ((a.tvSec + utcOffset) / 86400 + epochDay)
  refine ⟨year.1, year.2, ?_, ?_, ?_, ?_, ?_, a.inRange⟩ <;> dsimp only [localtimeR] <;> omega

theorem localtimeR_before (year : FourDigitYear utcOffset a) (less : a.tvSec < b.tvSec)
    (tie : Prop) : ClockBefore (localtimeR utcOffset a) (localtimeR utcOffset b) tie := by
  have low := year.1
  simp only [ClockBefore, localtimeR] at low ⊢
  have days : (a.tvSec + utcOffset) / 86400 < (b.tvSec + utcOffset) / 86400 ∨
      (a.tvSec + utcOffset) / 86400 = (b.tvSec + utcOffset) / 86400 ∧
        (a.tvSec + utcOffset) % 86400 < (b.tvSec + utcOffset) % 86400 := by omega
  rcases days with days | ⟨sameDay, inDay⟩
  · have date := date_lt (Int.add_lt_add_right days epochDay)
    omega
  · rw [sameDay]
    simp only [lt_irrefl, true_and, false_or]
    omega

/-! ## Text order and time order -/

def stamp (utcOffset : Int) (instant : Timespec) : CStr :=
  eventTimestamp (localtimeR utcOffset instant)

def fractionWidth (nanoseconds : Nat) : Nat := max 6 (decimal nanoseconds).length

/-- In one second, the earlier fraction with zeros up to the width of the later one is not more. -/
def FractionsOrdered (a b : Timespec) : Prop :=
  a.tvSec = b.tvSec →
    a.tvNsec * 10 ^ (fractionWidth b.tvNsec - fractionWidth a.tvNsec) ≤ b.tvNsec

instance (a b : Timespec) : Decidable (FractionsOrdered a b) := inferInstanceAs (Decidable (_ → _))

theorem fraction_lt_iff {m n : Nat} (less : m < n) : paddedDecimal 6 m < paddedDecimal 6 n ↔
    m * 10 ^ (fractionWidth n - fractionWidth m) ≤ n := by
  have widths : (paddedDecimal 6 m).length ≤ (paddedDecimal 6 n).length := by
    rw [length_paddedDecimal, length_paddedDecimal]
    exact max_le_max_left 6 (length_decimal_mono (le_of_lt less))
  have differ : paddedDecimal 6 m ≠ paddedDecimal 6 n :=
    (paddedDecimal_injective 6).ne (ne_of_lt less)
  rw [digits_lt_iff (paddedDecimal_digits _ _) (paddedDecimal_digits _ _) widths,
    length_paddedDecimal, length_paddedDecimal, digitsValue_paddedDecimal,
    digitsValue_paddedDecimal, and_iff_left differ]
  rfl

theorem localtimeR_sameSecond (same : a.tvSec = b.tvSec) :
    localtimeR utcOffset b = { localtimeR utcOffset a with nanosecond := b.tvNsec } := by
  simp only [localtimeR, same]

theorem stamp_lt_iff (yearA : FourDigitYear utcOffset a) (yearB : FourDigitYear utcOffset b)
    (before : Before a b) :
    (stamp utcOffset a).bytes < (stamp utcOffset b).bytes ↔ FractionsOrdered a b := by
  rw [stamp, stamp, yearA.fixedWidth.lt_iff yearB.fixedWidth]
  rcases before with less | ⟨same, less⟩
  · exact iff_of_true (localtimeR_before yearA less _) fun same => absurd same (ne_of_lt less)
  · rw [localtimeR_sameSecond same]
    simp only [ClockBefore, lt_irrefl, true_and, false_or, FractionsOrdered, same, true_implies]
    exact fraction_lt_iff less

theorem stamp_ne (yearA : FourDigitYear utcOffset a) (yearB : FourDigitYear utcOffset b)
    (before : Before a b) : (stamp utcOffset a).bytes ≠ (stamp utcOffset b).bytes := by
  intro equal
  by_cases ordered : FractionsOrdered a b
  · have less := (stamp_lt_iff yearA yearB before).mpr ordered
    rw [equal] at less
    exact List.lt_irrefl _ less
  · rw [FractionsOrdered, Classical.not_imp] at ordered
    rw [stamp, stamp, localtimeR_sameSecond ordered.1, yearA.fixedWidth.bytes] at equal
    have fixedB := yearB.fixedWidth
    rw [localtimeR_sameSecond ordered.1] at fixedB
    rw [fixedB.bytes] at equal
    simp only [timestampText, List.append_cancel_left_eq, List.cons.injEq, true_and] at equal
    have same : a.tvNsec = b.tvNsec := paddedDecimal_injective 6 equal
    rcases before with less | ⟨-, less⟩
    · exact absurd ordered.1 (ne_of_lt less)
    · exact absurd same (ne_of_lt less)

end Instants

/-! ## The queries -/

theorem bytesLe_iff (a b : List UInt8) : bytesLe a b = true ↔ a < b ∨ a = b := by
  induction a generalizing b with
  | nil => cases b <;> simp [bytesLe]
  | cons x a ih =>
      cases b with
      | nil => simp [bytesLe]
      | cons y b =>
          simp only [bytesLe, Bool.or_eq_true, Bool.and_eq_true, decide_eq_true_eq, beq_iff_eq, ih,
            List.cons_lt_cons_iff, List.cons.injEq]
          tauto

def StampedAt (utcOffset : Int) (instant : HoneyRow → Timespec) (rows : List HoneyRow) : Prop :=
  ∀ row ∈ rows, FourDigitYear utcOffset (instant row) ∧
    row.eventTimestamp = some (stamp utcOffset (instant row))

def Latest (instant : HoneyRow → Timespec) (rows : List HoneyRow) (row : HoneyRow) : Prop :=
  row ∈ rows ∧ ∀ other ∈ rows, ¬ Before (instant row) (instant other)

/-- The fractions of all earlier rows are ordered with that of this one. -/
def OrderedBefore (instant : HoneyRow → Timespec) (rows : List HoneyRow) (row : HoneyRow) : Prop :=
  ∀ other ∈ rows, Before (instant other) (instant row) →
    FractionsOrdered (instant other) (instant row)

section Queries
variable {utcOffset : Int} {instant : HoneyRow → Timespec} {rows : List HoneyRow}

theorem not_before_iff {a b : Timespec} : ¬ Before a b ↔ Before b a ∨ a = b := by
  cases a
  cases b
  simp only [Before, Timespec.mk.injEq]
  omega

theorem StampedAt.textLe_iff (stamped : StampedAt utcOffset instant rows) {a b : HoneyRow}
    (isA : a ∈ rows) (isB : b ∈ rows) (before : Before (instant a) (instant b)) :
    textLe a.eventTimestamp b.eventTimestamp = true ↔
      FractionsOrdered (instant a) (instant b) := by
  obtain ⟨yearA, textA⟩ := stamped a isA
  obtain ⟨yearB, textB⟩ := stamped b isB
  rw [textA, textB, textLe, bytesLe_iff, stamp_lt_iff yearA yearB before,
    or_iff_left (stamp_ne yearA yearB before)]

/-- The greatest text is that of the latest row exactly where its text is above all earlier ones. -/
theorem StampedAt.greatest_iff (stamped : StampedAt utcOffset instant rows) {row : HoneyRow}
    (latest : Latest instant rows row) {last : Option CStr}
    (attained : ∃ other ∈ rows, other.eventTimestamp = last)
    (bound : ∀ other ∈ rows, textLe other.eventTimestamp last = true) :
    last = row.eventTimestamp ↔ OrderedBefore instant rows row := by
  constructor
  · rintro rfl other isOther before
    exact (stamped.textLe_iff isOther latest.1 before).mp (bound other isOther)
  · intro ordered
    obtain ⟨other, isOther, rfl⟩ := attained
    obtain ⟨yearOther, textOther⟩ := stamped other isOther
    obtain ⟨yearRow, textRow⟩ := stamped row latest.1
    rcases not_before_iff.mp (latest.2 other isOther) with before | same
    · have less := (stamp_lt_iff yearOther yearRow before).mpr (ordered other isOther before)
      have back := bound row latest.1
      rw [textRow, textOther, textLe, bytesLe_iff] at back
      rcases back with greater | equal
      · exact absurd less (List.lt_asymm greater)
      · exact absurd equal.symm (stamp_ne yearOther yearRow before)
    · rw [textOther, textRow, same]

variable {listing : Listing} {honey : List HoneyRow}

theorem groups_first {row : HoneyRow} (member : row ∈ listing.rows honey) :
    ∃ group, (listing.groups honey).head? = some group ∧
      (∃ row ∈ listing.rows honey, row.eventTimestamp = group.seenLast) ∧
      ∀ row ∈ listing.rows honey, textLe row.eventTimestamp group.seenLast = true := by
  have sorted := groups_sorted listing honey
  cases isGroups : listing.groups honey with
  | nil =>
      have own := mem_groups.mpr ⟨row, member, rfl⟩
      rw [isGroups] at own
      cases own
  | cons first rest =>
      rw [isGroups] at sorted
      have isFirst : first ∈ listing.groups honey := by
        rw [isGroups]
        exact List.mem_cons_self
      obtain ⟨⟨attained, inKey, isLast⟩, -⟩ := groups_seenLast isFirst
      refine ⟨first, rfl, ⟨attained, (mem_keyRows.mp inKey).1, isLast⟩, ?_⟩
      intro other isOther
      have isGroup := mem_groups.mpr ⟨other, isOther, rfl⟩
      have below := (groups_seenLast isGroup).2 other (mem_keyRows.mpr ⟨isOther, rfl⟩)
      rw [isGroups] at isGroup
      rcases List.mem_cons.mp isGroup with same | later
      · rw [same] at below
        exact below
      · exact textLe_order.trans _ _ _ below (List.rel_of_pairwise_cons sorted later)

end Queries

/-- An earlier instant has the smaller text; the group of a key shows its latest row, and the first
group shows the latest row of all: each exactly where the fractions are ordered. -/
theorem eventTimestamp_order_iff (utcOffset : Int) (a b : Timespec)
    (yearA : FourDigitYear utcOffset a) (yearB : FourDigitYear utcOffset b) (before : Before a b)
    (listing : Listing) (honey : List HoneyRow) (instant : HoneyRow → Timespec)
    (stamped : StampedAt utcOffset instant (listing.rows honey)) :
    ((eventTimestamp (localtimeR utcOffset a)).bytes <
        (eventTimestamp (localtimeR utcOffset b)).bytes ↔ FractionsOrdered a b) ∧
      (∀ group ∈ listing.groups honey, ∀ row,
        Latest instant (keyRows listing honey group.key) row →
          (group.seenLast = row.eventTimestamp ↔
            OrderedBefore instant (keyRows listing honey group.key) row)) ∧
      ∀ row, Latest instant (listing.rows honey) row →
        ((listing.groups honey).head?.map SeenGroup.seenLast = some row.eventTimestamp ↔
          OrderedBefore instant (listing.rows honey) row) := by
  refine ⟨stamp_lt_iff yearA yearB before, ?_, ?_⟩
  · intro group member row latest
    have ofKey : StampedAt utcOffset instant (keyRows listing honey group.key) :=
      fun other isOther => stamped other (mem_keyRows.mp isOther).1
    obtain ⟨attained, bound⟩ := groups_seenLast member
    exact ofKey.greatest_iff latest attained bound
  · intro row latest
    obtain ⟨group, isFirst, attained, bound⟩ := groups_first latest.1
    rw [isFirst, Option.map_some, Option.some.injEq]
    exact stamped.greatest_iff latest attained bound

/-- 2023-11-14 22:13:20 UTC -/
def afterSeconds (nanoseconds : Fin 1000000000) : Timespec :=
  ⟨1700000000, nanoseconds, nanoseconds.isLt⟩

def rowAt (instant : Timespec) : HoneyRow :=
  { honeyRow (inviteActor (.lit "100")) with eventTimestamp := some (stamp 0 instant) }

def twoRows : List HoneyRow := [rowAt (afterSeconds 200000), rowAt (afterSeconds 999999)]

def twoInstants (row : HoneyRow) : Timespec :=
  if row = rowAt (afterSeconds 200000) then afterSeconds 200000 else afterSeconds 999999

theorem eventTimestamp_order_six_digits :
    (eventTimestamp (localtimeR 0 (afterSeconds 200000))).bytes <
        (eventTimestamp (localtimeR 0 (afterSeconds 999999))).bytes ∧
      (sourceIps.groups twoRows).head?.map SeenGroup.seenLast =
        some (some (stamp 0 (afterSeconds 999999))) := by
  have stamped : StampedAt 0 twoInstants (sourceIps.rows twoRows) := by
    unfold StampedAt
    decide
  have latest : Latest twoInstants (sourceIps.rows twoRows) (rowAt (afterSeconds 999999)) := by
    unfold Latest
    decide
  have ordered : OrderedBefore twoInstants (sourceIps.rows twoRows)
      (rowAt (afterSeconds 999999)) := by
    unfold OrderedBefore
    decide
  have holds := eventTimestamp_order_iff 0 (afterSeconds 200000) (afterSeconds 999999) (by decide)
    (by decide) (by decide) sourceIps twoRows twoInstants stamped
  exact ⟨holds.1.mpr (by decide), (holds.2.2 _ latest).mpr ordered⟩

/-- A fifth of a millisecond before a whole one in the same second, and the listing shows the
earlier. -/
theorem eventTimestamp_seven_digits_smaller :
    FourDigitYear 0 (afterSeconds 200000) ∧ FourDigitYear 0 (afterSeconds 1000000) ∧
      Before (afterSeconds 200000) (afterSeconds 1000000) ∧
      ¬ (eventTimestamp (localtimeR 0 (afterSeconds 200000))).bytes <
        (eventTimestamp (localtimeR 0 (afterSeconds 1000000))).bytes ∧
      (sourceIps.groups [rowAt (afterSeconds 200000), rowAt (afterSeconds 1000000)]).map
          SeenGroup.seenLast = [some (stamp 0 (afterSeconds 200000))] := by
  refine ⟨by decide, by decide, by decide, by decide, ?_⟩
  decide

end SentryPeer.Proof
