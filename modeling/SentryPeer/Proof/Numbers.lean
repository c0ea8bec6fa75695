import SentryPeer.Proof.Returned
import Mathlib.Data.List.Infix

/-!
# The two endpoints over the called numbers

`GET /numbers/n` looks for the text `n`. `GET /numbers` keeps the texts that start with `+` and those
that SQLite prints like the integer it reads from them, which leaves out every number with a leading
zero and every one above the 64 bits.
-/

namespace SentryPeer.Proof
open Lib

/-! ## The filter -/

/-- What `NUMBER_ROUTE` accepts. -/
def NumberForm (n : CStr) : Prop :=
  ∃ digits, digits ≠ [] ∧ (∀ b ∈ digits, isDigit b = true) ∧
    (n.bytes = digits ∨ n.bytes = 0x2B :: digits)

/-- A number with a plus, or a 64-bit integer the way it is printed. -/
def Canonical (n : CStr) : Prop :=
  n.bytes.head? = some 0x2B ∨ ∃ v : Nat, (v : Int) ≤ maxInt64 ∧ n.bytes = decimal v

theorem sqliteAtoi64_digits {digits : List UInt8} (all : ∀ b ∈ digits, isDigit b = true) :
    sqliteAtoi64 digits = min (digitsValue digits : Int) maxInt64 := by
  have first (b : UInt8) (digit : isDigit b = true) :
      isSqliteSpace b = false ∧ b ≠ 0x2D ∧ b ≠ 0x2B := by
    have bounds := isDigit_bounds digit
    refine ⟨?_, ?_, ?_⟩
    · simp only [isSqliteSpace, Bool.or_eq_false_iff, beq_eq_false_iff_ne, ne_eq,
        Bool.and_eq_false_iff, decide_eq_false_iff_not, UInt8.le_iff_toNat_le, UInt8.reduceToNat]
      refine ⟨?_, .inr (by omega)⟩
      rintro rfl
      exact absurd digit (by decide)
    · rintro rfl
      exact absurd digit (by decide)
    · rintro rfl
      exact absurd digit (by decide)
  have noSpace : digits.dropWhile isSqliteSpace = digits := by
    cases digits with
    | nil => rfl
    | cons b rest =>
        exact List.dropWhile_cons_of_neg (by simp [(first b (all b List.mem_cons_self)).1])
  have noSign : digits.head? ≠ some 0x2D ∧ digits.head? ≠ some 0x2B := by
    cases digits with
    | nil => exact ⟨nofun, nofun⟩
    | cons b rest =>
        have other := first b (all b List.mem_cons_self)
        exact ⟨fun same => other.2.1 (Option.some.inj same),
          fun same => other.2.2 (Option.some.inj same)⟩
  simp only [sqliteAtoi64, noSpace, noSign.1, noSign.2, or_self, ↓reduceIte,
    List.takeWhile_eq_self_iff.mpr all]

theorem sqlitePrintfD_nat (v : Nat) : sqlitePrintfD v = decimal v := by
  simp [sqlitePrintfD]

/-- The decimal round trip: only the texts of the 64-bit integers come back. -/
theorem printf_digits_iff {digits : List UInt8} (all : ∀ b ∈ digits, isDigit b = true) :
    sqlitePrintfD (sqliteAtoi64 digits) = digits ↔
      ∃ v : Nat, (v : Int) ≤ maxInt64 ∧ digits = decimal v := by
  rw [sqliteAtoi64_digits all]
  constructor
  · intro same
    obtain ⟨v, isV⟩ : ∃ v : Nat, min (digitsValue digits : Int) maxInt64 = v := by
      apply Int.eq_ofNat_of_zero_le
      exact le_min (Int.natCast_nonneg _) (by decide)
    rw [isV, sqlitePrintfD_nat] at same
    exact ⟨v, isV ▸ min_le_right _ _, same.symm⟩
  · rintro ⟨v, small, rfl⟩
    rw [digitsValue_decimal, min_eq_left small, sqlitePrintfD_nat]

theorem isPhoneNumber_iff {n : CStr} (form : NumberForm n) :
    isPhoneNumber (some n) = true ↔ Canonical n := by
  obtain ⟨digits, nonempty, all, shape⟩ := form
  simp only [isPhoneNumber, Canonical, Bool.or_eq_true, beq_iff_eq]
  rcases shape with plain | plus
  · rw [plain]
    exact or_congr Iff.rfl (printf_digits_iff all)
  · have first : n.bytes.head? = some 0x2B := by
      rw [plus]
      rfl
    exact iff_of_true (.inl first) (.inl first)

/-! ## The routes -/

def numberUrl (n : CStr) : CStr := .ofMemory ((CStr.lit "/numbers/").bytes ++ n.bytes)

theorem NumberForm.bytes {n : CStr} (form : NumberForm n) {b : UInt8} (member : b ∈ n.bytes) :
    b = 0x2B ∨ isDigit b = true := by
  obtain ⟨digits, -, all, shape⟩ := form
  rcases shape with plain | plus
  · rw [plain] at member
    exact .inr (all b member)
  · rw [plus] at member
    exact (List.mem_cons.mp member).imp_right (all b)

theorem NumberForm.plain {n : CStr} (form : NumberForm n) : Plain n.bytes := by
  intro b member
  rcases form.bytes member with rfl | digit
  · decide
  · have bounds := isDigit_bounds digit
    constructor
    · rintro rfl
      exact absurd digit (by decide)
    · rw [UInt8.lt_iff_toNat_lt]
      exact lt_of_le_of_lt bounds.2 (by decide)

theorem numberUrl_bytes (n : CStr) :
    (numberUrl n).bytes = (CStr.lit "/numbers/").bytes ++ n.bytes := by
  apply CStr.bytes_ofMemory
  rw [List.mem_append, not_or]
  exact ⟨(CStr.lit "/numbers/").noNul, n.noNul⟩

theorem numberGroup_form {n : CStr} (form : NumberForm n) : numberGroup n.bytes = true := by
  obtain ⟨digits, nonempty, all, shape⟩ := form
  have rest : digits.dropWhile (fun b => 48 ≤ b && b ≤ 57) = [] :=
    List.dropWhile_eq_nil_iff.mpr all
  have long : 0 < digits.length := List.length_pos_of_ne_nil nonempty
  rcases shape with plain | plus
  · have noPlus : digits.head? ≠ some 0x2B := by
      cases digits with
      | nil => exact absurd rfl nonempty
      | cons b more =>
          intro same
          rw [List.head?_cons, Option.some.injEq] at same
          exact absurd (all b List.mem_cons_self) (by rw [same]; decide)
    simp [numberGroup, plain, noPlus, rest, long]
  · simp [numberGroup, plus, rest, long]

/-- The letter `i` of the other pattern is not in the URL. -/
theorem matchIpAddress_numberUrl {n : CStr} (form : NumberForm n) :
    matchIpAddress (numberUrl n) = none := by
  have noLetter : 0x69 ∉ (numberUrl n).bytes := by
    rw [numberUrl_bytes, List.mem_append, not_or]
    refine ⟨by decide, fun member => ?_⟩
    rcases form.bytes member with plus | digit
    · exact absurd plus (by decide)
    · exact absurd digit (by decide)
  rw [matchIpAddress, regexMatch, Option.map_eq_none_iff, List.find?_eq_none]
  intro suffix isSuffix
  rw [Bool.and_eq_true, not_and]
  intro literal
  have inside : 0x69 ∈ suffix :=
    (List.isPrefixOf_iff_prefix.mp literal).subset (by decide)
  exact absurd (((List.mem_tails _ _).mp isSuffix).subset inside) noLetter

theorem matchNumber_numberUrl {n : CStr} (form : NumberForm n) :
    matchNumber (numberUrl n) = some n := by
  rw [matchNumber, regexMatch_whole (numberUrl_bytes n) (numberGroup_form form),
    CStr.ofMemory_bytes]

theorem routeHandler_numberUrl {n : CStr} (form : NumberForm n) :
    routeHandler (numberUrl n) = .calledNumber n := by
  have other (route : CStr) (apart : (CStr.lit "/numbers/").bytes.isPrefixOf route.bytes = false) :
      numberUrl n ≠ route := by
    rintro rfl
    rw [numberUrl_bytes, List.isPrefixOf_iff_prefix.mpr (List.prefix_append _ _)] at apart
    cases apart
  rw [routeHandler, if_neg (other _ (by decide)), if_neg (other _ (by decide)),
    if_neg (other _ (by decide)), matchIpAddress_numberUrl form]
  dsimp only
  rw [if_neg (other _ (by decide)), if_neg (other _ (by decide)), matchNumber_numberUrl form]

def api (healthCheck : Except Abort Response) (honey : List HoneyRow) (url : CStr) :
    Except Abort Response :=
  httpGet (fun _ => true) (otherRoutes (fun _ => true) healthCheck honey) honey url

theorem api_numbers (healthCheck : Except Abort Response) (honey : List HoneyRow) :
    api healthCheck honey (.lit "/numbers") = answer calledNumbers "called_number"
      "called_numbers_total" "called_numbers" notFoundPhoneNumbersJson honey := by
  have route : routeHandler (.lit "/numbers") = .calledNumbers := rfl
  rw [api, httpGet, route]
  rfl

theorem api_ipAddresses (healthCheck : Except Abort Response) (honey : List HoneyRow) :
    api healthCheck honey (.lit "/ip-addresses") = answer sourceIps "ip_address"
      "ip_addresses_total" "ip_addresses" notFoundBadActorsJson honey := by
  have route : routeHandler (.lit "/ip-addresses") = .ipAddresses := rfl
  rw [api, httpGet, route]
  rfl

def NumberListed (healthCheck : Except Abort Response) (honey : List HoneyRow) (n : CStr) : Prop :=
  n.bytes ∈ returnedTexts "called_number" "called_numbers" (api healthCheck honey (.lit "/numbers"))

def NumberFound (healthCheck : Except Abort Response) (honey : List HoneyRow) (n : CStr) : Prop :=
  ∃ contentType body, api healthCheck honey (numberUrl n) = .ok ⟨200, contentType, body⟩

section Endpoints
variable {healthCheck : Except Abort Response} {honey : List HoneyRow} {n : CStr}

theorem numberFound_iff (form : NumberForm n) :
    NumberFound healthCheck honey n ↔ some n ∈ honey.map HoneyRow.calledNumber := by
  have answered : api healthCheck honey (numberUrl n) =
      foundResponse "phone_number_found" notFoundPhoneNumberJson
        (selectDistinct HoneyRow.calledNumber (fun _ => true) n honey) := by
    rw [api, httpGet, routeHandler_numberUrl form]
    rfl
  rw [NumberFound, answered, selectDistinct_eq]
  split
  · rename_i stored
    have utf8 : validUtf8 n.bytes = true := form.plain.validUtf8
    exact iff_of_true ⟨_, _, foundResponse_utf8 _ _ utf8⟩ stored
  · rename_i absent
    refine iff_of_false ?_ absent
    rintro ⟨_, _, answer⟩
    cases answer

theorem numberListed_iff (form : NumberForm n) :
    NumberListed healthCheck honey n ↔ Packable calledNumbers honey ∧
      some n ∈ honey.map HoneyRow.calledNumber ∧ Canonical n := by
  rw [NumberListed, api_numbers, mem_returnedTexts (calledNumbers_keyed honey) (by decide),
    ← isPhoneNumber_iff form]
  apply and_congr_right
  intro _
  simp only [List.mem_map, Listing.rows, List.mem_filter]
  constructor
  · rintro ⟨value, ⟨row, ⟨isRow, admitted⟩, isValue⟩, same⟩
    rw [CStr.ext_bytes same] at isValue
    exact ⟨⟨row, isRow, isValue⟩, isValue ▸ admitted⟩
  · rintro ⟨⟨row, isRow, isN⟩, admitted⟩
    refine ⟨n, ⟨row, ⟨isRow, ?_⟩, isN⟩, rfl⟩
    change isPhoneNumber row.calledNumber = true
    rw [isN]
    exact admitted

theorem numbers_agree_iff (healthCheck : Except Abort Response) (honey : List HoneyRow) {n : CStr}
    (form : NumberForm n) :
    (NumberListed healthCheck honey n ↔ NumberFound healthCheck honey n) ↔
      some n ∉ honey.map HoneyRow.calledNumber ∨ (Canonical n ∧ Packable calledNumbers honey) := by
  rw [numberFound_iff form, numberListed_iff form]
  by_cases stored : some n ∈ honey.map HoneyRow.calledNumber
  · simp only [stored, true_and, iff_true, not_true_eq_false, false_or]
    exact and_comm
  · simp only [stored, false_and, and_false, not_false_eq_true, true_or]

end Endpoints

def noHealthCheck : Except Abort Response := .ok ⟨404, contentTypeJson, .text notFoundErrorJson⟩

def calledRow (calledNumber : CStr) : HoneyRow := honeyRow (inviteActor calledNumber)

theorem numberForm_digits {n : CStr} (nonempty : n.bytes ≠ [])
    (all : (n.bytes.all isDigit) = true) : NumberForm n :=
  ⟨n.bytes, nonempty, List.all_eq_true.mp all, .inl rfl⟩

theorem calledRow_packable : Packable calledNumbers [calledRow (.lit "100")] := by
  intro row isRow
  rw [List.mem_singleton.mp (List.mem_of_mem_filter isRow)]
  exact ⟨⟨_, rfl, by decide⟩, _, rfl, by decide⟩

theorem numbers_agree_100 :
    NumberListed noHealthCheck [calledRow (.lit "100")] (.lit "100") ↔
      NumberFound noHealthCheck [calledRow (.lit "100")] (.lit "100") := by
  have form : NumberForm (.lit "100") := numberForm_digits (by decide) (by decide)
  apply (numbers_agree_iff noHealthCheck [calledRow (.lit "100")] form).mpr
  exact .inr ⟨(isPhoneNumber_iff form).mp (by decide), calledRow_packable⟩

/-- A number with the international prefix `00` is found and not listed. -/
theorem numbers_leading_zeros_not_listed :
    NumberForm (.lit "00441234567890") ∧
    NumberFound noHealthCheck [calledRow (.lit "00441234567890")] (.lit "00441234567890") ∧
    ¬ NumberListed noHealthCheck [calledRow (.lit "00441234567890")] (.lit "00441234567890") := by
  have form : NumberForm (.lit "00441234567890") := numberForm_digits (by decide) (by decide)
  refine ⟨form, (numberFound_iff form).mpr List.mem_cons_self, fun listed => ?_⟩
  have canonical := ((numberListed_iff form).mp listed).2.2
  rw [← isPhoneNumber_iff form] at canonical
  exact absurd canonical (by decide)

end SentryPeer.Proof
