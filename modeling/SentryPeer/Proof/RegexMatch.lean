import SentryPeer.Proof.Routes
import SentryPeer.Source.RegexMatch

/-!
# The text that a pattern captures

`regex_match` copies from the start of the group to the end of the subject. That is the text of the
group when the group reaches the end, which a newline keeps it from.
-/

namespace SentryPeer.Proof
open Lib

/-! ## The groups -/

theorem anyGroup_rests (text : List UInt8) :
    (Pcre2.ipAddressRoute.group.rests text).head? =
      if anyGroup text then some (text.dropWhile (· != 0x0A)) else none := by
  change (Pattern.restsMany _ text).head? = _
  rw [Pattern.head?_restsMany]
  cases text with
  | nil => rfl
  | cons b rest =>
      cases newline : b != 0x0A <;> simp [anyGroup, newline]

def withoutPlus (text : List UInt8) : List UInt8 :=
  if text.head? = some 0x2B then text.tail else text

theorem length_dropWhile_lt_iff (text : List UInt8) :
    (text.dropWhile isDigit).length < text.length ↔ text.takeWhile isDigit ≠ [] := by
  have parts := congrArg List.length
    (List.takeWhile_append_dropWhile (p := isDigit) (l := text))
  rw [List.length_append] at parts
  rw [← List.length_pos_iff]
  omega

theorem digits_rests (text : List UInt8) :
    (Pattern.seq (.many isDigit) (.check Pcre2.endOfSubject)).rests text =
      if (text.dropWhile isDigit).length < text.length ∧
          Pcre2.endOfSubject (text.dropWhile isDigit) = true then
        [text.dropWhile isDigit]
      else [] := by
  have apart (b : UInt8) (rest : List UInt8) (digit : isDigit b = true) :
      Pcre2.endOfSubject (b :: rest) = false := by
    have notNewline : b ≠ 0x0A := by
      rintro rfl
      exact absurd digit (by decide)
    simp [Pcre2.endOfSubject, notNewline]
  simp only [length_dropWhile_lt_iff]
  exact Pattern.restsMany_check apart text

theorem numberGroup_rests (text : List UInt8) :
    Pcre2.numberRoute.group.rests text =
      if numberGroup text then [(withoutPlus text).dropWhile isDigit] else [] := by
  have group : numberGroup text = true ↔
      ((withoutPlus text).dropWhile isDigit).length < (withoutPlus text).length ∧
        Pcre2.endOfSubject ((withoutPlus text).dropWhile isDigit) = true := by
    simp only [numberGroup, Bool.and_eq_true, decide_eq_true_eq]
    exact Iff.rfl
  have end_ : (if numberGroup text then [(withoutPlus text).dropWhile isDigit] else []) =
      (Pattern.seq (.many isDigit) (.check Pcre2.endOfSubject)).rests (withoutPlus text) := by
    rw [digits_rests]
    exact if_congr group rfl rfl
  rw [end_]
  change (Pattern.restsOne (· == 0x2B) text ++ [text]).flatMap _ = _
  cases text with
  | nil => rfl
  | cons b rest =>
      by_cases plus : b = 0x2B
      · subst plus
        have none_ : (Pattern.seq (.many isDigit) (.check Pcre2.endOfSubject)).rests (0x2B :: rest) =
            [] := rfl
        simp [Pattern.restsOne, withoutPlus, none_]
      · simp [Pattern.restsOne, withoutPlus, plus]

/-! ## The match -/

section Match
variable {url : CStr} {regex : Pcre2.Regex} {inside after : List UInt8}

theorem regexMatch_notFound
    (found : Pattern.search (.literal regex.text.bytes) regex.group url.bytes = none) :
    Pcre2.regexMatch url regex = none := by
  rw [Pcre2.regexMatch, Pcre2.pcre2Match, found]
  rfl

/-- What `regex_match` returns and what it was to return, for a match that has been found. -/
theorem regexMatch_found (found : Pattern.search (.literal regex.text.bytes) regex.group url.bytes =
      some (inside, after)) :
    Pcre2.regexMatch url regex = some (.ofMemory inside) ∧
    (CStr.ofMemory inside).bytes = inside ∧
    Pcre2.captured url regex = some (inside.take (inside.length - after.length)) := by
  obtain ⟨⟨before, isUrl⟩, first, -⟩ := Pattern.found_of_search found
  have group := Pattern.rests_suffix (List.mem_of_head? first)
  have short := group.length_le
  have length := congrArg List.length isUrl
  simp only [List.length_append] at length
  have start : url.bytes.drop (url.bytes.length - inside.length) = inside := by
    rw [isUrl, ← List.append_assoc, List.drop_left']
    simp only [List.length_append]
    omega
  refine ⟨?_, ?_, ?_⟩
  · have inOrder : ¬ url.bytes.length - after.length <
        url.bytes.length - inside.length - regex.text.length := by omega
    simp only [Pcre2.regexMatch, Pcre2.pcre2Match, found, Option.map_some, if_neg inOrder, start]
  · apply CStr.bytes_ofMemory
    intro member
    apply url.noNul
    rw [isUrl]
    exact List.mem_append_right _ (List.mem_append_right _ member)
  · simp only [Pcre2.captured, Pcre2.pcre2Match, found, Option.map_some, Option.some.injEq]
    rw [List.drop_take, start]
    congr 1
    omega

/-- The copy is the text of the group. -/
def CopiesGroup (url : CStr) (regex : Pcre2.Regex) : Prop :=
  ∀ matched, Pcre2.regexMatch url regex = some matched →
    Pcre2.captured url regex = some matched.bytes

theorem copiesGroup_iff : CopiesGroup url regex ↔
    ∀ inside after, Pattern.search (.literal regex.text.bytes) regex.group url.bytes =
      some (inside, after) → after = [] := by
  constructor
  · intro copies inside after found
    obtain ⟨returned, bytes, captured⟩ := regexMatch_found found
    have same := copies _ returned
    rw [bytes, captured, Option.some.injEq, List.take_eq_self_iff] at same
    have group := Pattern.rests_suffix (List.mem_of_head? (Pattern.found_of_search found).first)
    have short := group.length_le
    apply List.eq_nil_of_length_eq_zero
    omega
  · intro ends matched returned
    cases found : Pattern.search (.literal regex.text.bytes) regex.group url.bytes with
    | none =>
        rw [regexMatch_notFound found] at returned
        cases returned
    | some pair =>
        obtain ⟨returned', bytes, captured⟩ := regexMatch_found found
        rw [returned] at returned'
        cases returned'
        rw [captured, bytes, ends _ _ found]
        simp

end Match

/-! ## The two routes -/

section Routes
variable {url : CStr} {inside after : List UInt8}

/-- No newline follows the address of an address URL, wherever in the URL it is found. -/
def AddressToEnd (url : CStr) : Prop :=
  ∀ before b rest, url.bytes = before ++ (ipAddressLiteral ++ b :: rest) → b ≠ 0x0A → 0x0A ∉ rest

/-- The URL does not end in a number URL and a newline. -/
def NumberToEnd (url : CStr) : Prop :=
  ∀ before n, NumberForm n → url.bytes ≠ before ++ (numberLiteral ++ (n.bytes ++ [0x0A]))

theorem address_found (found : Pattern.search (.literal ipAddressLiteral)
      Pcre2.ipAddressRoute.group url.bytes = some (inside, after)) :
    (∃ b rest, inside = b :: rest ∧ b ≠ 0x0A) ∧ after = inside.dropWhile (· != 0x0A) := by
  have first := (Pattern.found_of_search found).first
  rw [anyGroup_rests] at first
  split_ifs at first with any
  exact ⟨anyGroup_iff.mp any, (Option.some.inj first).symm⟩

theorem copiesGroup_ipAddress_iff :
    CopiesGroup url Pcre2.ipAddressRoute ↔ AddressToEnd url := by
  rw [copiesGroup_iff]
  constructor
  · intro ends before b rest isUrl notNewline
    have any : anyGroup (b :: rest) = true := anyGroup_iff.mpr ⟨b, rest, rfl, notNewline⟩
    have matches_ : Pcre2.ipAddressRoute.group.rests (b :: rest) ≠ [] := by
      intro none
      have first := anyGroup_rests (b :: rest)
      rw [none, if_pos any] at first
      cases first
    obtain ⟨inside, after, found⟩ := Pattern.exists_search isUrl matches_
    have whole := ends inside after found
    have later := (Pattern.found_of_search found).leftmost before (b :: rest) isUrl matches_
    rw [(address_found found).2, List.dropWhile_eq_nil_iff] at whole
    intro newline
    exact absurd (whole 0x0A (later.mem (List.mem_cons_of_mem b newline))) (by decide)
  · intro toEnd inside after found
    obtain ⟨⟨b, rest, rfl, notNewline⟩, rfl⟩ := address_found found
    obtain ⟨before, isUrl⟩ := (Pattern.found_of_search found).isSubject
    have absent := toEnd before b rest isUrl notNewline
    rw [List.dropWhile_eq_nil_iff]
    intro c member
    rw [bne_iff_ne]
    rintro rfl
    rcases List.mem_cons.mp member with rfl | later
    · exact notNewline rfl
    · exact absent later

theorem number_found (found : Pattern.search (.literal numberLiteral)
      Pcre2.numberRoute.group url.bytes = some (inside, after)) :
    numberGroup inside = true ∧ after = (withoutPlus inside).dropWhile isDigit := by
  have first := (Pattern.found_of_search found).first
  rw [numberGroup_rests] at first
  split_ifs at first with number
  · exact ⟨number, (Option.some.inj first).symm⟩
  · cases first

theorem mem_withoutPlus {text : List UInt8} {b : UInt8} (member : b ∈ text) (notPlus : b ≠ 0x2B) :
    b ∈ withoutPlus text := by
  rw [withoutPlus]
  split_ifs with plus
  · rw [List.eq_cons_of_mem_head? plus] at member
    exact (List.mem_cons.mp member).resolve_left notPlus
  · exact member

theorem NumberForm.digits {n : CStr} (form : NumberForm n) {b : UInt8}
    (member : b ∈ withoutPlus n.bytes) : isDigit b = true := by
  obtain ⟨digits, -, all, plain | plus⟩ := form
  · rw [plain, withoutPlus] at member
    split_ifs at member
    · exact all b (List.mem_of_mem_tail member)
    · exact all b member
  · rw [plus] at member
    exact all b member

theorem copiesGroup_number_iff : CopiesGroup url Pcre2.numberRoute ↔ NumberToEnd url := by
  rw [copiesGroup_iff]
  constructor
  · intro ends before n form isUrl
    have number := numberGroup_iff.mpr ⟨n, form, .inr rfl⟩
    have matches_ : Pcre2.numberRoute.group.rests (n.bytes ++ [0x0A]) ≠ [] := by
      rw [numberGroup_rests, if_pos number]
      exact List.cons_ne_nil _ _
    obtain ⟨inside, after, found⟩ := Pattern.exists_search isUrl matches_
    have later := (Pattern.found_of_search found).leftmost before _ isUrl matches_
    have digits := ends inside after found
    rw [(number_found found).2, List.dropWhile_eq_nil_iff] at digits
    have newline : 0x0A ∈ inside := later.mem (List.mem_append_right _ (List.mem_singleton_self _))
    exact absurd (digits 0x0A (mem_withoutPlus newline (by decide))) (by decide)
  · intro toEnd inside after found
    obtain ⟨number, rfl⟩ := number_found found
    obtain ⟨before, isUrl⟩ := (Pattern.found_of_search found).isSubject
    obtain ⟨n, form, rfl | rfl⟩ := numberGroup_iff.mp number
    · rw [List.dropWhile_eq_nil_iff]
      exact fun _ member => form.digits member
    · exact absurd isUrl (toEnd before n form)

/-! ## The models of `regex_match` -/

theorem regexMatch_eq {regex : Pcre2.Regex} {group : List UInt8 → Bool}
    (isGroup : ∀ text, (regex.group.rests text).head?.isSome = group text) (url : CStr) :
    Pcre2.regexMatch url regex = SentryPeer.regexMatch regex.text.bytes group url := by
  have search := Pattern.search_literal regex.text.bytes regex.group url.bytes
  simp only [isGroup] at search
  rw [SentryPeer.regexMatch]
  cases started : url.bytes.tails.find? fun start => regex.text.bytes.isPrefixOf start &&
      group (start.drop regex.text.bytes.length) with
  | none =>
      rw [started] at search
      exact regexMatch_notFound search
  | some start =>
      have matched := List.find?_some started
      simp only [Bool.and_eq_true, ← isGroup] at matched
      obtain ⟨after, first⟩ := Option.isSome_iff_exists.mp matched.2
      rw [started, Option.bind_some, first, Option.map_some] at search
      exact (regexMatch_found search).1

theorem regexMatch_ipAddressRoute (url : CStr) :
    Pcre2.regexMatch url Pcre2.ipAddressRoute = matchIpAddress url := by
  apply regexMatch_eq
  intro text
  rw [anyGroup_rests]
  cases anyGroup text <;> rfl

theorem regexMatch_numberRoute (url : CStr) :
    Pcre2.regexMatch url Pcre2.numberRoute = matchNumber url := by
  apply regexMatch_eq
  intro text
  rw [numberGroup_rests]
  cases numberGroup text <;> rfl

theorem matchNumber_form (toEnd : NumberToEnd url) {phoneNumber : CStr}
    (matched : matchNumber url = some phoneNumber) : NumberForm phoneNumber := by
  rw [← regexMatch_numberRoute] at matched
  cases found : Pattern.search (.literal Pcre2.numberRoute.text.bytes) Pcre2.numberRoute.group
      url.bytes with
  | none =>
      rw [regexMatch_notFound found] at matched
      cases matched
  | some pair =>
      obtain ⟨before, isUrl⟩ := (Pattern.found_of_search found).isSubject
      obtain ⟨n, form, isNumber | newline⟩ := numberGroup_iff.mp (number_found found).1
      · have returned := (regexMatch_found found).1
        rw [isNumber, CStr.ofMemory_bytes, matched, Option.some.injEq] at returned
        rwa [returned]
      · rw [newline] at isUrl
        exact absurd isUrl (toEnd before n form)

theorem matchNumber_of_calledNumber {phoneNumber : CStr}
    (handed : routeHandler url = .calledNumber phoneNumber) :
    matchNumber url = some phoneNumber := by
  unfold routeHandler at handed
  repeat' split at handed
  all_goals cases handed
  assumption

end Routes

/-- `regex_match` gives the text of the first group for both patterns, and `called_number_route` gets a
number. -/
structure CapturesCopied (url : CStr) : Prop where
  ipAddress : CopiesGroup url Pcre2.ipAddressRoute
  number : CopiesGroup url Pcre2.numberRoute
  handed : ∀ phoneNumber, routeHandler url = .calledNumber phoneNumber → NumberForm phoneNumber

theorem captures_copied_iff (url : CStr) :
    CapturesCopied url ↔ AddressToEnd url ∧ NumberToEnd url := by
  constructor
  · intro copied
    exact ⟨copiesGroup_ipAddress_iff.mp copied.ipAddress, copiesGroup_number_iff.mp copied.number⟩
  · rintro ⟨address, number⟩
    exact ⟨copiesGroup_ipAddress_iff.mpr address, copiesGroup_number_iff.mpr number,
      fun _ handed => matchNumber_form number (matchNumber_of_calledNumber handed)⟩

def newlineUrl : CStr := .lit "/numbers/100\n"

/-- The number that is looked up has the newline, and the group has not. -/
theorem captures_newline_not_copied :
    routeHandler newlineUrl = .calledNumber (.lit "100\n") ∧
    Pcre2.regexMatch newlineUrl Pcre2.numberRoute = some (.lit "100\n") ∧
    Pcre2.captured newlineUrl Pcre2.numberRoute = some (CStr.lit "100").bytes ∧
    ¬ CapturesCopied newlineUrl := by
  have returned : Pcre2.regexMatch newlineUrl Pcre2.numberRoute = some (.lit "100\n") := by
    decide
  have group : Pcre2.captured newlineUrl Pcre2.numberRoute = some (CStr.lit "100").bytes := by
    decide
  refine ⟨?_, returned, group, fun copied => ?_⟩
  · rfl
  · have same := copied.number _ returned
    rw [group] at same
    exact absurd same (by decide)

end SentryPeer.Proof
