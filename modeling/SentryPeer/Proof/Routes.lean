import SentryPeer.Proof.Numbers

/-!
# Dispatch on the whole URL

Neither pattern is anchored, and the one for an address stands before a literal that it matches. The
handler takes the URL as a whole except where a pattern is found in a URL of another form.
-/

namespace SentryPeer.Proof
open Lib

def ipAddressLiteral : List UInt8 := (CStr.lit "/ip-addresses/").bytes
def numberLiteral : List UInt8 := (CStr.lit "/numbers/").bytes

/-! ## The patterns -/

theorem regexMatch_eq_none_iff {literal : List UInt8} {group : List UInt8 → Bool} {string : CStr} :
    regexMatch literal group string = none ↔
      ∀ before text, string.bytes = before ++ (literal ++ text) → group text = false := by
  simp only [regexMatch, Option.map_eq_none_iff, List.find?_eq_none, List.mem_tails,
    Bool.and_eq_true, not_and, Bool.not_eq_true]
  constructor
  · intro absent before text isText
    have found := absent (literal ++ text) ⟨before, isText.symm⟩
      (List.isPrefixOf_iff_prefix.mpr (List.prefix_append _ _))
    rwa [List.drop_left] at found
  · rintro absent suffix ⟨before, isSuffix⟩ isLiteral
    obtain ⟨text, rfl⟩ := List.isPrefixOf_iff_prefix.mp isLiteral
    rw [List.drop_left]
    exact absent before text isSuffix.symm

theorem anyGroup_iff {text : List UInt8} :
    anyGroup text = true ↔ ∃ b rest, text = b :: rest ∧ b ≠ 0x0A := by
  cases text with
  | nil => simp [anyGroup]
  | cons b rest => simp [anyGroup]

theorem exists_numberForm {digits : List UInt8} (nonempty : digits ≠ [])
    (all : ∀ b ∈ digits, isDigit b = true) :
    (∃ n, NumberForm n ∧ n.bytes = digits) ∧ ∃ n, NumberForm n ∧ n.bytes = 0x2B :: digits := by
  have noNul : 0 ∉ digits := fun member => absurd (all 0 member) (by decide)
  have noNul' : 0 ∉ (0x2B :: digits : List UInt8) := by
    rw [List.mem_cons, not_or]
    exact ⟨by decide, noNul⟩
  exact ⟨⟨⟨digits, noNul⟩, ⟨digits, nonempty, all, .inl rfl⟩, rfl⟩,
    ⟨0x2B :: digits, noNul'⟩, ⟨digits, nonempty, all, .inr rfl⟩, rfl⟩

theorem dropWhile_digit_iff {text : List UInt8} :
    ((text.dropWhile isDigit).length < text.length ∧
        (text.dropWhile isDigit = [] ∨ text.dropWhile isDigit = [0x0A])) ↔
      ∃ digits, digits ≠ [] ∧ (∀ b ∈ digits, isDigit b = true) ∧
        (text = digits ∨ text = digits ++ [0x0A]) := by
  constructor
  · rintro ⟨shorter, ending⟩
    have parts : text.takeWhile isDigit ++ text.dropWhile isDigit = text :=
      List.takeWhile_append_dropWhile
    refine ⟨text.takeWhile isDigit, ?_, fun b member => List.mem_takeWhile_imp member, ?_⟩
    · intro empty
      rw [empty, List.nil_append] at parts
      rw [parts] at shorter
      exact absurd shorter (Nat.lt_irrefl _)
    · apply ending.imp
      · intro empty
        rw [empty, List.append_nil] at parts
        exact parts.symm
      · intro newline
        rw [newline] at parts
        exact parts.symm
  · rintro ⟨digits, nonempty, all, rfl | rfl⟩
    · rw [List.dropWhile_eq_nil_iff.mpr all]
      exact ⟨List.length_pos_of_ne_nil nonempty, .inl rfl⟩
    · rw [List.dropWhile_append_of_pos all]
      refine ⟨?_, .inr rfl⟩
      rw [List.length_append]
      exact Nat.lt_add_of_pos_left (List.length_pos_of_ne_nil nonempty)

theorem numberGroup_iff {text : List UInt8} :
    numberGroup text = true ↔
      ∃ n, NumberForm n ∧ (text = n.bytes ∨ text = n.bytes ++ [0x0A]) := by
  have group : numberGroup text = true ↔
      ∃ digits, digits ≠ [] ∧ (∀ b ∈ digits, isDigit b = true) ∧
        ((if text.head? = some 0x2B then text.tail else text) = digits ∨
          (if text.head? = some 0x2B then text.tail else text) = digits ++ [0x0A]) := by
    rw [← dropWhile_digit_iff]
    simp only [numberGroup, Bool.and_eq_true, decide_eq_true_eq, Bool.or_eq_true, beq_iff_eq]
    exact Iff.rfl
  rw [group]
  constructor
  · rintro ⟨digits, nonempty, all, shape⟩
    obtain ⟨⟨plain, form, isPlain⟩, plus, form', isPlus⟩ := exists_numberForm nonempty all
    split at shape
    · rename_i first
      have isText : text = 0x2B :: text.tail := List.eq_cons_of_mem_head? first
      refine ⟨plus, form', ?_⟩
      rw [isText, isPlus]
      exact shape.imp (congrArg _) (congrArg _)
    · exact ⟨plain, form, isPlain ▸ shape⟩
  · rintro ⟨n, ⟨digits, nonempty, all, plain | plus⟩, isText⟩
    · refine ⟨digits, nonempty, all, ?_⟩
      rw [plain] at isText
      have noPlus : text.head? ≠ some 0x2B := by
        obtain ⟨b, more, rfl⟩ := List.exists_cons_of_ne_nil nonempty
        have digit := all b List.mem_cons_self
        rintro same
        rcases isText with rfl | rfl
        all_goals
          cases same
          exact absurd digit (by decide)
      rw [if_neg noPlus]
      exact isText
    · refine ⟨digits, nonempty, all, ?_⟩
      rw [plus] at isText
      rcases isText with rfl | rfl
      · exact .inl rfl
      · exact .inr rfl

/-- The pattern of an address is found somewhere in the URL. -/
def IpAddressInside (url : CStr) : Prop :=
  ∃ before b rest, url.bytes = before ++ (ipAddressLiteral ++ b :: rest) ∧ b ≠ 0x0A

/-- The pattern of a number is found somewhere in the URL: its end may be before a last newline. -/
def NumberInside (url : CStr) : Prop :=
  ∃ before n, NumberForm n ∧ (url.bytes = before ++ (numberLiteral ++ n.bytes) ∨
    url.bytes = before ++ (numberLiteral ++ (n.bytes ++ [0x0A])))

theorem matchIpAddress_eq_none_iff {url : CStr} :
    matchIpAddress url = none ↔ ¬ IpAddressInside url := by
  rw [matchIpAddress, regexMatch_eq_none_iff]
  constructor
  · rintro absent ⟨before, b, rest, isUrl, other⟩
    have accepted := anyGroup_iff.mpr ⟨b, rest, rfl, other⟩
    rw [absent before _ isUrl] at accepted
    cases accepted
  · intro absent before text isUrl
    rw [← Bool.not_eq_true, anyGroup_iff]
    rintro ⟨b, rest, rfl, other⟩
    exact absent ⟨before, b, rest, isUrl, other⟩

theorem matchNumber_eq_none_iff {url : CStr} : matchNumber url = none ↔ ¬ NumberInside url := by
  rw [matchNumber, regexMatch_eq_none_iff]
  constructor
  · rintro absent ⟨before, n, form, isUrl | isUrl⟩
    · have accepted := numberGroup_iff.mpr ⟨n, form, .inl rfl⟩
      rw [absent before _ isUrl] at accepted
      cases accepted
    · have accepted := numberGroup_iff.mpr ⟨n, form, .inr rfl⟩
      rw [absent before _ isUrl] at accepted
      cases accepted
  · intro absent before text isUrl
    rw [← Bool.not_eq_true, numberGroup_iff]
    rintro ⟨n, form, rfl | rfl⟩
    · exact absent ⟨before, n, form, .inl isUrl⟩
    · exact absent ⟨before, n, form, .inr isUrl⟩

/-! ## The URL as a whole -/

/-- The response of each literal of `http_routes.h`. -/
def literalRoute (url : CStr) : Option Route :=
  if url = healthCheckRoute then some .healthCheck
  else if url = homePageRoute then some (.reply ⟨200, contentTypeJson, .text statusOkJson⟩)
  else if url = ipAddressesRoute then some .ipAddresses
  else if url = numbersRoute then some .calledNumbers
  else if url = ipAddressesIpsetRoute ∨ url ∈ stubRoutes then
    some (.reply ⟨200, contentTypeHtml, .text url⟩)
  else none

def IpAddressUrl (url s : CStr) : Prop :=
  url.bytes = ipAddressLiteral ++ s.bytes ∧ 0x0A ∉ s.bytes

def NumberUrl (url n : CStr) : Prop := url.bytes = numberLiteral ++ n.bytes ∧ NumberForm n

/-- The dispatch on the whole URL: a literal, else an address, else a number, else nothing. -/
inductive DispatchesWhole (url : CStr) : Route → Prop
  | literal {route : Route} (isLiteral : literalRoute url = some route) : DispatchesWhole url route
  | ipAddress {s : CStr} (notLiteral : literalRoute url = none) (isUrl : IpAddressUrl url s)
      (valid : validIpAddressFormat s = true) : DispatchesWhole url (.ipAddress s)
  | badData {s : CStr} (notLiteral : literalRoute url = none) (isUrl : IpAddressUrl url s)
      (invalid : validIpAddressFormat s = false) :
      DispatchesWhole url (.reply ⟨400, contentTypeJson, .text badDataJson⟩)
  | number {n : CStr} (notLiteral : literalRoute url = none)
      (notIpAddress : ∀ s, ¬ IpAddressUrl url s) (isUrl : NumberUrl url n) :
      DispatchesWhole url (.calledNumber n)
  | notFound (notLiteral : literalRoute url = none) (notIpAddress : ∀ s, ¬ IpAddressUrl url s)
      (notNumber : ∀ n, ¬ NumberUrl url n) :
      DispatchesWhole url (.reply ⟨404, contentTypeJson, .text notFoundErrorJson⟩)

/-- No pattern stands before a literal or is found in a URL that is not of its form. -/
structure MatchedWhole (url : CStr) : Prop where
  notIpset : url ≠ ipAddressesIpsetRoute
  notEmpty : url.bytes ≠ ipAddressLiteral
  inside : IpAddressInside url ∨ NumberInside url →
    (∃ s, IpAddressUrl url s) ∨ ∃ n, NumberUrl url n

section Dispatch
variable {url : CStr}

def unmatchedLiterals : List CStr :=
  [healthCheckRoute, homePageRoute, ipAddressesRoute, numbersRoute] ++ stubRoutes

theorem unmatchedLiterals_match : ∀ literal ∈ unmatchedLiterals,
    matchIpAddress literal = none ∧ matchNumber literal = none := by
  decide

theorem literalRoute_mem {route : Route} (isLiteral : literalRoute url = some route) :
    url = ipAddressesIpsetRoute ∨ url ∈ unmatchedLiterals := by
  by_contra absent
  simp only [unmatchedLiterals, List.cons_append, List.nil_append, List.mem_cons, not_or]
    at absent
  obtain ⟨notIpset, notHealth, notHome, notIps, notNumbers, notStub⟩ := absent
  rw [literalRoute, if_neg notHealth, if_neg notHome, if_neg notIps, if_neg notNumbers,
    if_neg (not_or.mpr ⟨notIpset, notStub⟩)] at isLiteral
  cases isLiteral

theorem routeHandler_literal {route : Route} (notIpset : url ≠ ipAddressesIpsetRoute)
    (isLiteral : literalRoute url = some route) :
    routeHandler url = route ∧ ¬ IpAddressInside url ∧ ¬ NumberInside url := by
  have unmatched := unmatchedLiterals_match url ((literalRoute_mem isLiteral).resolve_left notIpset)
  refine ⟨?_, matchIpAddress_eq_none_iff.mp unmatched.1, matchNumber_eq_none_iff.mp unmatched.2⟩
  rw [literalRoute] at isLiteral
  split_ifs at isLiteral with health home ips numbers other
  · cases isLiteral
    rw [routeHandler, if_pos health]
  · cases isLiteral
    rw [routeHandler, if_neg health, if_pos home]
  · cases isLiteral
    rw [routeHandler, if_neg health, if_neg home, if_pos ips]
  · cases isLiteral
    subst numbers
    rfl
  · cases isLiteral
    simp only [routeHandler, health, home, ips, unmatched.1, notIpset, numbers, unmatched.2,
      other.resolve_left notIpset, ↓reduceIte]

theorem routeHandler_notLiteral (notLiteral : literalRoute url = none) :
    routeHandler url =
      match matchIpAddress url with
      | some ipAddress =>
          if validIpAddressFormat ipAddress then .ipAddress ipAddress
          else .reply ⟨400, contentTypeJson, .text badDataJson⟩
      | none =>
          match matchNumber url with
          | some phoneNumber => .calledNumber phoneNumber
          | none => .reply ⟨404, contentTypeJson, .text notFoundErrorJson⟩ := by
  rw [literalRoute] at notLiteral
  split_ifs at notLiteral with notHealth notHome notIps notNumbers notStub
  obtain ⟨notIpset, notStub⟩ := not_or.mp notStub
  rw [routeHandler, if_neg notHealth, if_neg notHome, if_neg notIps]
  cases matchIpAddress url with
  | some ipAddress => rfl
  | none =>
      dsimp only
      rw [if_neg notIpset, if_neg notNumbers]
      cases matchNumber url with
      | some phoneNumber => rfl
      | none => exact if_neg notStub

theorem routeHandler_ipAddress {s : CStr} (notLiteral : literalRoute url = none)
    (isUrl : IpAddressUrl url s) (notEmpty : url.bytes ≠ ipAddressLiteral) :
    routeHandler url = if validIpAddressFormat s then .ipAddress s
      else .reply ⟨400, contentTypeJson, .text badDataJson⟩ := by
  have accepted : anyGroup s.bytes = true := by
    cases bytes : s.bytes with
    | nil =>
        rw [IpAddressUrl, bytes, List.append_nil] at isUrl
        exact absurd isUrl.1 notEmpty
    | cons b rest =>
        refine anyGroup_iff.mpr ⟨b, rest, rfl, ?_⟩
        rintro rfl
        exact isUrl.2 (bytes ▸ List.mem_cons_self)
  have matched : matchIpAddress url = some s := by
    exact (regexMatch_whole isUrl.1 accepted).trans (congrArg some (CStr.ofMemory_bytes s))
  rw [routeHandler_notLiteral notLiteral, matched]

theorem routeHandler_number {n : CStr} (isUrl : NumberUrl url n) :
    routeHandler url = .calledNumber n := by
  have same : url = numberUrl n := CStr.ext_bytes (isUrl.1.trans (numberUrl_bytes n).symm)
  rw [same]
  exact routeHandler_numberUrl isUrl.2

theorem not_inside_of_notFound (notLiteral : literalRoute url = none)
    (notFound : routeHandler url = .reply ⟨404, contentTypeJson, .text notFoundErrorJson⟩) :
    ¬ IpAddressInside url ∧ ¬ NumberInside url := by
  rw [routeHandler_notLiteral notLiteral] at notFound
  rw [← matchIpAddress_eq_none_iff, ← matchNumber_eq_none_iff]
  cases ip : matchIpAddress url with
  | some ipAddress =>
      rw [ip] at notFound
      dsimp only at notFound
      split at notFound <;> cases notFound
  | none =>
      rw [ip] at notFound
      cases number : matchNumber url with
      | some phoneNumber =>
          rw [number] at notFound
          cases notFound
      | none => exact ⟨rfl, rfl⟩

theorem not_dispatchesWhole_ipset :
    ¬ DispatchesWhole ipAddressesIpsetRoute (routeHandler ipAddressesIpsetRoute) := by
  have answer : routeHandler ipAddressesIpsetRoute =
      .reply ⟨400, contentTypeJson, .text badDataJson⟩ := rfl
  have isLiteral : literalRoute ipAddressesIpsetRoute =
      some (.reply ⟨200, contentTypeHtml, .text ipAddressesIpsetRoute⟩) := rfl
  rw [answer]
  intro whole
  cases whole with
  | literal other => cases other.symm.trans isLiteral
  | badData notLiteral => cases notLiteral.symm.trans isLiteral

theorem not_dispatchesWhole_empty (isUrl : url.bytes = ipAddressLiteral) :
    ¬ DispatchesWhole url (routeHandler url) := by
  have same : url = .lit "/ip-addresses/" := CStr.ext_bytes isUrl
  subst same
  have answer : routeHandler (.lit "/ip-addresses/") =
      .reply ⟨404, contentTypeJson, .text notFoundErrorJson⟩ := rfl
  have ofAddress : IpAddressUrl (.lit "/ip-addresses/") (.lit "") := ⟨rfl, by decide⟩
  rw [answer]
  intro whole
  cases whole with
  | literal isLiteral => cases isLiteral
  | notFound _ notIpAddress => exact notIpAddress _ ofAddress

theorem matchedWhole_of_dispatchesWhole (whole : DispatchesWhole url (routeHandler url)) :
    MatchedWhole url := by
  have notIpset : url ≠ ipAddressesIpsetRoute := by
    rintro rfl
    exact not_dispatchesWhole_ipset whole
  refine ⟨notIpset, fun isEmpty => not_dispatchesWhole_empty isEmpty whole, fun found => ?_⟩
  generalize isRoute : routeHandler url = route at whole
  cases whole with
  | literal isLiteral =>
      obtain ⟨-, noIp, noNumber⟩ := routeHandler_literal notIpset isLiteral
      exact absurd found (not_or.mpr ⟨noIp, noNumber⟩)
  | ipAddress _ isUrl => exact .inl ⟨_, isUrl⟩
  | badData _ isUrl => exact .inl ⟨_, isUrl⟩
  | number _ _ isUrl => exact .inr ⟨_, isUrl⟩
  | notFound notLiteral =>
      exact absurd found (not_or.mpr (not_inside_of_notFound notLiteral isRoute))

theorem dispatchesWhole_of_matchedWhole (matched : MatchedWhole url) :
    DispatchesWhole url (routeHandler url) := by
  cases literal : literalRoute url with
  | some route =>
      rw [(routeHandler_literal matched.notIpset literal).1]
      exact .literal literal
  | none =>
      by_cases ofAddress : ∃ s, IpAddressUrl url s
      · obtain ⟨s, isUrl⟩ := ofAddress
        rw [routeHandler_ipAddress literal isUrl matched.notEmpty]
        cases valid : validIpAddressFormat s with
        | true => exact .ipAddress literal isUrl valid
        | false => exact .badData literal isUrl valid
      · by_cases ofNumber : ∃ n, NumberUrl url n
        · obtain ⟨n, isUrl⟩ := ofNumber
          rw [routeHandler_number isUrl]
          exact .number literal (not_exists.mp ofAddress) isUrl
        · have absent : ¬ (IpAddressInside url ∨ NumberInside url) := fun found =>
            (matched.inside found).elim ofAddress ofNumber
          rw [not_or, ← matchIpAddress_eq_none_iff, ← matchNumber_eq_none_iff] at absent
          rw [routeHandler_notLiteral literal, absent.1, absent.2]
          exact .notFound literal (not_exists.mp ofAddress) (not_exists.mp ofNumber)

end Dispatch

theorem routeHandlerCalls_get (url : CStr) :
    routeHandlerCalls (.lit "GET") url 0 = .queued (routeHandler url) := rfl

theorem routeHandler_whole_iff (url : CStr) :
    (∃ route, routeHandlerCalls (.lit "GET") url 0 = .queued route ∧ DispatchesWhole url route) ↔
      MatchedWhole url := by
  rw [routeHandlerCalls_get]
  constructor
  · rintro ⟨route, same, whole⟩
    cases same
    exact matchedWhole_of_dispatchesWhole whole
  · intro matched
    exact ⟨_, rfl, dispatchesWhole_of_matchedWhole matched⟩

/-- The literal for the ipset is taken for an address. -/
theorem routeHandler_ipset_not_whole :
    routeHandlerCalls (.lit "GET") ipAddressesIpsetRoute 0 =
        .queued (.reply ⟨400, contentTypeJson, .text badDataJson⟩) ∧
      ¬ ∃ route, routeHandlerCalls (.lit "GET") ipAddressesIpsetRoute 0 = .queued route ∧
        DispatchesWhole ipAddressesIpsetRoute route := by
  refine ⟨rfl, ?_⟩
  rintro ⟨route, same, whole⟩
  cases same
  exact not_dispatchesWhole_ipset whole

end SentryPeer.Proof
