import Mathlib.Data.List.TakeDrop
import SentryPeer.Proof.Delivery

/-!
# The headers of the POST

The list with the content type is attached only where OAuth2 is on, and the bearer header goes through a
buffer of fixed size. Every POST is made with the token that was last issued.
-/

namespace SentryPeer.Proof
open Lib

section Headers
variable (jansson : Jansson) (server : Nat → Reply) (config : Config) (badActor : BadActor)

/-- The token last issued before the request `j`; if there is none, the cached one. -/
inductive LastIssued (requests : List Request) : Nat → CStr → Prop
  | cached {token : CStr} (isCached : config.oauth2AccessToken = some token) :
      LastIssued requests 0 token
  | issued {k : Nat} {token : CStr} (isIssued : IssuedAt jansson server config requests k token) :
      LastIssued requests (k + 1) token
  | kept {k : Nat} {token : CStr} (before : LastIssued requests k token)
      (none : ∀ other, ¬ IssuedAt jansson server config requests k other) :
      LastIssued requests (k + 1) token

def completeHeader (token : CStr) : CStr :=
  .ofMemory ((CStr.lit "Authorization: Bearer ").bytes ++ token.bytes)

def isAuthorization (header : CStr) : Bool :=
  (CStr.lit "Authorization:").bytes.isPrefixOf header.bytes

/-- The headers that the POST `j` has to have. -/
structure HeadersCorrect (requests : List Request) (j : Nat) (headers : List CStr) : Prop where
  contentType : contentType ∈ headers
  authorization : config.oauth2Mode = true → ∃ token,
    LastIssued jansson server config requests j token ∧
      headers.filter isAuthorization = [completeHeader token]

inductive HeadersSent (requests : List Request) (j : Nat) : List CStr → Prop
  | plain (off : config.oauth2Mode = false) : HeadersSent requests j []
  | bearer (on : config.oauth2Mode = true) {token : CStr}
      (last : LastIssued jansson server config requests j token) :
      HeadersSent requests j [contentType, bearerHeader token]

def Headed (requests : List Request) : Prop :=
  ∀ j request, requests[j]? = some request → WebhookPost config badActor request →
    HeadersSent jansson server config requests j request.headers

/-- Between two passes: a token in the cache is the last one. -/
structure HeaderInv (token : Option CStr) (requests : List Request) : Prop where
  headed : Headed jansson server config badActor requests
  last : ∀ cached, token = some cached →
    LastIssued jansson server config requests requests.length cached

end Headers

section Tokens
variable {jansson : Jansson} {server : Nat → Reply} {config : Config} {badActor : BadActor}
  {requests : List Request} {j k : Nat} {token other : CStr}

theorem IssuedAt.unique (first : IssuedAt jansson server config requests k token)
    (second : IssuedAt jansson server config requests k other) : token = other := by
  obtain ⟨-, status, body, reply, isToken⟩ := first
  obtain ⟨-, status', body', reply', isOther⟩ := second
  cases reply.symm.trans reply'
  cases isToken.symm.trans isOther
  rfl

theorem LastIssued.unique (first : LastIssued jansson server config requests j token)
    (second : LastIssued jansson server config requests j other) : token = other := by
  induction first with
  | cached isCached =>
      cases second with
      | cached isOther => exact Option.some.inj (isCached.symm.trans isOther)
  | issued isIssued =>
      cases second with
      | issued isOther => exact isIssued.unique isOther
      | kept _ none => exact absurd isIssued (none _)
  | kept _ none ih =>
      cases second with
      | issued isOther => exact absurd isOther (none _)
      | kept before _ => exact ih before

theorem issuedAt_append (inside : k < requests.length) (more : List Request) :
    IssuedAt jansson server config (requests ++ more) k token ↔
      IssuedAt jansson server config requests k token := by
  unfold IssuedAt
  rw [List.getElem?_append_left inside]

theorem LastIssued.append (last : LastIssued jansson server config requests j token)
    (inside : j ≤ requests.length) (more : List Request) :
    LastIssued jansson server config (requests ++ more) j token := by
  induction last with
  | cached isCached => exact .cached isCached
  | issued isIssued => exact .issued (isIssued.append more)
  | kept _ none ih =>
      refine .kept (ih (Nat.le_of_succ_le inside)) fun other isOther => ?_
      exact none other ((issuedAt_append inside more).mp isOther)

theorem HeadersSent.append {headers : List CStr}
    (sent : HeadersSent jansson server config requests j headers) (inside : j ≤ requests.length)
    (more : List Request) : HeadersSent jansson server config (requests ++ more) j headers := by
  cases sent with
  | plain off => exact .plain off
  | bearer on last => exact .bearer on (last.append inside more)

theorem Headed.tokenRequest (headed : Headed jansson server config badActor requests) {creds : Json}
    (isCreds : clientCredsJson config = some creds) :
    Headed jansson server config badActor (requests ++ [tokenRequest creds]) := by
  intro j request present isPost
  rcases getElem?_append_singleton.mp present with old | ⟨-, rfl⟩
  · exact (headed j request old isPost).append (List.getElem?_eq_some_iff.mp old).1.le _
  · exact absurd isPost (tokenRequest_not_post isCreds)

theorem Headed.post (headed : Headed jansson server config badActor requests) {json : Json}
    {headers : List CStr} (sent : HeadersSent jansson server config requests requests.length headers) :
    Headed jansson server config badActor (requests ++ [⟨config.webhookUrl, json, headers⟩]) := by
  intro j request present isPost
  rcases getElem?_append_singleton.mp present with old | ⟨rfl, rfl⟩
  · exact (headed j request old isPost).append (List.getElem?_eq_some_iff.mp old).1.le _
  · exact sent.append le_rfl _

end Tokens

/-! ## One pass -/

section Passes
variable {jansson : Jansson} {curl : Curl} {server : Nat → Reply} {config : Config}
  {badActor : BadActor}

/-- The handle is left with the list of the cached token, or with what it had. -/
theorem prepareOauth2_headers {s t : Sender}
    (ran : prepareOauth2 jansson curl server config s = .ok .success t) :
    (config.oauth2Mode = false ∧ t.easy.httpHeader = s.easy.httpHeader) ∨
      (config.oauth2Mode = true ∧ ∃ token, t.token = some token ∧
        t.easy.httpHeader = [contentType, bearerHeader token]) := by
  have set {u : Sender} {token : CStr} (cached : u.token = some token)
      (ran : setOauth2BearerTokenHeader curl [contentType] u = .ok .success t) :
      t.token = some token ∧ t.easy.httpHeader = [contentType, bearerHeader token] := by
    rcases setOauth2BearerTokenHeader_cases curl [contentType] u with left | through
    · cases left.symm.trans ran
    · cases through.symm.trans ran
      refine ⟨cached, ?_⟩
      rw [cached]
      rfl
  unfold prepareOauth2 at ran
  cases on : config.oauth2Mode with
  | false =>
      rw [on] at ran
      cases ran
      exact .inl ⟨rfl, rfl⟩
  | true =>
      right
      refine ⟨rfl, ?_⟩
      rw [on, Bool.not_true, if_neg Bool.false_ne_true] at ran
      obtain ⟨state, u, got, ran⟩ := run_bind_eq_ok.mp ran
      cases got
      cases cached : s.token with
      | some token =>
          rw [cached, Option.isSome_some, if_pos rfl] at ran
          exact ⟨token, set cached ran⟩
      | none =>
          rw [cached, Option.isSome_none, if_neg Bool.false_ne_true] at ran
          obtain ⟨ok, u, -, ran⟩ := run_bind_eq_ok.mp ran
          cases ok with
          | false => cases ran
          | true =>
              obtain ⟨exit, v, requested, ran⟩ := run_bind_eq_ok.mp ran
              cases exit with
              | failure => cases ran
              | success =>
                  have move := requestOauth2BearerToken_move jansson curl server config u
                  rw [requested] at move
                  obtain ⟨exit, w, wrote, ran⟩ := run_bind_eq_ok.mp ran
                  cases exit with
                  | failure => cases ran
                  | success =>
                      cases ran
                      cases move with
                      | issued isCreds requests reply isToken stored => exact ⟨_, set stored wrote⟩

def HeadResult (jansson : Jansson) (server : Nat → Reply) (config : Config) (badActor : BadActor) :
    EStateM.Result Abort Sender (Option Exit) → Prop
  | .ok none t => HeaderInv jansson server config badActor t.token t.requests
  | .ok (some _) t => Headed jansson server config badActor t.requests
  | .error _ t => Headed jansson server config badActor t.requests

theorem HeadResult.headed {result : EStateM.Result Abort Sender (Option Exit)}
    (given : HeadResult jansson server config badActor result) :
    Headed jansson server config badActor (finalState result).requests := by
  cases result with
  | ok exit t =>
      cases exit with
      | none => exact HeaderInv.headed given
      | some exit => exact given
  | error abort t => exact given

theorem postEvent_headed {json : Json} {s : Sender}
    (headed : Headed jansson server config badActor s.requests)
    (sent : HeadersSent jansson server config s.requests s.requests.length s.easy.httpHeader) :
    HeadResult jansson server config badActor (postEvent curl server config json s) := by
  have move := postEvent_move curl server config json s
  generalize postEvent curl server config json s = result at move
  cases move with
  | @unsent t token requests =>
      change Headed jansson server config badActor t.requests
      rw [requests]
      exact headed
  | @sent t exit requests outcome =>
      have after : Headed jansson server config badActor t.requests := by
        rw [requests]
        exact headed.post sent
      cases exit with
      | some exit => exact after
      | none =>
          refine ⟨after, fun cached isCached => ?_⟩
          rw [(postResult_none outcome).1] at isCached
          cases isCached

theorem PrepareMove.headerInv {token : Option CStr} {requests : List Request} {t : Sender}
    (move : PrepareMove jansson server config token requests (.ok .success t))
    (inv : HeaderInv jansson server config badActor token requests) :
    HeaderInv jansson server config badActor t.token t.requests := by
  cases move with
  | ready cached same sent =>
      rw [same, sent]
      exact inv
  | @issued _ creds status body new isCreds sent reply isToken stored headers =>
      rw [sent]
      refine ⟨inv.headed.tokenRequest isCreds, fun cached isCached => ?_⟩
      cases stored.symm.trans isCached
      rw [List.length_append, List.length_singleton]
      refine .issued ⟨⟨tokenRequest creds, ?_, rfl, isCreds, rfl⟩, status, body, reply, isToken⟩
      exact getElem?_append_singleton.mpr (.inr ⟨rfl, rfl⟩)

theorem PrepareMove.requests {token : Option CStr} {requests : List Request}
    {result : EStateM.Result Abort Sender Exit}
    (move : PrepareMove jansson server config token requests result) :
    (finalState result).requests = requests ∨ ∃ creds, clientCredsJson config = some creds ∧
      (finalState result).requests = requests ++ [tokenRequest creds] := by
  cases move with
  | unsent sent => exact .inl sent
  | ready _ _ sent => exact .inl sent
  | failed isCreds sent => exact .inr ⟨_, isCreds, sent⟩
  | stopped isCreds sent => exact .inr ⟨_, isCreds, sent⟩
  | issued isCreds sent => exact .inr ⟨_, isCreds, sent⟩

theorem PrepareMove.headed {token : Option CStr} {requests : List Request}
    {result : EStateM.Result Abort Sender Exit}
    (move : PrepareMove jansson server config token requests result)
    (headed : Headed jansson server config badActor requests) :
    Headed jansson server config badActor (finalState result).requests := by
  rcases move.requests with same | ⟨creds, isCreds, sent⟩
  · rw [same]
    exact headed
  · rw [sent]
    exact headed.tokenRequest isCreds

variable (jansson curl server) in
theorem postPass_headed {s : Sender}
    (inv : HeaderInv jansson server config badActor s.token s.requests) :
    HeadResult jansson server config badActor (postPass jansson curl server config badActor s) := by
  rw [postPass, run_bind, curlEasyInit]
  cases curl.init s.requests.length with
  | false => exact inv.headed
  | true =>
      cases isJson : badActorJson badActor with
      | none => exact inv.headed
      | some json =>
          refine curlEasySetopt_elim inv.headed ?_
          refine curlEasySetopt_elim inv.headed ?_
          refine curlEasySetopt_elim inv.headed ?_
          rw [run_bind]
          have prepared := prepareOauth2_move jansson curl server config
            { s with easy := CurlOption.timeout.apply (CurlOption.sslVersion.apply
              (CurlOption.userAgent.apply .init)) }
          have kept := prepared.headed inv.headed
          cases ran : prepareOauth2 jansson curl server config
            { s with easy := CurlOption.timeout.apply (CurlOption.sslVersion.apply
              (CurlOption.userAgent.apply .init)) } with
          | error abort t =>
              rw [ran] at kept
              exact kept
          | ok exit t =>
              rw [ran] at kept prepared
              cases exit with
              | failure => exact kept
              | success =>
                  have after := prepared.headerInv inv
                  refine postEvent_headed after.headed ?_
                  rcases prepareOauth2_headers ran with ⟨off, headers⟩ | ⟨on, token, cached, headers⟩
                  · rw [headers]
                    exact .plain off
                  · rw [headers]
                    exact .bearer on (after.last token cached)

end Passes

/-! ## The requests of a call -/

theorem requests_headed (jansson : Jansson) (curl : Curl) (server : Nat → Reply) (config : Config)
    (badActor : BadActor) (fuel : Nat) :
    Headed jansson server config badActor (finalState (jsonHttpPostBadActor jansson curl server
      config badActor fuel (senderOf config))).requests := by
  have initial : HeaderInv jansson server config badActor (senderOf config).token
      (senderOf config).requests := by
    refine ⟨fun j request present => ?_, fun cached isCached => .cached isCached⟩
    cases present
  rw [jsonHttpPostBadActor_eq]
  refine HeadResult.headed (retryLoop_run
    (I := fun s => HeaderInv jansson server config badActor s.token s.requests) ?_ ?_ ?_ ?_ fuel
    initial)
  · intro s t inv ran
    have result := postPass_headed jansson curl server inv
    rw [ran] at result
    exact result
  · intro s exit t inv ran
    have result := postPass_headed jansson curl server inv
    rw [ran] at result
    exact result
  · intro s abort t inv ran
    have result := postPass_headed jansson curl server inv
    rw [ran] at result
    exact result
  · exact fun s inv => inv

theorem noNul_completeHeader (token : CStr) :
    0 ∉ (CStr.lit "Authorization: Bearer ").bytes ++ token.bytes := by
  rw [List.mem_append]
  rintro (before | after)
  · exact (CStr.lit "Authorization: Bearer ").noNul before
  · exact token.noNul after

theorem bytes_bearerHeader (token : CStr) :
    (bearerHeader token).bytes = ((CStr.lit "Authorization: Bearer ").bytes ++ token.bytes).take
      ((CStr.lit "Authorization: Bearer ").length + auth0MaxBearerTokenLen) :=
  CStr.bytes_ofMemory fun member => noNul_completeHeader token (List.mem_of_mem_take member)

/-- The buffer of the header has room for a token of this length. -/
theorem bearerHeader_eq_iff (token : CStr) :
    bearerHeader token = completeHeader token ↔ token.length ≤ auth0MaxBearerTokenLen := by
  have whole : (completeHeader token).bytes = _ := CStr.bytes_ofMemory (noNul_completeHeader token)
  have cut : (bearerHeader token).bytes = (completeHeader token).bytes ↔
      token.length ≤ auth0MaxBearerTokenLen := by
    rw [bytes_bearerHeader, whole, List.take_eq_self_iff, List.length_append]
    exact Nat.add_le_add_iff_left
  rw [← cut]
  exact ⟨congrArg CStr.bytes, CStr.ext_bytes⟩

theorem isAuthorization_bearerHeader (token : CStr) : isAuthorization (bearerHeader token) = true := by
  have start : (CStr.lit "Authorization: Bearer ").bytes <+: (bearerHeader token).bytes := by
    rw [bytes_bearerHeader, CStr.length, List.take_length_add_append]
    exact List.prefix_append _ _
  have name : (CStr.lit "Authorization:").bytes <+: (CStr.lit "Authorization: Bearer ").bytes := by
    decide
  exact List.isPrefixOf_iff_prefix.mpr (name.trans start)

theorem acceptingServer_issues {config : Config} {requests : List Request} {j : Nat} {token : CStr}
    (missing : config.oauth2AccessToken = none)
    (last : LastIssued compactJansson acceptingServer config requests j token) :
    token = .lit "t0ken" := by
  induction last with
  | cached isCached => cases missing.symm.trans isCached
  | @issued k token isIssued =>
      obtain ⟨-, status, body, reply, isToken⟩ := isIssued
      cases k with
      | zero =>
          cases reply
          exact (Except.ok.inj (accessToken_tokenBody.symm.trans isToken)).symm
      | succ k =>
          cases reply
          cases isToken
  | kept _ _ ih => exact ih

end SentryPeer.Proof
