import SentryPeer.Proof.JsonLogger
import SentryPeer.Source.Webhook

/-!
# Rounds of the webhook senders

What one pass of a sender does depends only on the cached token and on the next two replies. The
rounds below say so for both senders; runs are sequences of rounds.
-/

namespace SentryPeer.Proof
open Lib

structure CurlWorks (curl : Curl) : Prop where
  init : ∀ n, curl.init n = true
  setopt : ∀ n option, curl.setopt n option = true
  snprintf : ∀ n, curl.snprintf n = true

def Utf8Creds (config : Config) : Prop :=
  validUtf8 config.oauth2ClientId.bytes = true ∧ validUtf8 config.oauth2ClientSecret.bytes = true

instance (config : Config) : Decidable (Utf8Creds config) :=
  inferInstanceAs (Decidable (_ ∧ _))

def clientCredsMembers (config : Config) : List (String × List UInt8) := [
  ("client_id", config.oauth2ClientId.bytes),
  ("client_secret", config.oauth2ClientSecret.bytes),
  ("audience", sentrypeerOauth2Audience.bytes),
  ("grant_type", sentrypeerOauth2GrantType.bytes)]

theorem clientCredsJson_eq (config : Config) :
    clientCredsJson config =
      if Utf8Creds config then some (flatObject (clientCredsMembers config)) else none := by
  have own : validUtf8 sentrypeerOauth2Audience.bytes = true ∧
      validUtf8 sentrypeerOauth2GrantType.bytes = true := by decide
  simp only [clientCredsJson, jsonPack, List.all_cons, List.all_nil, own.1, own.2, Bool.and_true,
    Bool.and_eq_true, List.map_cons, List.map_nil, Utf8Creds]
  rfl

theorem clientCredsJsonRs_eq (config : Config) :
    clientCredsJsonRs config =
      if Utf8Creds config then .ok (serdeMap (clientCredsMembers config))
      else .error (.panic .jsonHttpPostBadActorRs) := by
  unfold clientCredsJsonRs toStr strOrEmpty Utf8Creds
  by_cases idUtf8 : validUtf8 config.oauth2ClientId.bytes = true
  · by_cases secretUtf8 : validUtf8 config.oauth2ClientSecret.bytes = true
    · simp only [idUtf8, secretUtf8, and_self, ↓reduceIte]
      rfl
    · simp only [idUtf8, secretUtf8, ↓reduceIte]
      rfl
  · simp only [idUtf8]
    rfl

/-! ## Rounds -/

inductive Kind
  | token
  | webhook
deriving DecidableEq

/-- What one pass gives: the result of the call, or `none` for another pass; the token it leaves;
and the requests it made. -/
structure Round where
  exit : Option Exit
  token : Option CStr
  sent : List Kind

def webhookRound (reply : Reply) (token : CStr) (sent : List Kind) : Round :=
  match reply with
  | .transportFailure => ⟨some .failure, some token, sent ++ [.webhook]⟩
  | .response status _ =>
      if status = 200 ∨ status = 201 then ⟨some .success, some token, sent ++ [.webhook]⟩
      else if status = 401 ∨ status = 403 then ⟨none, none, sent ++ [.webhook]⟩
      else ⟨some .failure, some token, sent ++ [.webhook]⟩

theorem webhookRound_sent (reply : Reply) (token : CStr) (sent : List Kind) :
    webhookRound reply token sent =
      { webhookRound reply token [] with sent := sent ++ (webhookRound reply token []).sent } := by
  cases reply with
  | transportFailure => rfl
  | response status body =>
      simp only [webhookRound]
      split_ifs <;> rfl

section Rounds
variable (jansson : Jansson) (serde : Serde) (reqwest : Reqwest) (server : Nat → Reply)
  (config : Config)

/-- A pass of the C sender in OAuth2 mode, `none` where an assertion fails. -/
def roundC (token : Option CStr) (n : Nat) : Option Round :=
  match token with
  | some token => some (webhookRound (server n) token [])
  | none =>
      if Utf8Creds config then
        match server n with
        | .transportFailure => some ⟨some .failure, none, [.token]⟩
        | .response _ body =>
            match accessToken jansson body with
            | .error _ => none
            | .ok token => some (webhookRound (server (n + 1)) token [.token])
      else some ⟨some .failure, none, []⟩

def Sendable (token : CStr) : Prop :=
  validUtf8 token.bytes = true ∧ validUtf8 config.webhookUrl.bytes = true ∧
    reqwest.parsesUrl config.webhookUrl = true ∧ headerValue token.bytes = true

instance (token : CStr) : Decidable (Sendable reqwest config token) :=
  inferInstanceAs (Decidable (_ ∧ _ ∧ _ ∧ _))

def webhookRoundRs (reply : Reply) (token : CStr) (sent : List Kind) : Option Round :=
  if Sendable reqwest config token then
    match reply with
    | .transportFailure => none
    | .response status body => some (webhookRound (.response status body) token sent)
  else none

/-- A pass of the Rust sender in OAuth2 mode, `none` where it panics. -/
def roundRs (token : Option CStr) (n : Nat) : Option Round :=
  match token with
  | some token => webhookRoundRs reqwest config (server n) token []
  | none =>
      if Utf8Creds config then
        match server n with
        | .transportFailure => none
        | .response status body =>
            if status ≠ 200 then some ⟨some .failure, none, [.token]⟩
            else
              match accessTokenRs serde body with
              | .error _ => none
              | .ok token => webhookRoundRs reqwest config (server (n + 1)) token [.token]
      else none

end Rounds

def runRounds (round : Option CStr → Nat → Option Round) (afterRetry : Exit → Exit) :
    Nat → Option CStr → Nat → Option Round
  | 0, token, _ => some ⟨none, token, []⟩
  | fuel + 1, token, n =>
      match round token n with
      | none => none
      | some first =>
          match first.exit with
          | some _ => some first
          | none =>
              match runRounds round afterRetry fuel first.token (n + first.sent.length) with
              | none => none
              | some rest =>
                  some ⟨rest.exit.map afterRetry, rest.token, first.sent ++ rest.sent⟩

theorem runRounds_returned {round : Option CStr → Nat → Option Round} {afterRetry : Exit → Exit}
    {fuel : Nat} {token : Option CStr} {n : Nat} {r : Round}
    (ran : runRounds round afterRetry fuel token n = some r) (returned : r.exit.isSome = true) :
    ∃ first, round token n = some first ∧
      ((first.exit.isSome = true ∧ r = first) ∨
        (first.exit = none ∧ ∃ fuel' rest, fuel = fuel' + 1 ∧
          runRounds round afterRetry fuel' first.token (n + first.sent.length) = some rest ∧
          r = ⟨rest.exit.map afterRetry, rest.token, first.sent ++ rest.sent⟩)) := by
  cases fuel with
  | zero =>
      cases ran
      cases returned
  | succ fuel =>
      cases played : round token n with
      | none => simp [runRounds, played] at ran
      | some first =>
          refine ⟨first, rfl, ?_⟩
          cases ended : first.exit with
          | some exit =>
              simp only [runRounds, played, ended, Option.some.injEq] at ran
              exact .inl ⟨rfl, ran.symm⟩
          | none =>
              simp only [runRounds, played, ended] at ran
              cases later : runRounds round afterRetry fuel first.token
                  (n + first.sent.length) with
              | none => simp [later] at ran
              | some rest =>
                  simp only [later, Option.some.injEq] at ran
                  exact .inr ⟨rfl, fuel, rest, rfl, later, ran.symm⟩

/-! ## The senders run rounds -/

def wire (request : Request) : CStr × Json := (request.url, request.body)

def wireC (config : Config) (badActor : BadActor) : Kind → CStr × Json
  | .token => (sentrypeerOauth2TokenUrl, flatObject (clientCredsMembers config))
  | .webhook => (config.webhookUrl, flatObject (badActorMembers badActor))

def wireRs (config : Config) (badActor : BadActor) : Kind → CStr × Json
  | .token => (sentrypeerOauth2TokenUrl, serdeMap (clientCredsMembers config))
  | .webhook => (config.webhookUrl, serdeMap (badActorMembers badActor))

/-- The computation does what the round says, `none` being an abort. -/
def Performs (x : EStateM Abort Sender (Option Exit)) (s : Sender) (wireOf : Kind → CStr × Json) :
    Option Round → Prop
  | none => ∃ e t, x s = .error e t
  | some round => ∃ t, x s = .ok round.exit t ∧ t.token = round.token ∧
      t.requests.map wire = s.requests.map wire ++ round.sent.map wireOf

theorem Performs.of_eq {x y : EStateM Abort Sender (Option Exit)} {s : Sender}
    {wireOf : Kind → CStr × Json} {round : Option Round} (performs : Performs y s wireOf round)
    (equal : x s = y s) : Performs x s wireOf round := by
  unfold Performs at performs ⊢
  rwa [equal]

theorem performs_ok {x : EStateM Abort Sender (Option Exit)} {s t : Sender}
    {wireOf : Kind → CStr × Json} {round : Option Round} {exit : Option Exit}
    (performs : Performs x s wireOf round) (ran : x s = .ok exit t) :
    ∃ r, round = some r ∧ r.exit = exit ∧ r.token = t.token ∧
      t.requests.map wire = s.requests.map wire ++ r.sent.map wireOf := by
  cases round with
  | none =>
      obtain ⟨e, u, stopped⟩ := performs
      rw [ran] at stopped
      cases stopped
  | some r =>
      obtain ⟨u, returned, token, requests⟩ := performs
      rw [ran, EStateM.Result.ok.injEq] at returned
      obtain ⟨rfl, rfl⟩ := returned
      exact ⟨r, rfl, rfl, token.symm, requests⟩

section C
variable {jansson : Jansson} {curl : Curl} {server : Nat → Reply} {config : Config}
  {badActor : BadActor}

theorem curlEasySetopt_works (works : CurlWorks curl) (option : CurlOption) (s : Sender) :
    curlEasySetopt curl option s = .ok true { s with easy := option.apply s.easy } := by
  simp [curlEasySetopt, works.setopt]

theorem setOauth2BearerTokenHeader_works (works : CurlWorks curl) (headers : List CStr)
    (s : Sender) : ∃ easy, setOauth2BearerTokenHeader curl headers s =
      .ok .success { s with easy := easy } := by
  refine ⟨{ s.easy with
    httpHeader := headers ++ [bearerHeader (s.token.getD (.lit "(null)"))] }, ?_⟩
  simp only [setOauth2BearerTokenHeader, run_bind, run_get,
    works.snprintf, Bool.not_true, Bool.false_eq_true, ↓reduceIte, curlEasySetopt_works works,
    run_pure]
  rfl

theorem curlEasyPerform_set {s : Sender} {url : CStr} {body : Json} (hu : s.easy.url = some url)
    (hb : s.easy.postFields = some body) :
    curlEasyPerform server s = .ok (server s.requests.length)
      { s with requests := s.requests ++ [⟨url, body, s.easy.httpHeader⟩] } := by
  simp only [curlEasyPerform, run_bind, run_get, hu, hb, perform]

variable (server badActor) in
theorem postEvent_performs (works : CurlWorks curl) (oauth2 : config.oauth2Mode = true)
    (s : Sender) (token : CStr) (cached : s.token = some token) :
    Performs (postEvent curl server config (flatObject (badActorMembers badActor))) s
      (wireC config badActor) (some (webhookRound (server s.requests.length) token [])) := by
  simp only [Performs, postEvent, run_bind, curlEasySetopt_works works, Bool.not_true,
    Bool.false_eq_true, ↓reduceIte]
  rw [curlEasyPerform_set rfl rfl]
  simp only [webhookRound]
  cases reply : server s.requests.length with
  | transportFailure =>
      exact ⟨_, rfl, cached, by simp [wire, wireC, CurlOption.apply]⟩
  | response status body =>
      simp only [oauth2, true_and]
      by_cases accepted : status = 200 ∨ status = 201
      · simp only [accepted, ↓reduceIte]
        exact ⟨_, rfl, cached, by simp [wire, wireC, CurlOption.apply]⟩
      · by_cases rejected : status = 401 ∨ status = 403
        · simp only [accepted, rejected, ↓reduceIte]
          exact ⟨_, rfl, rfl, by simp [wire, wireC, CurlOption.apply]⟩
        · simp only [accepted, rejected, ↓reduceIte]
          exact ⟨_, rfl, cached, by simp [wire, wireC, CurlOption.apply]⟩

variable (jansson server) in
theorem requestOauth2BearerToken_refused (works : CurlWorks curl) (invalid : ¬ Utf8Creds config)
    (s : Sender) : ∃ easy, requestOauth2BearerToken jansson curl server config s =
      .ok .failure { s with easy := easy } := by
  refine ⟨{ s.easy with url := some sentrypeerOauth2TokenUrl }, ?_⟩
  simp only [requestOauth2BearerToken, run_bind, curlEasySetopt_works works, Bool.not_true,
    Bool.false_eq_true, ↓reduceIte, clientCredsJson_eq, invalid, run_pure]
  rfl

variable (jansson server) in
theorem requestOauth2BearerToken_sent (works : CurlWorks curl) (utf8 : Utf8Creds config)
    (s : Sender) : ∃ easy headers,
      requestOauth2BearerToken jansson curl server config s =
        let sent : Sender := { s with
          easy := easy
          requests := s.requests ++
            [⟨sentrypeerOauth2TokenUrl, flatObject (clientCredsMembers config), headers⟩] }
        match server s.requests.length with
        | .transportFailure => .ok .failure sent
        | .response _ body =>
            match accessToken jansson body with
            | .error e => .error e sent
            | .ok token => .ok .success { sent with token := some token } := by
  refine ⟨{ s.easy with
    url := some sentrypeerOauth2TokenUrl
    postFields := some (flatObject (clientCredsMembers config)) }, s.easy.httpHeader, ?_⟩
  simp only [requestOauth2BearerToken, run_bind, curlEasySetopt_works works, Bool.not_true,
    Bool.false_eq_true, ↓reduceIte, clientCredsJson_eq, utf8]
  rw [curlEasyPerform_set rfl rfl]
  cases reply : server s.requests.length with
  | transportFailure => rfl
  | response status body =>
      cases token : accessToken jansson body with
      | error e => simp only [token]; rfl
      | ok token => simp only [token]; rfl

variable (jansson server) in
theorem prepareOauth2_cached (works : CurlWorks curl) (oauth2 : config.oauth2Mode = true)
    {s : Sender} (cached : s.token.isSome = true) :
    ∃ easy, prepareOauth2 jansson curl server config s = .ok .success { s with easy := easy } := by
  obtain ⟨easy, set⟩ := setOauth2BearerTokenHeader_works works [contentType] s
  refine ⟨easy, ?_⟩
  simp only [prepareOauth2, oauth2, Bool.not_true, Bool.false_eq_true, ↓reduceIte, run_bind,
    run_get, cached]
  exact set

variable (jansson server) in
theorem prepareOauth2_missing (works : CurlWorks curl) (oauth2 : config.oauth2Mode = true)
    {s : Sender} (missing : s.token = none) :
    ∃ easy, prepareOauth2 jansson curl server config s =
      getAndSetOauth2BearerToken jansson curl server config [contentType]
        { s with easy := easy } := by
  refine ⟨{ s.easy with httpHeader := [contentType] }, ?_⟩
  simp only [prepareOauth2, oauth2, Bool.not_true, Bool.false_eq_true, ↓reduceIte, run_bind,
    run_get, missing, Option.isSome_none, curlEasySetopt_works works]
  rfl

variable (jansson server config) in
theorem postPass_eq (works : CurlWorks curl) (utf8 : Utf8Fields badActor) (s : Sender) :
    ∃ easy, postPass jansson curl server config badActor s =
      (prepareOauth2 jansson curl server config >>= fun prepared =>
        if prepared ≠ .success then pure (some .failure)
        else postEvent curl server config (flatObject (badActorMembers badActor)))
          { s with easy := easy } := by
  refine ⟨.init, ?_⟩
  simp only [postPass, run_bind, curlEasyInit, works.init, curlEasySetopt_works works,
    Bool.not_true, Bool.false_eq_true, ↓reduceIte, badActorJson_eq, utf8]
  rfl

variable (server badActor) in
theorem postEvent_after (works : CurlWorks curl) (oauth2 : config.oauth2Mode = true)
    {s t : Sender} {token : CStr} (sent : List Kind) (cached : t.token = some token)
    (before : t.requests.map wire = s.requests.map wire ++ sent.map (wireC config badActor)) :
    Performs (fun _ => postEvent curl server config (flatObject (badActorMembers badActor)) t) s
      (wireC config badActor) (some (webhookRound (server t.requests.length) token sent)) := by
  obtain ⟨u, ran, left, requests⟩ := postEvent_performs server badActor works oauth2 t token
    cached
  rw [webhookRound_sent]
  refine ⟨u, ran, left, ?_⟩
  rw [requests, before, List.map_append, List.append_assoc]

variable (jansson server) in
theorem postPass_performs (works : CurlWorks curl) (oauth2 : config.oauth2Mode = true)
    (utf8 : Utf8Fields badActor) (s : Sender) :
    Performs (postPass jansson curl server config badActor) s (wireC config badActor)
      (roundC jansson server config s.token s.requests.length) := by
  obtain ⟨easy, equal⟩ := postPass_eq jansson server config works utf8 s
  rw [run_bind] at equal
  cases cached : s.token with
  | some token =>
      obtain ⟨prepared, ran⟩ := prepareOauth2_cached jansson server works oauth2
        (s := { s with easy := easy }) (by simp [cached])
      have posted := postEvent_after server badActor works oauth2 (s := s)
        (t := { s with easy := prepared }) [] cached (by simp)
      simp only [ran] at equal
      exact posted.of_eq equal
  | none =>
      obtain ⟨start, ran⟩ := prepareOauth2_missing jansson server works oauth2
        (s := { s with easy := easy }) cached
      rw [ran, getAndSetOauth2BearerToken, run_bind] at equal
      by_cases creds : Utf8Creds config
      · obtain ⟨used, headers, requested⟩ := requestOauth2BearerToken_sent jansson server works
          creds { s with easy := start }
        simp only [requested] at equal
        simp only [roundC, creds, ↓reduceIte]
        cases reply : server s.requests.length with
        | transportFailure =>
            simp only [reply] at equal
            exact ⟨_, equal, cached, by simp [wire, wireC]⟩
        | response status body =>
            cases given : accessToken jansson body with
            | error e =>
                simp only [reply, given] at equal
                simp only [given]
                exact ⟨e, _, equal⟩
            | ok token =>
                simp only [reply, given, ne_eq, not_true_eq_false, ↓reduceIte, run_bind] at equal
                simp only [given]
                obtain ⟨final, set⟩ := setOauth2BearerTokenHeader_works works [contentType]
                  { s with
                    token := some token
                    easy := used
                    requests := s.requests ++ [⟨sentrypeerOauth2TokenUrl,
                      flatObject (clientCredsMembers config), headers⟩] }
                have posted := postEvent_after server badActor works oauth2 (s := s) (t := { s with
                    token := some token
                    easy := final
                    requests := s.requests ++ [⟨sentrypeerOauth2TokenUrl,
                      flatObject (clientCredsMembers config), headers⟩] }) [.token] rfl
                  (by simp [wire, wireC])
                simp only [set] at equal
                simp only [List.length_append, List.length_singleton] at posted
                exact posted.of_eq equal
      · obtain ⟨used, refused⟩ := requestOauth2BearerToken_refused jansson server works creds
          { s with easy := start }
        simp only [refused] at equal
        simp only [roundC, creds, ↓reduceIte]
        exact ⟨_, equal, cached, by simp⟩

end C

section Rust
variable {serde : Serde} {reqwest : Reqwest} {server : Nat → Reply} {config : Config}
  {badActor : BadActor}

theorem toStr_eq (site : Function) (string : CStr) :
    toStr site string = if validUtf8 string.bytes then .ok string.bytes else .error (.panic site) :=
  rfl

variable (server) in
theorem postEventRs_sendable {token : CStr} (sendable : Sendable reqwest config token) (json : Json)
    (s : Sender) : ∃ headers, postEventRs reqwest server config json token s =
      let sent : Sender := { s with requests := s.requests ++ [⟨config.webhookUrl, json, headers⟩] }
      match server s.requests.length with
      | .transportFailure => .error (.panic .jsonHttpPostBadActorRs) sent
      | .response status _ =>
          if status = 200 ∨ status = 201 then .ok (some .success) sent
          else if status = 401 ∨ status = 403 then .ok none { sent with token := none }
          else .ok (some .failure) sent := by
  obtain ⟨tokenUtf8, urlUtf8, parses, legal⟩ := sendable
  refine ⟨[.ofMemory ((CStr.lit "Authorization: Bearer ").bytes ++ token.bytes), contentType], ?_⟩
  simp only [postEventRs, toStr_eq, tokenUtf8, urlUtf8, parses, legal, ↓reduceIte, fromExcept_ok,
    run_bind, run_pure, Bool.and_self, Bool.not_true, Bool.false_eq_true, perform]
  cases server s.requests.length with
  | transportFailure => rfl
  | response status body =>
      simp only
      split_ifs <;> rfl

theorem postEventRs_unsendable {token : CStr} (unsendable : ¬ Sendable reqwest config token)
    (json : Json) (s : Sender) : ∃ e t, postEventRs reqwest server config json token s =
      .error e t := by
  simp only [postEventRs, toStr_eq, run_bind]
  by_cases tokenUtf8 : validUtf8 token.bytes = true
  · by_cases urlUtf8 : validUtf8 config.webhookUrl.bytes = true
    · have illegal : (reqwest.parsesUrl config.webhookUrl && headerValue token.bytes) = false := by
        rw [Bool.eq_false_iff, ne_eq, Bool.and_eq_true]
        rintro ⟨parses, legal⟩
        exact unsendable ⟨tokenUtf8, urlUtf8, parses, legal⟩
      simp only [tokenUtf8, urlUtf8, ↓reduceIte, fromExcept_ok, run_pure, illegal, Bool.not_false]
      exact ⟨_, _, rfl⟩
    · simp only [tokenUtf8, urlUtf8, ↓reduceIte, fromExcept_ok, run_pure]
      exact ⟨_, _, rfl⟩
  · simp only [tokenUtf8]
    exact ⟨_, _, rfl⟩

variable (reqwest server config badActor) in
theorem postEventRs_after {s t : Sender} {token : CStr} (sent : List Kind)
    (cached : t.token = some token)
    (before : t.requests.map wire = s.requests.map wire ++ sent.map (wireRs config badActor)) :
    Performs (fun _ => postEventRs reqwest server config (serdeMap (badActorMembers badActor)) token t)
      s (wireRs config badActor)
      (webhookRoundRs reqwest config (server t.requests.length) token sent) := by
  unfold webhookRoundRs
  by_cases sendable : Sendable reqwest config token
  · obtain ⟨headers, ran⟩ := postEventRs_sendable server sendable
      (serdeMap (badActorMembers badActor)) t
    simp only [sendable, ↓reduceIte]
    cases reply : server t.requests.length with
    | transportFailure =>
        simp only [reply] at ran
        exact ⟨_, _, ran⟩
    | response status body =>
        have added : ((t.requests ++ [(⟨config.webhookUrl, serdeMap (badActorMembers badActor),
            headers⟩ : Request)]).map wire) =
            s.requests.map wire ++ (sent ++ [Kind.webhook]).map (wireRs config badActor) := by
          simp [before, wire, wireRs]
        simp only [reply] at ran
        simp only [Performs, ran, webhookRound]
        split_ifs
        · exact ⟨_, rfl, cached, added⟩
        · exact ⟨_, rfl, rfl, added⟩
        · exact ⟨_, rfl, cached, added⟩
  · simp only [sendable, ↓reduceIte]
    exact postEventRs_unsendable sendable _ t

def tokenRequestRs (config : Config) : Request :=
  ⟨sentrypeerOauth2TokenUrl, serdeMap (clientCredsMembers config), [contentType]⟩

theorem requestTokenRs_invalid (invalid : ¬ Utf8Creds config) (s : Sender) :
    ∃ e t, requestTokenRs serde server config s = .error e t := by
  simp only [requestTokenRs, clientCredsJsonRs_eq, invalid, ↓reduceIte, run_bind]
  exact ⟨_, _, rfl⟩

theorem requestTokenRs_unanswered (utf8 : Utf8Creds config) {s : Sender}
    (reply : server s.requests.length = .transportFailure) :
    ∃ e t, requestTokenRs serde server config s = .error e t := by
  simp only [requestTokenRs, clientCredsJsonRs_eq, utf8, ↓reduceIte, fromExcept_ok, run_bind,
    run_pure, perform, reply]
  exact ⟨_, _, rfl⟩

theorem requestTokenRs_refused (utf8 : Utf8Creds config) {s : Sender} {status : Nat}
    {body : List UInt8} (reply : server s.requests.length = .response status body)
    (refused : status ≠ 200) : requestTokenRs serde server config s =
      .ok none { s with requests := s.requests ++ [tokenRequestRs config] } := by
  simp only [requestTokenRs, clientCredsJsonRs_eq, utf8, ↓reduceIte, fromExcept_ok, run_bind,
    run_pure, perform, reply]
  rw [if_pos refused]
  rfl

theorem requestTokenRs_no_token (utf8 : Utf8Creds config) {s : Sender} {body : List UInt8}
    {e : Abort} (reply : server s.requests.length = .response 200 body)
    (missing : accessTokenRs serde body = .error e) :
    ∃ e t, requestTokenRs serde server config s = .error e t := by
  simp only [requestTokenRs, clientCredsJsonRs_eq, utf8, ↓reduceIte, fromExcept_ok, run_bind,
    run_pure, perform, reply, ne_eq, not_true_eq_false, missing]
  exact ⟨_, _, rfl⟩

theorem requestTokenRs_issued (utf8 : Utf8Creds config) {s : Sender} {body : List UInt8}
    {token : CStr} (reply : server s.requests.length = .response 200 body)
    (issued : accessTokenRs serde body = .ok token) : requestTokenRs serde server config s =
      .ok (some token) { s with
        token := some token
        requests := s.requests ++ [tokenRequestRs config] } := by
  simp only [requestTokenRs, clientCredsJsonRs_eq, utf8, ↓reduceIte, fromExcept_ok, run_bind,
    run_pure, perform, reply, ne_eq, not_true_eq_false, issued]
  rfl

section Pass
variable (oauth2 : config.oauth2Mode = true) (utf8 : Utf8Fields badActor) {s t : Sender}
include oauth2 utf8

variable (serde reqwest server) in
theorem postPassRs_cached {token : CStr} (cached : s.token = some token) :
    postPassRs serde reqwest server config badActor s =
      postEventRs reqwest server config (serdeMap (badActorMembers badActor)) token s := by
  simp only [postPassRs, badActorJsonRs_eq, utf8, ↓reduceIte, fromExcept_ok, run_bind, run_pure,
    oauth2, run_get, cached]

theorem postPassRs_stopped (missing : s.token = none)
    (stopped : ∃ e t, requestTokenRs serde server config s = .error e t) :
    ∃ e t, postPassRs serde reqwest server config badActor s = .error e t := by
  obtain ⟨e, t, stopped⟩ := stopped
  refine ⟨e, t, ?_⟩
  simp only [postPassRs, badActorJsonRs_eq, utf8, ↓reduceIte, fromExcept_ok, run_bind, run_pure,
    oauth2, run_get, missing, stopped]

theorem postPassRs_refused (missing : s.token = none)
    (refused : requestTokenRs serde server config s = .ok none t) :
    postPassRs serde reqwest server config badActor s = .ok (some .failure) t := by
  simp only [postPassRs, badActorJsonRs_eq, utf8, ↓reduceIte, fromExcept_ok, run_bind, run_pure,
    oauth2, run_get, missing, refused]

theorem postPassRs_issued (missing : s.token = none) {token : CStr}
    (issued : requestTokenRs serde server config s = .ok (some token) t) :
    postPassRs serde reqwest server config badActor s =
      postEventRs reqwest server config (serdeMap (badActorMembers badActor)) token t := by
  simp only [postPassRs, badActorJsonRs_eq, utf8, ↓reduceIte, fromExcept_ok, run_bind, run_pure,
    oauth2, run_get, missing, issued]

variable (serde reqwest server s) in
theorem postPassRs_performs :
    Performs (postPassRs serde reqwest server config badActor) s (wireRs config badActor)
      (roundRs serde reqwest server config s.token s.requests.length) := by
  cases cached : s.token with
  | some token =>
      have posted := postEventRs_after reqwest server config badActor (s := s) (t := s) [] cached
        (by simp)
      exact posted.of_eq (postPassRs_cached serde reqwest server oauth2 utf8 cached)
  | none =>
      simp only [roundRs]
      by_cases creds : Utf8Creds config
      · rw [if_pos creds]
        cases reply : server s.requests.length with
        | transportFailure =>
            exact postPassRs_stopped oauth2 utf8 cached (requestTokenRs_unanswered creds reply)
        | response status body =>
            simp only
            by_cases refused : status ≠ 200
            · rw [if_pos refused]
              exact ⟨_, postPassRs_refused oauth2 utf8 cached
                (requestTokenRs_refused creds reply refused), cached,
                by simp [wire, wireRs, tokenRequestRs]⟩
            · rw [if_neg refused]
              obtain rfl : status = 200 := not_not.mp refused
              cases given : accessTokenRs serde body with
              | error e =>
                  exact postPassRs_stopped oauth2 utf8 cached
                    (requestTokenRs_no_token creds reply given)
              | ok token =>
                  have sent := requestTokenRs_issued creds reply given
                  have posted := postEventRs_after reqwest server config badActor (s := s)
                    (t := { s with
                      token := some token
                      requests := s.requests ++ [tokenRequestRs config] }) [.token] rfl
                    (by simp [wire, wireRs, tokenRequestRs])
                  simp only [List.length_append, List.length_singleton] at posted
                  exact posted.of_eq (postPassRs_issued oauth2 utf8 cached sent)
      · rw [if_neg creds]
        exact postPassRs_stopped oauth2 utf8 cached (requestTokenRs_invalid creds s)

end Pass

end Rust

/-! ## Runs -/

def retryLoop (pass : EStateM Abort Sender (Option Exit)) (afterRetry : Exit → Exit) :
    Nat → EStateM Abort Sender (Option Exit)
  | 0 => pure none
  | fuel + 1 => pass >>= fun
      | some exit => pure (some exit)
      | none => retryLoop pass afterRetry fuel >>= fun result => pure (result.map afterRetry)

theorem retryLoop_performs {pass : EStateM Abort Sender (Option Exit)}
    {round : Option CStr → Nat → Option Round} {wireOf : Kind → CStr × Json}
    (performs : ∀ s, Performs pass s wireOf (round s.token s.requests.length))
    (afterRetry : Exit → Exit) (fuel : Nat) (s : Sender) :
    Performs (retryLoop pass afterRetry fuel) s wireOf
      (runRounds round afterRetry fuel s.token s.requests.length) := by
  induction fuel generalizing s with
  | zero => exact ⟨s, rfl, rfl, by simp⟩
  | succ fuel ih =>
      have first := performs s
      cases played : round s.token s.requests.length with
      | none =>
          simp only [played, Performs] at first
          obtain ⟨e, t, ran⟩ := first
          simp only [runRounds, played, Performs]
          exact ⟨e, t, by rw [retryLoop, run_bind, ran]⟩
      | some now =>
          simp only [played, Performs] at first
          obtain ⟨t, ran, token, requests⟩ := first
          cases ended : now.exit with
          | some exit =>
              simp only [runRounds, played, ended, Performs]
              refine ⟨t, ?_, token, requests⟩
              rw [retryLoop, run_bind, ran, ended]
              rfl
          | none =>
              have length : t.requests.length = s.requests.length + now.sent.length := by
                have := congrArg List.length requests
                simpa using this
              have later := ih t
              rw [token, length] at later
              have equal : retryLoop pass afterRetry (fuel + 1) s =
                  (retryLoop pass afterRetry fuel >>= fun result => pure (result.map afterRetry))
                    t := by
                rw [retryLoop, run_bind, ran, ended]
              simp only [runRounds, played, ended]
              cases rest : runRounds round afterRetry fuel now.token
                  (s.requests.length + now.sent.length) with
              | none =>
                  simp only [rest, Performs] at later
                  obtain ⟨e, u, stopped⟩ := later
                  exact ⟨e, u, by rw [equal, run_bind, stopped]⟩
              | some final =>
                  simp only [rest, Performs] at later
                  obtain ⟨u, returned, left, more⟩ := later
                  refine ⟨u, by rw [equal, run_bind, returned]; rfl, left, ?_⟩
                  rw [more, requests, List.map_append, List.append_assoc]

theorem jsonHttpPostBadActor_eq (jansson : Jansson) (curl : Curl) (server : Nat → Reply)
    (config : Config) (badActor : BadActor) (fuel : Nat) :
    jsonHttpPostBadActor jansson curl server config badActor fuel =
      retryLoop (postPass jansson curl server config badActor) id fuel := by
  induction fuel with
  | zero => rfl
  | succ fuel ih =>
      rw [jsonHttpPostBadActor, retryLoop, ih]
      congr 1
      funext first
      cases first with
      | some exit => rfl
      | none =>
          simp only
          congr 1
          funext result
          rcases result with _ | _ | _ <;> rfl

theorem jsonHttpPostBadActorRs_eq (serde : Serde) (reqwest : Reqwest) (server : Nat → Reply)
    (config : Config) (badActor : BadActor) (fuel : Nat) :
    jsonHttpPostBadActorRs serde reqwest server config badActor fuel =
      retryLoop (postPassRs serde reqwest server config badActor) (fun _ => .failure) fuel := by
  induction fuel with
  | zero => rfl
  | succ fuel ih =>
      rw [jsonHttpPostBadActorRs, retryLoop, ih]
      congr 1
      funext first
      cases first with
      | some exit => rfl
      | none =>
          simp only
          congr 1
          funext result
          rcases result with _ | _ | _ <;> rfl

end SentryPeer.Proof
