import SentryPeer.Proof.WebhookRetry

/-!
# Where the credentials go

One easy handle makes the token request and the POST of the event, and its options stay from one to
the other. What a pass does to the requests is said once, whatever options cannot be set.
-/

namespace SentryPeer.Proof
open Lib

def TokenRequest (config : Config) (request : Request) : Prop :=
  request.url = sentrypeerOauth2TokenUrl ∧ clientCredsJson config = some request.body ∧
    request.headers = [contentType]

def WebhookPost (config : Config) (badActor : BadActor) (request : Request) : Prop :=
  request.url = config.webhookUrl ∧ badActorJson badActor = some request.body

/-! ## What the parts of a pass do -/

theorem curlEasySetopt_elim {β : Type} {P : EStateM.Result Abort Sender β → Prop} {curl : Curl}
    {option : CurlOption} {fail : β} {rest : EStateM Abort Sender β} {s : Sender}
    (left : P (.ok fail s)) (through : P (rest { s with easy := option.apply s.easy })) :
    P ((curlEasySetopt curl option >>= fun ok => if (!ok) = true then pure fail else rest) s) := by
  rw [run_bind, curlEasySetopt]
  cases curl.setopt s.requests.length option with
  | true => exact through
  | false => exact left

section Moves
variable {jansson : Jansson} {curl : Curl} {server : Nat → Reply} {config : Config}

/-- What the answer to the POST leads to: the result of the pass and the cached token. -/
def postResult (config : Config) (token : Option CStr) : Reply → Option Exit × Option CStr
  | .transportFailure => (some .failure, token)
  | .response status _ =>
      if status = 200 ∨ status = 201 then (some .success, token)
      else if config.oauth2Mode ∧ (status = 401 ∨ status = 403) then (none, none)
      else (some .failure, token)

inductive PostMove (server : Nat → Reply) (config : Config) (json : Json) (s : Sender) :
    EStateM.Result Abort Sender (Option Exit) → Prop
  | unsent {t : Sender} (token : t.token = s.token) (requests : t.requests = s.requests) :
      PostMove server config json s (.ok (some .failure) t)
  | sent {t : Sender} {result : Option Exit}
      (requests : t.requests = s.requests ++ [⟨config.webhookUrl, json, s.easy.httpHeader⟩])
      (outcome : (result, t.token) = postResult config s.token (server s.requests.length)) :
      PostMove server config json s (.ok result t)

variable (curl server config) in
theorem postEvent_move (json : Json) (s : Sender) :
    PostMove server config json s (postEvent curl server config json s) := by
  unfold postEvent
  refine curlEasySetopt_elim (.unsent rfl rfl) ?_
  refine curlEasySetopt_elim (.unsent rfl rfl) ?_
  refine curlEasySetopt_elim (.unsent rfl rfl) ?_
  refine curlEasySetopt_elim (.unsent rfl rfl) ?_
  rw [run_bind, curlEasyPerform_set rfl rfl]
  cases reply : server s.requests.length with
  | transportFailure => exact .sent rfl (by rw [reply]; rfl)
  | response status body =>
      dsimp only
      by_cases accepted : status = 200 ∨ status = 201
      · rw [if_pos accepted]
        exact .sent rfl (by rw [reply, postResult, if_pos accepted])
      · rw [if_neg accepted]
        by_cases retried : config.oauth2Mode = true ∧ (status = 401 ∨ status = 403)
        · rw [if_pos retried]
          exact .sent rfl (by rw [reply, postResult, if_neg accepted, if_pos retried])
        · rw [if_neg retried]
          exact .sent rfl (by rw [reply, postResult, if_neg accepted, if_neg retried])

inductive TokenMove (jansson : Jansson) (server : Nat → Reply) (config : Config) (s : Sender) :
    EStateM.Result Abort Sender Exit → Prop
  | unsent {t : Sender} (token : t.token = s.token) (requests : t.requests = s.requests) :
      TokenMove jansson server config s (.ok .failure t)
  | unanswered {t : Sender} {creds : Json} (isCreds : clientCredsJson config = some creds)
      (token : t.token = s.token) (requests : t.requests = s.requests ++
        [⟨sentrypeerOauth2TokenUrl, creds, s.easy.httpHeader⟩]) :
      TokenMove jansson server config s (.ok .failure t)
  | stopped {t : Sender} {creds : Json} {abort : Abort}
      (isCreds : clientCredsJson config = some creds)
      (requests : t.requests = s.requests ++
        [⟨sentrypeerOauth2TokenUrl, creds, s.easy.httpHeader⟩]) :
      TokenMove jansson server config s (.error abort t)
  | issued {t : Sender} {creds : Json} {status : Nat} {body : List UInt8} {token : CStr}
      (isCreds : clientCredsJson config = some creds)
      (requests : t.requests = s.requests ++
        [⟨sentrypeerOauth2TokenUrl, creds, s.easy.httpHeader⟩])
      (reply : server s.requests.length = .response status body)
      (isToken : accessToken jansson body = .ok token) (cached : t.token = some token) :
      TokenMove jansson server config s (.ok .success t)

variable (jansson curl server config) in
theorem requestOauth2BearerToken_move (s : Sender) :
    TokenMove jansson server config s (requestOauth2BearerToken jansson curl server config s) := by
  unfold requestOauth2BearerToken
  refine curlEasySetopt_elim (.unsent rfl rfl) ?_
  refine curlEasySetopt_elim (.unsent rfl rfl) ?_
  refine curlEasySetopt_elim (.unsent rfl rfl) ?_
  cases isCreds : clientCredsJson config with
  | none => exact .unsent rfl rfl
  | some creds =>
      dsimp only
      refine curlEasySetopt_elim (.unsent rfl rfl) ?_
      rw [run_bind, curlEasyPerform_set rfl rfl]
      cases reply : server s.requests.length with
      | transportFailure => exact .unanswered isCreds rfl rfl
      | response status body =>
          dsimp only
          cases isToken : accessToken jansson body with
          | error abort => exact .stopped isCreds rfl
          | ok token => exact .issued isCreds rfl reply isToken rfl

def tokenRequest (creds : Json) : Request := ⟨sentrypeerOauth2TokenUrl, creds, [contentType]⟩

/-- How the headers and the token are prepared, from what is cached and what has been sent. -/
inductive PrepareMove (jansson : Jansson) (server : Nat → Reply) (config : Config)
    (token : Option CStr) (requests : List Request) : EStateM.Result Abort Sender Exit → Prop
  | unsent {t : Sender} (sent : t.requests = requests) :
      PrepareMove jansson server config token requests (.ok .failure t)
  | ready {t : Sender} (cached : config.oauth2Mode = true → token.isSome = true)
      (same : t.token = token) (sent : t.requests = requests) :
      PrepareMove jansson server config token requests (.ok .success t)
  | failed {t : Sender} {creds : Json} (isCreds : clientCredsJson config = some creds)
      (sent : t.requests = requests ++ [tokenRequest creds]) :
      PrepareMove jansson server config token requests (.ok .failure t)
  | stopped {t : Sender} {creds : Json} {abort : Abort}
      (isCreds : clientCredsJson config = some creds)
      (sent : t.requests = requests ++ [tokenRequest creds]) :
      PrepareMove jansson server config token requests (.error abort t)
  | issued {t : Sender} {creds : Json} {status : Nat} {body : List UInt8} {new : CStr}
      (isCreds : clientCredsJson config = some creds)
      (sent : t.requests = requests ++ [tokenRequest creds])
      (reply : server requests.length = .response status body)
      (isToken : accessToken jansson body = .ok new) (cached : t.token = some new)
      (headers : t.easy.httpHeader = [contentType, bearerHeader new]) :
      PrepareMove jansson server config token requests (.ok .success t)

variable (curl) in
theorem setOauth2BearerTokenHeader_cases (headers : List CStr) (s : Sender) :
    setOauth2BearerTokenHeader curl headers s = .ok .failure s ∨
      setOauth2BearerTokenHeader curl headers s =
        .ok .success { s with easy := { s.easy with
          httpHeader := headers ++ [bearerHeader (s.token.getD (.lit "(null)"))] } } := by
  rw [setOauth2BearerTokenHeader, run_bind, run_get]
  dsimp only
  cases curl.snprintf s.requests.length with
  | false => exact .inl rfl
  | true => exact curlEasySetopt_elim (P := fun result => result = _ ∨ result = _) (.inl rfl) (.inr rfl)

theorem getAndSetOauth2BearerToken_move {s : Sender} (headers : s.easy.httpHeader = [contentType]) :
    PrepareMove jansson server config s.token s.requests
      (getAndSetOauth2BearerToken jansson curl server config [contentType] s) := by
  rw [getAndSetOauth2BearerToken, run_bind]
  have move := requestOauth2BearerToken_move jansson curl server config s
  generalize requestOauth2BearerToken jansson curl server config s = result at move
  cases move with
  | unsent token requests => exact .unsent requests
  | unanswered isCreds token requests =>
      rw [headers] at requests
      exact .failed isCreds requests
  | stopped isCreds requests =>
      rw [headers] at requests
      exact .stopped isCreds requests
  | @issued t creds status body token isCreds requests reply isToken cached =>
      rw [headers] at requests
      change PrepareMove jansson server config s.token s.requests
        ((setOauth2BearerTokenHeader curl [contentType] >>= fun exit =>
          if exit ≠ .success then pure .failure else pure .success) t)
      rw [run_bind]
      rcases setOauth2BearerTokenHeader_cases curl [contentType] t with left | through
      · rw [left]
        exact .failed isCreds requests
      · rw [through]
        refine .issued isCreds requests reply isToken cached ?_
        rw [cached]
        rfl

variable (jansson curl server config) in
theorem prepareOauth2_move (s : Sender) :
    PrepareMove jansson server config s.token s.requests
      (prepareOauth2 jansson curl server config s) := by
  unfold prepareOauth2
  cases oauth2 : config.oauth2Mode with
  | false => exact .ready (fun on => by rw [oauth2] at on; cases on) rfl rfl
  | true =>
      rw [Bool.not_true, if_neg Bool.false_ne_true, run_bind, run_get]
      dsimp only
      cases cached : s.token with
      | some token =>
          rw [Option.isSome_some, if_pos rfl]
          rcases setOauth2BearerTokenHeader_cases curl [contentType] s with left | through
          · rw [left]
            exact .unsent rfl
          · rw [through]
            exact .ready (fun _ => rfl) cached rfl
      | none =>
          rw [Option.isSome_none, if_neg Bool.false_ne_true]
          refine curlEasySetopt_elim (.unsent rfl) ?_
          rw [← cached]
          exact getAndSetOauth2BearerToken_move
            (s := { s with easy := (CurlOption.httpHeader [contentType]).apply s.easy }) rfl

inductive PassMove (jansson : Jansson) (server : Nat → Reply) (config : Config) (badActor : BadActor)
    (token : Option CStr) (requests : List Request) :
    EStateM.Result Abort Sender (Option Exit) → Prop
  | unsent {t : Sender} (sent : t.requests = requests) :
      PassMove jansson server config badActor token requests (.ok (some .failure) t)
  | tokenOnly {t : Sender} {creds : Json} (isCreds : clientCredsJson config = some creds)
      (sent : t.requests = requests ++ [tokenRequest creds]) :
      PassMove jansson server config badActor token requests (.ok (some .failure) t)
  | stopped {t : Sender} {creds : Json} {abort : Abort}
      (isCreds : clientCredsJson config = some creds)
      (sent : t.requests = requests ++ [tokenRequest creds]) :
      PassMove jansson server config badActor token requests (.error abort t)
  | posted {t : Sender} {json : Json} {headers : List CStr} {result : Option Exit}
      (isJson : badActorJson badActor = some json)
      (cached : config.oauth2Mode = true → token.isSome = true)
      (sent : t.requests = requests ++ [⟨config.webhookUrl, json, headers⟩])
      (outcome : (result, t.token) = postResult config token (server requests.length)) :
      PassMove jansson server config badActor token requests (.ok result t)
  | tokenPosted {t : Sender} {creds json : Json} {status : Nat} {body : List UInt8} {new : CStr}
      {result : Option Exit} (isCreds : clientCredsJson config = some creds)
      (isJson : badActorJson badActor = some json)
      (reply : server requests.length = .response status body)
      (isToken : accessToken jansson body = .ok new)
      (sent : t.requests = requests ++ [tokenRequest creds] ++
        [⟨config.webhookUrl, json, [contentType, bearerHeader new]⟩])
      (outcome : (result, t.token) = postResult config (some new) (server (requests.length + 1))) :
      PassMove jansson server config badActor token requests (.ok result t)

variable (jansson curl server config) in
theorem postPass_move (badActor : BadActor) (s : Sender) :
    PassMove jansson server config badActor s.token s.requests
      (postPass jansson curl server config badActor s) := by
  rw [postPass, run_bind, curlEasyInit]
  cases curl.init s.requests.length with
  | false => exact .unsent rfl
  | true =>
      cases isJson : badActorJson badActor with
      | none => exact .unsent rfl
      | some json =>
          refine curlEasySetopt_elim (.unsent rfl) ?_
          refine curlEasySetopt_elim (.unsent rfl) ?_
          refine curlEasySetopt_elim (.unsent rfl) ?_
          rw [run_bind]
          have prepared := prepareOauth2_move jansson curl server config
            { s with easy := CurlOption.timeout.apply (CurlOption.sslVersion.apply
              (CurlOption.userAgent.apply .init)) }
          generalize prepareOauth2 jansson curl server config _ = result at prepared
          cases prepared with
          | unsent sent => exact .unsent sent
          | failed isCreds sent => exact .tokenOnly isCreds sent
          | stopped isCreds sent => exact .stopped isCreds sent
          | @ready t cached same sent =>
              have post := postEvent_move curl server config json t
              change PassMove jansson server config badActor s.token s.requests
                (postEvent curl server config json t)
              generalize postEvent curl server config json t = result at post
              cases post with
              | unsent _ requests => exact .unsent (requests.trans sent)
              | sent requests outcome =>
                  rw [sent] at requests outcome
                  rw [same] at outcome
                  exact .posted isJson cached requests outcome
          | @issued t creds status body new isCreds sent reply isToken cached headers =>
              have post := postEvent_move curl server config json t
              change PassMove jansson server config badActor s.token s.requests
                (postEvent curl server config json t)
              generalize postEvent curl server config json t = result at post
              cases post with
              | unsent _ requests => exact .tokenOnly isCreds (requests.trans sent)
              | sent requests outcome =>
                  rw [sent, headers] at requests
                  rw [sent, cached, List.length_append] at outcome
                  exact .tokenPosted isCreds isJson reply isToken requests outcome

end Moves

/-- The run rule of the retries: an invariant of the states between passes, and what it gives for
every way to end. -/
theorem retryLoop_run {pass : EStateM Abort Sender (Option Exit)} {I : Sender → Prop}
    {Q : EStateM.Result Abort Sender (Option Exit) → Prop}
    (again : ∀ s t, I s → pass s = .ok none t → I t)
    (ends : ∀ s exit t, I s → pass s = .ok (some exit) t → Q (.ok (some exit) t))
    (stops : ∀ s abort t, I s → pass s = .error abort t → Q (.error abort t))
    (unfinished : ∀ s, I s → Q (.ok none s)) (fuel : Nat) {s : Sender} (initial : I s) :
    Q (retryLoop pass id fuel s) := by
  induction fuel generalizing s with
  | zero => exact unfinished s initial
  | succ fuel ih =>
      rw [retryLoop, run_bind]
      cases ran : pass s with
      | error abort t => exact stops s abort t initial ran
      | ok result t =>
          cases result with
          | some exit => exact ends s exit t initial ran
          | none =>
              have later := ih (again s t initial ran)
              dsimp only
              rw [run_bind]
              cases rest : retryLoop pass id fuel t with
              | error abort u =>
                  rw [rest] at later
                  exact later
              | ok result u =>
                  rw [rest] at later
                  rw [Option.map_id]
                  exact later

/-! ## The requests of a call -/

def Confined (config : Config) (badActor : BadActor) (requests : List Request) : Prop :=
  ∀ request ∈ requests, TokenRequest config request ∨ WebhookPost config badActor request

section Confined
variable {jansson : Jansson} {curl : Curl} {server : Nat → Reply} {config : Config}
  {badActor : BadActor}

theorem Confined.token {requests : List Request} (confined : Confined config badActor requests)
    {creds : Json} (isCreds : clientCredsJson config = some creds) :
    Confined config badActor (requests ++ [tokenRequest creds]) := by
  intro request member
  rcases List.mem_append.mp member with old | new
  · exact confined request old
  · rw [List.mem_singleton.mp new]
    exact .inl ⟨rfl, isCreds, rfl⟩

theorem Confined.post {requests : List Request} (confined : Confined config badActor requests)
    {json : Json} (isJson : badActorJson badActor = some json) (headers : List CStr) :
    Confined config badActor (requests ++ [⟨config.webhookUrl, json, headers⟩]) := by
  intro request member
  rcases List.mem_append.mp member with old | new
  · exact confined request old
  · rw [List.mem_singleton.mp new]
    exact .inr ⟨rfl, isJson⟩

theorem PassMove.confined {token : Option CStr} {requests : List Request}
    {result : EStateM.Result Abort Sender (Option Exit)}
    (move : PassMove jansson server config badActor token requests result)
    (confined : Confined config badActor requests) :
    Confined config badActor (finalState result).requests := by
  cases move with
  | @unsent t sent =>
      change Confined config badActor t.requests
      rw [sent]
      exact confined
  | @tokenOnly t _ isCreds sent =>
      change Confined config badActor t.requests
      rw [sent]
      exact confined.token isCreds
  | @stopped t _ _ isCreds sent =>
      change Confined config badActor t.requests
      rw [sent]
      exact confined.token isCreds
  | @posted t _ headers _ isJson _ sent =>
      change Confined config badActor t.requests
      rw [sent]
      exact confined.post isJson headers
  | @tokenPosted t _ _ _ _ _ _ isCreds isJson _ _ sent =>
      change Confined config badActor t.requests
      rw [sent]
      exact (confined.token isCreds).post isJson _

theorem requests_confined (fuel : Nat) (s : Sender) (initial : Confined config badActor s.requests) :
    Confined config badActor
      (finalState (jsonHttpPostBadActor jansson curl server config badActor fuel s)).requests := by
  have pass (s : Sender) (confined : Confined config badActor s.requests) :=
    (postPass_move jansson curl server config badActor s).confined confined
  rw [jsonHttpPostBadActor_eq]
  refine retryLoop_run (I := fun s => Confined config badActor s.requests)
    (Q := fun result => Confined config badActor (finalState result).requests) ?_ ?_ ?_ ?_ fuel
    initial
  · intro s t confined ran
    have kept := pass s confined
    rw [ran] at kept
    exact kept
  · intro s exit t confined ran
    rw [← ran]
    exact pass s confined
  · intro s abort t confined ran
    rw [← ran]
    exact pass s confined
  · exact fun s confined => confined

end Confined

theorem credentials_confined (jansson : Jansson) (curl : Curl) (server : Nat → Reply)
    (config : Config) (badActor : BadActor) (fuel : Nat) :
    ∀ request ∈ (finalState (jsonHttpPostBadActor jansson curl server config badActor fuel
        (senderOf config))).requests,
      (TokenRequest config request ∨ WebhookPost config badActor request) ∧
        (config.webhookUrl ≠ sentrypeerOauth2TokenUrl →
          (request.url = config.webhookUrl → badActorJson badActor = some request.body) ∧
          (request.url = sentrypeerOauth2TokenUrl →
            clientCredsJson config = some request.body ∧ request.headers = [contentType])) := by
  intro request member
  have kind := requests_confined fuel (senderOf config) nofun request member
  refine ⟨kind, fun apart => ⟨fun isWebhook => ?_, fun isToken => ?_⟩⟩
  · rcases kind with token | post
    · exact absurd (isWebhook.symm.trans token.1) apart
    · exact post.2
  · rcases kind with token | post
    · exact token.2
    · exact absurd (post.1.symm.trans isToken) apart

theorem requests_of_rounds {jansson : Jansson} {curl : Curl} {server : Nat → Reply}
    {config : Config} {badActor : BadActor} (works : CurlWorks curl)
    (oauth2 : config.oauth2Mode = true) (utf8 : Utf8Fields badActor) {fuel : Nat} {r : Round}
    (run : runRounds (roundC jansson server config) id fuel config.oauth2AccessToken 0 = some r) :
    (finalState (jsonHttpPostBadActor jansson curl server config badActor fuel
      (senderOf config))).requests.map wire = r.sent.map (wireC config badActor) := by
  have performed := retryLoop_performs (postPass_performs jansson server works oauth2 utf8) id fuel
    (senderOf config)
  change Performs _ _ _ (runRounds _ _ fuel config.oauth2AccessToken 0) at performed
  rw [run] at performed
  obtain ⟨t, ran, -, requests⟩ := performed
  rw [jsonHttpPostBadActor_eq, ran]
  exact requests

theorem requests_fresh_token {config : Config} (oauth2 : config.oauth2Mode = true)
    (missing : config.oauth2AccessToken = none) (creds : Utf8Creds config) (kind : Kind) :
    ∃ request ∈ (finalState (jsonHttpPostBadActor compactJansson workingCurl acceptingServer config
        (inviteActor (.lit "100")) 1 (senderOf config))).requests,
      wire request = wireC config (inviteActor (.lit "100")) kind := by
  have run : runRounds (roundC compactJansson acceptingServer config) id 1
      config.oauth2AccessToken 0 =
        some ⟨some .success, some (.lit "t0ken"), [.token, .webhook]⟩ := by
    simp [runRounds, roundC, missing, creds, acceptingServer, accessToken_tokenBody, webhookRound]
  have isKind : kind ∈ [Kind.token, .webhook] := by cases kind <;> decide
  rw [← List.mem_map, requests_of_rounds workingCurl_works oauth2 inviteActor_utf8 run]
  exact List.mem_map_of_mem isKind

theorem credentials_confined_fresh_token :
    ∃ request ∈ (finalState (jsonHttpPostBadActor compactJansson workingCurl acceptingServer
        oauth2Config (inviteActor (.lit "100")) 1 (senderOf oauth2Config))).requests,
      request.url = oauth2Config.webhookUrl ∧
        badActorJson (inviteActor (.lit "100")) = some request.body := by
  have creds : Utf8Creds oauth2Config := by decide
  obtain ⟨request, member, isPost⟩ := requests_fresh_token rfl rfl creds .webhook
  obtain ⟨url, -⟩ := Prod.mk.inj isPost
  have apart : oauth2Config.webhookUrl ≠ sentrypeerOauth2TokenUrl := by decide
  have confined := credentials_confined compactJansson workingCurl acceptingServer oauth2Config
    (inviteActor (.lit "100")) 1 request member
  exact ⟨request, member, url, (confined.2 apart).1 url⟩

/-- A webhook URL that is the token URL: the same address gets the secret and the event. -/
def sameUrlConfig : Config := { oauth2Config with webhookUrl := sentrypeerOauth2TokenUrl }

theorem credentials_same_url :
    (∃ request ∈ (finalState (jsonHttpPostBadActor compactJansson workingCurl acceptingServer
        sameUrlConfig (inviteActor (.lit "100")) 1 (senderOf sameUrlConfig))).requests,
      request.url = sameUrlConfig.webhookUrl ∧
        clientCredsJson sameUrlConfig = some request.body) ∧
    ∃ request ∈ (finalState (jsonHttpPostBadActor compactJansson workingCurl acceptingServer
        sameUrlConfig (inviteActor (.lit "100")) 1 (senderOf sameUrlConfig))).requests,
      request.url = sentrypeerOauth2TokenUrl ∧
        badActorJson (inviteActor (.lit "100")) = some request.body := by
  have creds : Utf8Creds sameUrlConfig := by decide
  constructor
  · obtain ⟨request, member, isToken⟩ := requests_fresh_token rfl rfl creds .token
    obtain ⟨url, body⟩ := Prod.mk.inj isToken
    refine ⟨request, member, url, ?_⟩
    rw [body, clientCredsJson_eq, if_pos creds]
  · obtain ⟨request, member, isPost⟩ := requests_fresh_token rfl rfl creds .webhook
    obtain ⟨url, body⟩ := Prod.mk.inj isPost
    refine ⟨request, member, url, ?_⟩
    rw [body, badActorJson_eq, if_pos inviteActor_utf8]

end SentryPeer.Proof
