import SentryPeer.Proof.Credentials

/-!
# At most one delivery

Between two passes every POST has been refused and no token is cached, so the next one is made with a
token that was asked for after the last refusal. A POST that is accepted ends the call.
-/

namespace SentryPeer.Proof
open Lib

section Delivery
variable (jansson : Jansson) (server : Nat → Reply) (config : Config) (badActor : BadActor)

def PostAt (requests : List Request) (i : Nat) : Prop :=
  ∃ request, requests[i]? = some request ∧ WebhookPost config badActor request

def DeliveredAt (requests : List Request) (i : Nat) : Prop :=
  PostAt config badActor requests i ∧
    ∃ status body, server i = .response status body ∧ (status = 200 ∨ status = 201)

def RefusedAt (requests : List Request) (i : Nat) : Prop :=
  PostAt config badActor requests i ∧
    ∃ status body, server i = .response status body ∧ (status = 401 ∨ status = 403)

/-- A token that the server gave out for the request `k`. -/
def IssuedAt (requests : List Request) (k : Nat) (token : CStr) : Prop :=
  (∃ request, requests[k]? = some request ∧ TokenRequest config request) ∧
    ∃ status body, server k = .response status body ∧ accessToken jansson body = .ok token

/-- The POST `j` carries a token asked for after the request `i`. -/
def FreshToken (requests : List Request) (i j : Nat) : Prop :=
  ∃ k token, i < k ∧ k < j ∧ IssuedAt jansson server config requests k token ∧
    ∃ request, requests[j]? = some request ∧ bearerHeader token ∈ request.headers

structure DeliveredOnce (requests : List Request) (exit : Exit) : Prop where
  atMostOne : ∀ i j, DeliveredAt server config badActor requests i →
    DeliveredAt server config badActor requests j → i = j
  last : ∀ i, DeliveredAt server config badActor requests i → i + 1 = requests.length
  success : exit = .success ↔ ∃ i, DeliveredAt server config badActor requests i
  fresh : ∀ i j, i < j → RefusedAt server config badActor requests i →
    PostAt config badActor requests j → FreshToken jansson server config requests i j

end Delivery

section Requests
variable {jansson : Jansson} {server : Nat → Reply} {config : Config} {badActor : BadActor}
  {requests : List Request} {i j : Nat}

theorem getElem?_append_of_some {request : Request} (present : requests[i]? = some request)
    (more : List Request) : (requests ++ more)[i]? = some request := by
  rw [List.getElem?_append_left (List.getElem?_eq_some_iff.mp present).1]
  exact present

theorem getElem?_append_singleton {last request : Request} :
    (requests ++ [last])[i]? = some request ↔
      requests[i]? = some request ∨ (i = requests.length ∧ request = last) := by
  rcases Nat.lt_trichotomy i requests.length with before | same | after
  · rw [List.getElem?_append_left before]
    exact ⟨.inl, fun present => present.resolve_right fun isLast => by omega⟩
  · subst same
    simp [eq_comm]
  · rw [List.getElem?_eq_none (by simp; omega), List.getElem?_eq_none (by omega)]
    simp
    omega

theorem tokenRequest_not_post {creds : Json} (isCreds : clientCredsJson config = some creds) :
    ¬ WebhookPost config badActor (tokenRequest creds) := by
  rintro ⟨-, isEvent⟩
  rw [clientCredsJson_eq] at isCreds
  rw [badActorJson_eq] at isEvent
  split at isCreds
  · split at isEvent
    · cases isCreds
      have same := congrArg (fun json => (json.map fun j => j.get? "client_id")) isEvent
      exact clientCreds_ne_event config badActor (Option.some.inj same).symm
    · cases isEvent
  · cases isCreds

theorem postAt_token {creds : Json} (isCreds : clientCredsJson config = some creds) :
    PostAt config badActor (requests ++ [tokenRequest creds]) i ↔ PostAt config badActor requests i := by
  simp only [PostAt, getElem?_append_singleton]
  constructor
  · rintro ⟨request, present | ⟨-, rfl⟩, post⟩
    · exact ⟨request, present, post⟩
    · exact absurd post (tokenRequest_not_post isCreds)
  · rintro ⟨request, present, post⟩
    exact ⟨request, .inl present, post⟩

theorem postAt_post {last : Request} (isPost : WebhookPost config badActor last) :
    PostAt config badActor (requests ++ [last]) i ↔
      PostAt config badActor requests i ∨ i = requests.length := by
  simp only [PostAt, getElem?_append_singleton]
  constructor
  · rintro ⟨request, present | ⟨isLast, -⟩, post⟩
    · exact .inl ⟨request, present, post⟩
    · exact .inr isLast
  · rintro (⟨request, present, post⟩ | isLast)
    · exact ⟨request, .inl present, post⟩
    · exact ⟨last, .inr ⟨isLast, rfl⟩, isPost⟩

theorem PostAt.lt (post : PostAt config badActor requests i) : i < requests.length := by
  obtain ⟨request, present, -⟩ := post
  exact (List.getElem?_eq_some_iff.mp present).1

theorem IssuedAt.append {k : Nat} {token : CStr}
    (issued : IssuedAt jansson server config requests k token) (more : List Request) :
    IssuedAt jansson server config (requests ++ more) k token := by
  obtain ⟨⟨request, present, isToken⟩, reply⟩ := issued
  exact ⟨⟨request, getElem?_append_of_some present more, isToken⟩, reply⟩

theorem FreshToken.append (fresh : FreshToken jansson server config requests i j)
    (more : List Request) : FreshToken jansson server config (requests ++ more) i j := by
  obtain ⟨k, token, after, before, issued, request, present, carries⟩ := fresh
  exact ⟨k, token, after, before, issued.append more, request,
    getElem?_append_of_some present more, carries⟩

end Requests

/-! ## The invariant between passes -/

theorem postResult_some {config : Config} {token cached : Option CStr} {reply : Reply} {exit : Exit}
    (outcome : (some exit, cached) = postResult config token reply) :
    exit = .success ↔
      ∃ status body, reply = .response status body ∧ (status = 200 ∨ status = 201) := by
  cases reply with
  | transportFailure =>
      cases outcome
      simp
  | response status body =>
      rw [postResult] at outcome
      split at outcome
      · rename_i accepted
        cases outcome
        exact iff_of_true rfl ⟨status, body, rfl, accepted⟩
      · rename_i notAccepted
        split at outcome
        · cases outcome
        · cases outcome
          refine iff_of_false (by simp) ?_
          rintro ⟨_, _, same, accepted⟩
          cases same
          exact notAccepted accepted

theorem postResult_none {config : Config} {token cached : Option CStr} {reply : Reply}
    (outcome : (none, cached) = postResult config token reply) :
    cached = none ∧ config.oauth2Mode = true ∧
      ∃ status body, reply = .response status body ∧ (status = 401 ∨ status = 403) := by
  cases reply with
  | transportFailure => cases outcome
  | response status body =>
      rw [postResult] at outcome
      split at outcome
      · cases outcome
      · split at outcome
        · rename_i retried
          cases outcome
          exact ⟨rfl, retried.1, status, body, rfl, retried.2⟩
        · cases outcome

structure AllRefused (jansson : Jansson) (server : Nat → Reply) (config : Config)
    (badActor : BadActor) (requests : List Request) : Prop where
  refused : ∀ i, PostAt config badActor requests i → RefusedAt server config badActor requests i
  fresh : ∀ i j, i < j → PostAt config badActor requests i → PostAt config badActor requests j →
    FreshToken jansson server config requests i j

/-- A POST with these headers would carry a token asked for after every POST so far. -/
def FreshHeaders (jansson : Jansson) (server : Nat → Reply) (config : Config) (badActor : BadActor)
    (requests : List Request) (headers : List CStr) : Prop :=
  ∀ i, PostAt config badActor requests i → ∃ k token, i < k ∧ k < requests.length ∧
    IssuedAt jansson server config requests k token ∧ bearerHeader token ∈ headers

section Passes
variable {jansson : Jansson} {server : Nat → Reply} {config : Config} {badActor : BadActor}
  {requests : List Request} {json : Json} {headers : List CStr}

theorem RefusedAt.not_delivered {i : Nat} (refused : RefusedAt server config badActor requests i) :
    ¬ DeliveredAt server config badActor requests i := by
  obtain ⟨-, status, body, reply, refused⟩ := refused
  rintro ⟨-, other, _, reply', accepted⟩
  rw [reply] at reply'
  cases reply'
  omega

theorem AllRefused.token (all : AllRefused jansson server config badActor requests) {creds : Json}
    (isCreds : clientCredsJson config = some creds) :
    AllRefused jansson server config badActor (requests ++ [tokenRequest creds]) where
  refused i post :=
    ⟨post, (all.refused i ((postAt_token isCreds).mp post)).2⟩
  fresh i j before post post' :=
    (all.fresh i j before ((postAt_token isCreds).mp post) ((postAt_token isCreds).mp post')).append _

theorem AllRefused.deliveredOnce (all : AllRefused jansson server config badActor requests) :
    DeliveredOnce jansson server config badActor requests .failure where
  atMostOne i _ delivered := absurd delivered (all.refused i delivered.1).not_delivered
  last i delivered := absurd delivered (all.refused i delivered.1).not_delivered
  success := iff_of_false nofun fun ⟨i, delivered⟩ =>
    (all.refused i delivered.1).not_delivered delivered
  fresh i j before refused post := all.fresh i j before refused.1 post

theorem AllRefused.fresh_post (all : AllRefused jansson server config badActor requests)
    (carries : FreshHeaders jansson server config badActor requests headers)
    (isJson : badActorJson badActor = some json) {i j : Nat} (before : i < j)
    (post : PostAt config badActor (requests ++ [⟨config.webhookUrl, json, headers⟩]) i)
    (post' : PostAt config badActor (requests ++ [⟨config.webhookUrl, json, headers⟩]) j) :
    FreshToken jansson server config (requests ++ [⟨config.webhookUrl, json, headers⟩]) i j := by
  have isPost : WebhookPost config badActor ⟨config.webhookUrl, json, headers⟩ := ⟨rfl, isJson⟩
  have atMost := post'.lt
  rw [List.length_append, List.length_singleton] at atMost
  have old : PostAt config badActor requests i :=
    ((postAt_post isPost).mp post).resolve_right (by omega)
  rcases (postAt_post isPost).mp post' with old' | rfl
  · exact (all.fresh i j before old old').append _
  · obtain ⟨k, token, after, within, issued, carried⟩ := carries i old
    exact ⟨k, token, after, within, issued.append _, _,
      getElem?_append_singleton.mpr (.inr ⟨rfl, rfl⟩), carried⟩

theorem AllRefused.ends (all : AllRefused jansson server config badActor requests)
    (carries : FreshHeaders jansson server config badActor requests headers)
    (isJson : badActorJson badActor = some json) {token cached : Option CStr} {exit : Exit}
    (outcome : (some exit, cached) = postResult config token (server requests.length)) :
    DeliveredOnce jansson server config badActor
      (requests ++ [⟨config.webhookUrl, json, headers⟩]) exit := by
  have isPost : WebhookPost config badActor ⟨config.webhookUrl, json, headers⟩ := ⟨rfl, isJson⟩
  have isLast (i : Nat) (delivered : DeliveredAt server config badActor
      (requests ++ [⟨config.webhookUrl, json, headers⟩]) i) : i = requests.length := by
    apply ((postAt_post isPost).mp delivered.1).resolve_left
    intro old
    exact (all.refused i old).not_delivered ⟨old, delivered.2⟩
  refine ⟨fun i j first second => (isLast i first).trans (isLast j second).symm,
    fun i delivered => ?_, ?_, fun i j before refused post =>
      all.fresh_post carries isJson before refused.1 post⟩
  · rw [isLast i delivered, List.length_append, List.length_singleton]
  · rw [postResult_some outcome]
    constructor
    · exact fun accepted => ⟨requests.length, (postAt_post isPost).mpr (.inr rfl), accepted⟩
    · rintro ⟨i, delivered⟩
      rw [← isLast i delivered]
      exact delivered.2

theorem AllRefused.again (all : AllRefused jansson server config badActor requests)
    (carries : FreshHeaders jansson server config badActor requests headers)
    (isJson : badActorJson badActor = some json)
    (refused : ∃ status body, server requests.length = .response status body ∧
      (status = 401 ∨ status = 403)) :
    AllRefused jansson server config badActor
      (requests ++ [⟨config.webhookUrl, json, headers⟩]) where
  refused i post := by
    refine ⟨post, ?_⟩
    rcases (postAt_post ⟨rfl, isJson⟩).mp post with old | rfl
    · exact (all.refused i old).2
    · exact refused
  fresh i j before post post' := all.fresh_post carries isJson before post post'

end Passes

/-- Between two passes; after a POST there is no cached token. -/
structure BetweenPasses (jansson : Jansson) (server : Nat → Reply) (config : Config)
    (badActor : BadActor) (token : Option CStr) (requests : List Request) : Prop where
  all : AllRefused jansson server config badActor requests
  cleared : ∀ i, PostAt config badActor requests i → config.oauth2Mode = true ∧ token = none

section Runs
variable {jansson : Jansson} {curl : Curl} {server : Nat → Reply} {config : Config}
  {badActor : BadActor}

theorem BetweenPasses.freshHeaders_cached {token : Option CStr} {requests : List Request}
    (between : BetweenPasses jansson server config badActor token requests)
    (cached : config.oauth2Mode = true → token.isSome = true) (headers : List CStr) :
    FreshHeaders jansson server config badActor requests headers := by
  intro i post
  obtain ⟨oauth2, missing⟩ := between.cleared i post
  have present := cached oauth2
  rw [missing] at present
  cases present

theorem freshHeaders_issued {requests : List Request} {creds : Json} {status : Nat}
    {body : List UInt8} {new : CStr} (isCreds : clientCredsJson config = some creds)
    (reply : server requests.length = .response status body)
    (isToken : accessToken jansson body = .ok new) :
    FreshHeaders jansson server config badActor (requests ++ [tokenRequest creds])
      [contentType, bearerHeader new] := by
  intro i post
  refine ⟨requests.length, new, ((postAt_token isCreds).mp post).lt, ?_, ?_, ?_⟩
  · rw [List.length_append, List.length_singleton]
    exact Nat.lt_succ_self _
  · exact ⟨⟨_, getElem?_append_singleton.mpr (.inr ⟨rfl, rfl⟩), rfl, isCreds, rfl⟩,
      status, body, reply, isToken⟩
  · exact List.mem_cons_of_mem _ List.mem_cons_self

def PassResult (jansson : Jansson) (server : Nat → Reply) (config : Config) (badActor : BadActor) :
    EStateM.Result Abort Sender (Option Exit) → Prop
  | .ok (some exit) t => DeliveredOnce jansson server config badActor t.requests exit
  | .ok none t => BetweenPasses jansson server config badActor t.token t.requests
  | .error _ _ => True

theorem AllRefused.posted {requests : List Request} {json : Json} {headers : List CStr}
    {token : Option CStr} {result : Option Exit} {t : Sender}
    (all : AllRefused jansson server config badActor requests)
    (carries : FreshHeaders jansson server config badActor requests headers)
    (isJson : badActorJson badActor = some json)
    (sent : t.requests = requests ++ [⟨config.webhookUrl, json, headers⟩])
    (outcome : (result, t.token) = postResult config token (server requests.length)) :
    PassResult jansson server config badActor (.ok result t) := by
  cases result with
  | some exit =>
      change DeliveredOnce jansson server config badActor t.requests exit
      rw [sent]
      exact all.ends carries isJson outcome
  | none =>
      obtain ⟨missing, oauth2, refused⟩ := postResult_none outcome
      refine ⟨?_, fun _ _ => ⟨oauth2, missing⟩⟩
      rw [sent]
      exact all.again carries isJson refused

theorem PassMove.result {token : Option CStr} {requests : List Request}
    {result : EStateM.Result Abort Sender (Option Exit)}
    (move : PassMove jansson server config badActor token requests result)
    (between : BetweenPasses jansson server config badActor token requests) :
    PassResult jansson server config badActor result := by
  cases move with
  | @unsent t sent =>
      change DeliveredOnce jansson server config badActor t.requests .failure
      rw [sent]
      exact between.all.deliveredOnce
  | @tokenOnly t _ isCreds sent =>
      change DeliveredOnce jansson server config badActor t.requests .failure
      rw [sent]
      exact (between.all.token isCreds).deliveredOnce
  | stopped => trivial
  | posted isJson cached sent outcome =>
      exact between.all.posted (between.freshHeaders_cached cached _) isJson sent outcome
  | @tokenPosted t creds _ _ _ _ _ isCreds isJson reply isToken sent outcome =>
      have position : requests.length + 1 = (requests ++ [tokenRequest creds]).length := by
        rw [List.length_append, List.length_singleton]
      rw [position] at outcome
      exact (between.all.token isCreds).posted (freshHeaders_issued isCreds reply isToken) isJson
        sent outcome

end Runs

theorem webhook_delivered_once (jansson : Jansson) (curl : Curl) (server : Nat → Reply)
    (config : Config) (badActor : BadActor) (fuel : Nat) (exit : Exit) (t : Sender)
    (returned : jsonHttpPostBadActor jansson curl server config badActor fuel (senderOf config) =
      .ok (some exit) t) :
    DeliveredOnce jansson server config badActor t.requests exit := by
  have pass (s : Sender)
      (between : BetweenPasses jansson server config badActor s.token s.requests) :=
    (postPass_move jansson curl server config badActor s).result between
  have initial : BetweenPasses jansson server config badActor (senderOf config).token
      (senderOf config).requests :=
    ⟨⟨fun i post => absurd post.lt (Nat.not_lt_zero i),
      fun i _ _ post => absurd post.lt (Nat.not_lt_zero i)⟩,
      fun i post => absurd post.lt (Nat.not_lt_zero i)⟩
  have result : PassResult jansson server config badActor
      (jsonHttpPostBadActor jansson curl server config badActor fuel (senderOf config)) := by
    rw [jsonHttpPostBadActor_eq]
    refine retryLoop_run
      (I := fun s => BetweenPasses jansson server config badActor s.token s.requests) ?_ ?_ ?_ ?_
      fuel initial
    · intro s t between ran
      have kept := pass s between
      rw [ran] at kept
      exact kept
    · intro s exit t between ran
      rw [← ran]
      exact pass s between
    · intro s abort t _ _
      trivial
    · exact fun s between => between
  rw [returned] at result
  exact result

/-- The cached token is refused, a new one is asked for, and the event is accepted. -/
def expiredServer : Nat → Reply
  | 0 => .response 401 []
  | 1 => .response 200 tokenBody
  | _ => .response 201 []

def expiredConfig : Config := { oauth2Config with oauth2AccessToken := some (.lit "0ld") }

theorem webhook_delivered_once_expired :
    ∃ t, jsonHttpPostBadActor compactJansson workingCurl expiredServer expiredConfig
        (inviteActor (.lit "100")) 2 (senderOf expiredConfig) = .ok (some .success) t ∧
      DeliveredOnce compactJansson expiredServer expiredConfig (inviteActor (.lit "100"))
        t.requests .success := by
  have creds : Utf8Creds expiredConfig := by decide
  have run : runRounds (roundC compactJansson expiredServer expiredConfig) id 2
      expiredConfig.oauth2AccessToken 0 =
        some ⟨some .success, some (.lit "t0ken"), [.webhook, .token, .webhook]⟩ := by
    have cached : expiredConfig.oauth2AccessToken = some (.lit "0ld") := rfl
    simp [runRounds, roundC, cached, creds, expiredServer, accessToken_tokenBody, webhookRound]
  obtain ⟨t, returned⟩ := run_of_rounds (inviteActor (.lit "100")) workingCurl_works rfl
    (by decide) run
  exact ⟨t, returned, webhook_delivered_once _ _ _ _ _ _ _ _ returned⟩

end SentryPeer.Proof
