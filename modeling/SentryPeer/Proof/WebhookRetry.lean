import SentryPeer.Proof.WebhookRefinement

/-!
# How often an event is posted

Nothing counts the retries of a sender. In OAuth2 mode a token endpoint that keeps issuing tokens and
a webhook that keeps refusing them make it post the same event for ever; a sender that cannot ask
for a second token stops after one retry.
-/

namespace SentryPeer.Proof
open Lib

def webhookPosts (config : Config) (requests : List Request) : Nat :=
  requests.countP fun request => request.url = config.webhookUrl

/-- One bound on the POSTs for an event, whatever the environment does, and the call ends. -/
def PostsBounded {env : Type} (config : Config)
    (run : env → Nat → EStateM Abort Sender (Option Exit)) : Prop :=
  ∃ bound, ∀ e, (∃ fuel, ∀ t, run e fuel (senderOf config) ≠ .ok none t) ∧
    ∀ fuel, webhookPosts config (finalState (run e fuel (senderOf config))).requests ≤ bound

/-! ## Servers that refuse for ever -/

section Unbounded
variable {round : Option CStr → Nat → Option Round} {afterRetry : Exit → Exit}

/-- The answers alternate between a token and a 401, the POSTs being at the positions of parity
`parity`. -/
def refusingServer (body : List UInt8) (parity : Nat) (n : Nat) : Reply :=
  if n % 2 = parity then .response 401 [] else .response 200 body

variable (afterRetry) in
theorem runRounds_refused {parity : Nat}
    (refused : ∀ n, (n + 1) % 2 = parity → round none n = some ⟨none, none, [.token, .webhook]⟩)
    (fuel n : Nat) (position : (n + 1) % 2 = parity) :
    ∃ sent, runRounds round afterRetry fuel none n = some ⟨none, none, sent⟩ ∧
      sent.count .webhook = fuel := by
  induction fuel generalizing n with
  | zero => exact ⟨[], rfl, rfl⟩
  | succ fuel ih =>
      obtain ⟨sent, run, count⟩ := ih (n + 2) (by omega)
      refine ⟨[.token, .webhook] ++ sent, ?_, ?_⟩
      · simp only [runRounds, refused n position, List.length_cons, List.length_nil, run,
          Option.map_none]
      · rw [List.count_append, count]
        simp [Nat.add_comm]

variable (round afterRetry) in
theorem runRounds_refused_from (token : Option CStr)
    (refused : ∀ n, (n + 1) % 2 = firstPost token 0 →
      round none n = some ⟨none, none, [.token, .webhook]⟩)
    (cached : ∀ t, token = some t → round token 0 = some ⟨none, none, [.webhook]⟩) (fuel : Nat) :
    ∃ sent, runRounds round afterRetry fuel token 0 = some ⟨none, if fuel = 0 then token else none,
      sent⟩ ∧ sent.count .webhook = fuel := by
  cases token with
  | none =>
      obtain ⟨sent, run, count⟩ := runRounds_refused afterRetry refused fuel 0
        (by simp [firstPost])
      exact ⟨sent, by simp [run], count⟩
  | some t =>
      cases fuel with
      | zero => exact ⟨[], by simp [runRounds], rfl⟩
      | succ fuel =>
          obtain ⟨sent, run, count⟩ := runRounds_refused afterRetry refused fuel 1
            (by simp [firstPost])
          refine ⟨[.webhook] ++ sent, ?_, ?_⟩
          · simp [runRounds, cached t rfl, run]
          · rw [List.count_append, count]
            simp [Nat.add_comm]

theorem not_postsBounded {env : Type} {config : Config}
    {run : env → Nat → EStateM Abort Sender (Option Exit)} (wireOf : Kind → CStr × Json) (e : env)
    (url : (wireOf .webhook).1 = config.webhookUrl)
    (performs : ∀ fuel, ∃ sent : List Kind, sent.count .webhook = fuel ∧ ∃ t,
      run e fuel (senderOf config) = .ok none t ∧ t.requests.map wire = sent.map wireOf) :
    ¬ PostsBounded config run := by
  rintro ⟨bound, bounded⟩
  obtain ⟨sent, count, t, ran, requests⟩ := performs (bound + 1)
  have posts := (bounded e).2 (bound + 1)
  rw [ran] at posts
  have counted : webhookPosts config t.requests =
      (t.requests.map wire).countP fun w => w.1 = config.webhookUrl := by
    rw [List.countP_map]
    rfl
  have more : sent.count .webhook ≤ (sent.map wireOf).countP fun w => w.1 = config.webhookUrl := by
    rw [List.countP_map, List.count]
    apply List.countP_mono_left
    intro kind _ isWebhook
    rw [beq_iff_eq] at isWebhook
    simp [isWebhook, url]
  change webhookPosts config t.requests ≤ bound at posts
  rw [counted, requests] at posts
  omega

end Unbounded

/-! ## What a pass can do, whatever curl and the servers do -/

section Bounded
variable {jansson : Jansson} {serde : Serde} {curl : Curl} {reqwest : Reqwest}
  {server : Nat → Reply} {config : Config} {badActor : BadActor} {E : Sender → Prop}

theorem curlEasySetopt_keeps {P : Option CStr → List Request → Prop} {option : CurlOption} :
    Triple (fun s => P s.token s.requests) (curlEasySetopt curl option)
      (fun _ s => P s.token s.requests) E := by
  intro s given
  unfold curlEasySetopt
  split
  · rename_i ran
    split at ran <;> cases ran <;> exact given
  · rename_i ran
    split at ran <;> cases ran

theorem curlEasyPerform_adds_one {n : Nat} :
    Triple (fun s => s.requests.length ≤ n) (curlEasyPerform server)
      (fun _ s => s.requests.length ≤ n + 1) E := by
  intro s given
  simp only [curlEasyPerform, run_bind, run_get]
  cases s.easy.url with
  | none => exact Nat.le_succ_of_le given
  | some url =>
      cases s.easy.postFields with
      | none => exact Nat.le_succ_of_le given
      | some body => simpa [perform] using given

theorem requestOauth2BearerToken_bounded {n : Nat} :
    Triple (fun s => s.requests.length ≤ n) (requestOauth2BearerToken jansson curl server config)
      (fun exit s => s.requests.length ≤ n + 1 ∧ (exit = .success → Utf8Creds config))
      (fun s => s.requests.length ≤ n + 1) := by
  have keeps {option : CurlOption} : Triple (fun s => s.requests.length ≤ n)
      (curlEasySetopt curl option) (fun _ s => s.requests.length ≤ n)
      (fun s => s.requests.length ≤ n + 1) :=
    curlEasySetopt_keeps (P := fun _ requests => requests.length ≤ n)
  have fails : Triple (fun s => s.requests.length ≤ n) (pure .failure : EStateM Abort Sender Exit)
      (fun exit s => s.requests.length ≤ n + 1 ∧ (exit = .success → Utf8Creds config))
      (fun s => s.requests.length ≤ n + 1) :=
    Triple.pure fun s given => ⟨Nat.le_succ_of_le given, fun success => by cases success⟩
  unfold requestOauth2BearerToken
  apply keeps.bindCheck fails
  apply keeps.bindCheck fails
  apply keeps.bindCheck fails
  by_cases creds : Utf8Creds config
  · rw [clientCredsJson_eq, if_pos creds]
    apply keeps.bindCheck fails
    apply curlEasyPerform_adds_one.bind
    intro reply
    cases reply with
    | transportFailure => exact Triple.pure fun s given => ⟨given, fun _ => creds⟩
    | response status body =>
        refine Triple.bind (Triple.fromExcept (R := fun _ s => s.requests.length ≤ n + 1)
          (fun _ _ s given => given) fun s given => given) fun token => ?_
        refine Triple.bind (R := fun _ s => s.requests.length ≤ n + 1)
          (Triple.modify fun s given => given) fun _ => ?_
        exact Triple.pure fun s given => ⟨given, fun _ => creds⟩
  · rw [clientCredsJson_eq, if_neg creds]
    exact fails

variable (curl) in
theorem setOauth2BearerTokenHeader_bounded {n : Nat} (headers : List CStr) :
    Triple (fun s => s.requests.length ≤ n) (setOauth2BearerTokenHeader curl headers)
      (fun _ s => s.requests.length ≤ n) E := by
  refine Triple.bind Triple.get fun s => ?_
  split
  · exact Triple.pure fun _ given => given.2
  refine Triple.bind (curlEasySetopt_keeps (P := fun _ requests => requests.length ≤ n) |>.imp
    (fun _ given => given.2) (fun _ _ given => given) (fun _ given => given)) fun set => ?_
  split <;> exact Triple.pure fun _ given => given

theorem prepareOauth2_bounded {n : Nat} {token : Option CStr} :
    Triple (fun s => s.token = token ∧ s.requests.length ≤ n)
      (prepareOauth2 jansson curl server config)
      (fun exit s => s.requests.length ≤ n + 1 ∧
        (exit = .success → config.oauth2Mode = true → token.isSome = true ∨ Utf8Creds config))
      (fun s => s.requests.length ≤ n + 1) := by
  unfold prepareOauth2
  split
  · rename_i off
    exact Triple.pure fun s given => ⟨Nat.le_succ_of_le given.2, fun _ on => by simp [on] at off⟩
  refine Triple.bind Triple.get fun start => ?_
  split
  · rename_i cached
    have isCached {s : Sender} (given : start = s ∧ s.token = token ∧ s.requests.length ≤ n) :
        token.isSome = true := by
      obtain ⟨rfl, rfl, -⟩ := given
      exact cached
    intro s given
    have ran := setOauth2BearerTokenHeader_bounded curl [contentType] (n := n)
      (E := fun s => s.requests.length ≤ n + 1) s given.2.2
    split <;> rename_i h
    · rw [h] at ran
      exact ⟨Nat.le_succ_of_le ran, fun _ _ => .inl (isCached given)⟩
    · rw [h] at ran
      exact ran
  · refine Triple.bind (curlEasySetopt_keeps (P := fun _ requests => requests.length ≤ n) |>.imp
      (fun _ given => given.2.2) (fun _ _ given => given) (fun _ given => given)) fun set => ?_
    split
    · exact Triple.pure fun s given => ⟨Nat.le_succ_of_le given, fun success => by cases success⟩
    refine requestOauth2BearerToken_bounded.bind fun exit => ?_
    split
    · exact Triple.pure fun s given => ⟨given.1, fun success => by cases success⟩
    rename_i requested
    by_cases creds : Utf8Creds config
    · refine Triple.bind (setOauth2BearerTokenHeader_bounded curl _ (n := n + 1) |>.imp
        (fun _ given => given.1) (fun _ _ given => given) (fun _ given => given)) fun set => ?_
      split <;> exact Triple.pure fun s given => ⟨given, fun _ _ => .inr creds⟩
    · intro s given
      exact absurd (given.2 (not_not.mp requested)) creds

variable (curl server config) in
theorem postEvent_bounded {n : Nat} (json : Json) :
    Triple (fun s => s.requests.length ≤ n) (postEvent curl server config json)
      (fun result s => s.requests.length ≤ n + 1 ∧
        (result = none → config.oauth2Mode = true ∧ s.token = none)) E := by
  have keeps {option : CurlOption} : Triple (fun s => s.requests.length ≤ n)
      (curlEasySetopt curl option) (fun _ s => s.requests.length ≤ n) E :=
    curlEasySetopt_keeps (P := fun _ requests => requests.length ≤ n)
  have fails : Triple (fun s => s.requests.length ≤ n)
      (pure (some .failure) : EStateM Abort Sender (Option Exit))
      (fun result s => s.requests.length ≤ n + 1 ∧
        (result = none → config.oauth2Mode = true ∧ s.token = none)) E :=
    Triple.pure fun s given => ⟨Nat.le_succ_of_le given, fun none_ => by cases none_⟩
  unfold postEvent
  apply keeps.bindCheck fails
  apply keeps.bindCheck fails
  apply keeps.bindCheck fails
  apply keeps.bindCheck fails
  refine curlEasyPerform_adds_one.bind fun reply => ?_
  cases reply with
  | transportFailure => exact Triple.pure fun s given => ⟨given, fun none_ => by cases none_⟩
  | response status body =>
      simp only
      split_ifs with accepted rejected
      · exact Triple.pure fun s given => ⟨given, fun none_ => by cases none_⟩
      · refine Triple.bind (R := fun _ s => s.requests.length ≤ n + 1 ∧ s.token = none)
          (Triple.modify fun s given => ⟨given, rfl⟩) fun _ => ?_
        exact Triple.pure fun s given => ⟨given.1, fun _ => ⟨rejected.1, given.2⟩⟩
      · exact Triple.pure fun s given => ⟨given, fun none_ => by cases none_⟩

/-- A pass makes at most two requests, and asks for another pass only after a POST with a token. -/
def PassBounded (config : Config) (badActor : BadActor)
    (pass : EStateM Abort Sender (Option Exit)) : Prop :=
  ∀ n token, Triple (fun s => s.token = token ∧ s.requests.length ≤ n) pass
    (fun result s => s.requests.length ≤ n + 2 ∧ (result = none →
      config.oauth2Mode = true ∧ Utf8Fields badActor ∧ s.token = none ∧
        (token.isSome = true ∨ Utf8Creds config)))
    (fun s => s.requests.length ≤ n + 2)

theorem postPass_bounded : PassBounded config badActor
    (postPass jansson curl server config badActor) := by
  intro n token
  have init : Triple (fun s => s.token = token ∧ s.requests.length ≤ n) (curlEasyInit curl)
      (fun _ s => s.token = token ∧ s.requests.length ≤ n)
      (fun s => s.requests.length ≤ n + 2) := by
    intro s given
    unfold curlEasyInit
    split
    · rename_i ran
      split at ran <;> cases ran <;> exact given
    · rename_i ran
      split at ran <;> cases ran
  have keeps {option : CurlOption} : Triple (fun s => s.token = token ∧ s.requests.length ≤ n)
      (curlEasySetopt curl option) (fun _ s => s.token = token ∧ s.requests.length ≤ n)
      (fun s => s.requests.length ≤ n + 2) :=
    curlEasySetopt_keeps (P := fun t requests => t = token ∧ requests.length ≤ n)
  have fails {P : Sender → Prop} (small : ∀ s, P s → s.requests.length ≤ n + 1) : Triple P
      (pure (some .failure) : EStateM Abort Sender (Option Exit))
      (fun result s => s.requests.length ≤ n + 2 ∧ (result = none →
        config.oauth2Mode = true ∧ Utf8Fields badActor ∧ s.token = none ∧
          (token.isSome = true ∨ Utf8Creds config)))
      (fun s => s.requests.length ≤ n + 2) :=
    Triple.pure fun s given => ⟨Nat.le_succ_of_le (small s given), fun none_ => by cases none_⟩
  have start (s : Sender) (given : s.token = token ∧ s.requests.length ≤ n) :
      s.requests.length ≤ n + 1 := Nat.le_succ_of_le given.2
  unfold postPass
  apply init.bindCheck (fails start)
  by_cases utf8 : Utf8Fields badActor
  · rw [badActorJson_eq, if_pos utf8]
    apply keeps.bindCheck (fails start)
    apply keeps.bindCheck (fails start)
    apply keeps.bindCheck (fails start)
    apply Triple.bind (prepareOauth2_bounded.imp (fun _ given => given) (fun _ _ given => given)
      fun s given => Nat.le_succ_of_le given)
    intro exit
    split
    · exact fails fun s given => given.1
    rename_i prepared
    intro s given
    have ran := postEvent_bounded curl server config (n := n + 1)
      (flatObject (badActorMembers badActor)) (E := fun s => s.requests.length ≤ n + 2) s
      given.1
    split <;> rename_i h <;> rw [h] at ran
    · refine ⟨ran.1, fun retry => ?_⟩
      obtain ⟨on, dropped⟩ := ran.2 retry
      exact ⟨on, utf8, dropped, given.2 (not_not.mp prepared) on⟩
    · exact ran
  · rw [badActorJson_eq, if_neg utf8]
    exact fails start

theorem perform_adds_one {n : Nat} {request : Request} :
    Triple (fun s => s.requests.length ≤ n) (perform server request)
      (fun _ s => s.requests.length ≤ n + 1) E := by
  intro s given
  simpa [perform] using given

theorem requestTokenRs_bounded {n : Nat} :
    Triple (fun s => s.requests.length ≤ n) (requestTokenRs serde server config)
      (fun token s => s.requests.length ≤ n + 1 ∧ (token.isSome = true → Utf8Creds config))
      (fun s => s.requests.length ≤ n + 1) := by
  unfold requestTokenRs
  rw [clientCredsJsonRs_eq]
  by_cases creds : Utf8Creds config
  · simp only [creds, ↓reduceIte]
    refine Triple.bind (Triple.fromExcept (R := fun _ s => s.requests.length ≤ n)
      (fun _ _ s given => given) fun s given => Nat.le_succ_of_le given) fun json => ?_
    refine perform_adds_one.bind fun reply => ?_
    cases reply with
    | transportFailure => exact Triple.fromExcept (fun _ ok => by cases ok) fun s given => given
    | response status body =>
        simp only
        split
        · exact Triple.pure fun s given => ⟨given, fun _ => trivial⟩
        refine Triple.bind (Triple.fromExcept (R := fun _ s => s.requests.length ≤ n + 1)
          (fun _ _ s given => given) fun s given => given) fun token => ?_
        refine Triple.bind (R := fun _ s => s.requests.length ≤ n + 1)
          (Triple.modify fun s given => given) fun _ => ?_
        exact Triple.pure fun s given => ⟨given, fun _ => trivial⟩
  · simp only [creds, ↓reduceIte]
    exact Triple.bind (Triple.fromExcept (R := fun _ _ => False) (fun _ ok => by cases ok)
      fun s given => Nat.le_succ_of_le given) fun json s absurd_ => absurd_.elim

variable (reqwest server config) in
theorem postEventRs_bounded {n : Nat} (json : Json) (token : CStr) :
    Triple (fun s => s.requests.length ≤ n) (postEventRs reqwest server config json token)
      (fun result s => s.requests.length ≤ n + 1 ∧ (result = none → s.token = none))
      (fun s => s.requests.length ≤ n + 1) := by
  have text {string : CStr} : Triple (fun s : Sender => s.requests.length ≤ n)
      (fromExcept (toStr .jsonHttpPostBadActorRs string)) (fun _ s => s.requests.length ≤ n)
      (fun s => s.requests.length ≤ n + 1) :=
    Triple.fromExcept (fun _ _ s given => given) fun s given => Nat.le_succ_of_le given
  unfold postEventRs
  refine text.bind fun bearer => text.bind fun url => ?_
  split
  · exact Triple.bind (Triple.fromExcept (R := fun _ _ => False) (fun _ ok => by cases ok)
      fun s given => Nat.le_succ_of_le given) fun _ s absurd_ => absurd_.elim
  refine perform_adds_one.bind fun reply => ?_
  cases reply with
  | transportFailure => exact Triple.fromExcept (fun _ ok => by cases ok) fun s given => given
  | response status body =>
      simp only
      split_ifs with accepted rejected
      · exact Triple.pure fun s given => ⟨given, fun none_ => by cases none_⟩
      · refine Triple.bind (R := fun _ s => s.requests.length ≤ n + 1 ∧ s.token = none)
          (Triple.modify fun s given => ⟨given, rfl⟩) fun _ => ?_
        exact Triple.pure fun s given => ⟨given.1, fun _ => given.2⟩
      · exact Triple.pure fun s given => ⟨given, fun none_ => by cases none_⟩

theorem postPassRs_bounded : PassBounded config badActor
    (postPassRs serde reqwest server config badActor) := by
  intro n token
  unfold postPassRs
  rw [badActorJsonRs_eq]
  by_cases utf8 : Utf8Fields badActor
  · simp only [utf8, ↓reduceIte]
    refine Triple.bind (Triple.fromExcept
      (R := fun _ s => s.token = token ∧ s.requests.length ≤ n)
      (fun _ _ s given => given) fun s given => Nat.le_add_right_of_le given.2) fun json => ?_
    split
    · rename_i on
      refine Triple.bind Triple.get fun start => ?_
      cases cached : start.token with
      | some current =>
          simp only
          rintro s ⟨rfl, rfl, small⟩
          have ran := postEventRs_bounded reqwest server config json current start small
          split <;> rename_i h <;> rw [h] at ran
          · exact ⟨Nat.le_succ_of_le ran.1, fun retry => ⟨on, trivial, ran.2 retry, .inl
              (by simp [cached])⟩⟩
          · exact Nat.le_succ_of_le ran
      | none =>
          simp only
          refine Triple.bind (requestTokenRs_bounded.imp (fun s given => given.2.2)
            (fun _ _ given => given) fun s small => Nat.le_succ_of_le small) fun requested => ?_
          cases requested with
          | none =>
              exact Triple.pure fun s given =>
                ⟨Nat.le_succ_of_le given.1, fun none_ => by cases none_⟩
          | some issued =>
              simp only
              intro s given
              have ran := postEventRs_bounded reqwest server config json issued s given.1
              split <;> rename_i h <;> rw [h] at ran
              · exact ⟨ran.1, fun retry => ⟨on, trivial, ran.2 retry, .inr (given.2 rfl)⟩⟩
              · exact ran
    · exact Triple.pure fun s given =>
        ⟨Nat.le_add_right_of_le given.2, fun none_ => by cases none_⟩
  · simp only [utf8, ↓reduceIte]
    exact Triple.bind (Triple.fromExcept (R := fun _ _ => False) (fun _ ok => by cases ok)
      fun s given => Nat.le_add_right_of_le given.2) fun json s absurd_ => absurd_.elim

theorem retryLoop_bounded {pass : EStateM Abort Sender (Option Exit)} (afterRetry : Exit → Exit)
    (bounded : PassBounded config badActor pass)
    (stops : ¬ (config.oauth2Mode = true ∧ Utf8Fields badActor ∧ Utf8Creds config)) (fuel : Nat) :
    Triple (fun s => s.requests.length = 0) (retryLoop pass afterRetry fuel)
      (fun result s => s.requests.length ≤ 4 ∧ (2 ≤ fuel → result ≠ none))
      (fun s => s.requests.length ≤ 4) := by
  -- without a cached token one pass ends the call
  have second (fuel : Nat) : Triple (fun s => s.token = none ∧ s.requests.length ≤ 2)
      (retryLoop pass afterRetry fuel)
      (fun result s => s.requests.length ≤ 4 ∧ (1 ≤ fuel → result ≠ none))
      (fun s => s.requests.length ≤ 4) := by
    cases fuel with
    | zero => exact Triple.pure fun s given => ⟨by omega, by omega⟩
    | succ fuel =>
        refine Triple.bind (bounded 2 none) fun result => ?_
        cases result with
        | some exit => exact Triple.pure fun s given => ⟨given.1, fun _ => by simp⟩
        | none =>
            intro s given
            obtain ⟨on, utf8, -, creds⟩ := given.2 rfl
            exact absurd ⟨on, utf8, by simpa using creds⟩ stops
  cases fuel with
  | zero => exact Triple.pure fun s given => ⟨by omega, by omega⟩
  | succ fuel =>
      intro s given
      refine Triple.bind (P := fun t => t.token = s.token ∧ t.requests.length ≤ 0)
        ((bounded 0 s.token).imp (fun _ given => given) (fun _ _ given => given)
          fun t (small : _ ≤ _) => show t.requests.length ≤ 4 by omega) (fun result => ?_) s
        ⟨rfl, by omega⟩
      cases result with
      | some exit => exact Triple.pure fun s given => ⟨by omega, fun _ => by simp⟩
      | none =>
          refine Triple.bind ((second fuel).imp (fun t given => ⟨(given.2 rfl).2.2.1, given.1⟩)
            (fun _ _ given => given) fun _ given => given) fun result => ?_
          refine Triple.pure fun t given => ⟨given.1, fun enough => ?_⟩
          simpa using given.2 (by omega)

theorem postsBounded_of_stops {env : Type} (pass : env → EStateM Abort Sender (Option Exit))
    {afterRetry : Exit → Exit} (bounded : ∀ e, PassBounded config badActor (pass e))
    (stops : ¬ (config.oauth2Mode = true ∧ Utf8Fields badActor ∧ Utf8Creds config)) :
    PostsBounded config fun e => retryLoop (pass e) afterRetry := by
  refine ⟨4, fun e => ⟨⟨2, fun t ran => ?_⟩, fun fuel => ?_⟩⟩
  · have ended := retryLoop_bounded afterRetry (bounded e) stops 2
      (senderOf config) rfl
    change retryLoop (pass e) afterRetry 2 (senderOf config) = _ at ran
    rw [ran] at ended
    exact ended.2 (le_refl 2) rfl
  · have ended := retryLoop_bounded afterRetry (bounded e) stops fuel
      (senderOf config) rfl
    apply (List.countP_le_length).trans
    split at ended
    · rename_i h
      simp only [h]
      exact ended.1
    · rename_i h
      simp only [h]
      exact ended

theorem postsBounded_of_ends {env : Type} (pass : env → EStateM Abort Sender (Option Exit))
    {afterRetry : Exit → Exit} (bounded : ∀ e, PassBounded config badActor (pass e))
    (ends : ∀ e t, pass e (senderOf config) ≠ .ok none t) :
    PostsBounded config fun e => retryLoop (pass e) afterRetry := by
  have once (e : env) (fuel : Nat) :
      (∃ exit t, pass e (senderOf config) = .ok (some exit) t ∧ t.requests.length ≤ 2 ∧
        retryLoop (pass e) afterRetry (fuel + 1) (senderOf config) = .ok (some exit) t) ∨
      (∃ stop t, pass e (senderOf config) = .error stop t ∧ t.requests.length ≤ 2 ∧
        retryLoop (pass e) afterRetry (fuel + 1) (senderOf config) = .error stop t) := by
    have ran := bounded e 0 config.oauth2AccessToken (senderOf config) ⟨rfl, le_refl 0⟩
    rw [retryLoop, run_bind]
    cases h : pass e (senderOf config) with
    | error stop t =>
        rw [h] at ran
        exact .inr ⟨stop, t, rfl, ran, rfl⟩
    | ok result t =>
        rw [h] at ran
        cases result with
        | none => exact absurd h (ends e t)
        | some exit => exact .inl ⟨exit, t, rfl, ran.1, rfl⟩
  refine ⟨2, fun e => ⟨⟨1, fun t ran => ?_⟩, fun fuel => ?_⟩⟩
  · change retryLoop (pass e) afterRetry 1 (senderOf config) = _ at ran
    rcases once e 0 with ⟨exit, u, -, -, ended⟩ | ⟨stop, u, -, -, ended⟩
    · rw [ended] at ran
      cases ran
    · rw [ended] at ran
      cases ran
  · apply (List.countP_le_length).trans
    cases fuel with
    | zero => exact Nat.zero_le 2
    | succ fuel =>
        rcases once e fuel with ⟨exit, u, -, small, ended⟩ | ⟨stop, u, -, small, ended⟩
        · simp only [ended]
          exact small
        · simp only [ended]
          exact small

end Bounded

/-! ## The senders -/

section Senders
variable {jansson : Jansson} {serde : Serde} {reqwest : Reqwest} {config : Config}
  {badActor : BadActor}

/-- The C sender can be made to ask for tokens again and again. -/
def Retries (config : Config) (badActor : BadActor) : Prop :=
  config.oauth2Mode = true ∧ Utf8Fields badActor ∧ Utf8Creds config

/-- The Rust sender also has to be able to use its URL and the token it starts with. -/
def RetriesRs (reqwest : Reqwest) (config : Config) (badActor : BadActor) : Prop :=
  Retries config badActor ∧ validUtf8 config.webhookUrl.bytes = true ∧
    reqwest.parsesUrl config.webhookUrl = true ∧
    ∀ token, config.oauth2AccessToken = some token → Sendable reqwest config token

theorem postsBounded_iff (issued : ∃ body token, accessToken jansson body = .ok token) :
    PostsBounded config (fun (e : Curl × (Nat → Reply)) =>
      jsonHttpPostBadActor jansson e.1 e.2 config badActor) ↔ ¬ Retries config badActor := by
  simp only [funext (jsonHttpPostBadActor_eq _ _ _ _ _)]
  constructor
  · rintro bounded ⟨on, utf8, creds⟩
    obtain ⟨body, token, given⟩ := issued
    refine not_postsBounded (wireC config badActor)
      (workingCurl, refusingServer body (firstPost config.oauth2AccessToken 0)) rfl (fun fuel => ?_)
      bounded
    have performed := retryLoop_performs (postPass_performs jansson
      (refusingServer body (firstPost config.oauth2AccessToken 0)) workingCurl_works on
      utf8) id fuel (senderOf config)
    obtain ⟨sent, run, count⟩ := runRounds_refused_from
      (roundC jansson (refusingServer body (firstPost config.oauth2AccessToken 0)) config) id
      config.oauth2AccessToken (by
        intro n position
        have other : n % 2 ≠ firstPost config.oauth2AccessToken 0 := by omega
        simp [roundC, creds, refusingServer, position, other, given, webhookRound]) (by
        intro t cached
        simp [cached, roundC, refusingServer, firstPost, webhookRound]) fuel
    change Performs _ _ _ (runRounds _ _ fuel config.oauth2AccessToken 0) at performed
    rw [run] at performed
    obtain ⟨t, ran, -, requests⟩ := performed
    exact ⟨sent, count, t, ran, requests⟩
  · intro stops
    exact postsBounded_of_stops (fun e : Curl × (Nat → Reply) =>
      postPass jansson e.1 e.2 config badActor) (fun e => postPass_bounded) stops

theorem sendable_of_webhookRoundRs {reply : Reply} {token : CStr} {sent : List Kind} {round : Round}
    (played : webhookRoundRs reqwest config reply token sent = some round) :
    Sendable reqwest config token := by
  by_contra unsendable
  simp [webhookRoundRs, unsendable] at played

theorem sendable_of_retry {server : Nat → Reply} {round : Round}
    (played : roundRs serde reqwest server config config.oauth2AccessToken 0 = some round)
    (retried : round.exit = none) :
    validUtf8 config.webhookUrl.bytes = true ∧ reqwest.parsesUrl config.webhookUrl = true ∧
      ∀ token, config.oauth2AccessToken = some token → Sendable reqwest config token := by
  cases cached : config.oauth2AccessToken with
  | some token =>
      rw [cached] at played
      have sendable := sendable_of_webhookRoundRs played
      exact ⟨sendable.2.1, sendable.2.2.1, fun _ same => Option.some.inj same ▸ sendable⟩
  | none =>
      simp only [cached, roundRs] at played
      by_cases creds : Utf8Creds config
      · cases reply : server 0 with
        | transportFailure => simp [creds, reply] at played
        | response status body =>
            by_cases refused : status = 200
            · cases given : accessTokenRs serde body with
              | error e => simp [creds, reply, refused, given] at played
              | ok token =>
                  simp only [creds, ↓reduceIte, reply, refused, ne_eq, not_true_eq_false,
                    given] at played
                  have sendable := sendable_of_webhookRoundRs played
                  exact ⟨sendable.2.1, sendable.2.2.1, fun _ same => by cases same⟩
            · simp only [creds, ↓reduceIte, reply, ne_eq, refused, not_false_eq_true,
                Option.some.injEq] at played
              subst played
              cases retried
      · simp [creds] at played

theorem postsBoundedRs_iff (issued : ∃ body token, accessTokenRs serde body = .ok token ∧
      validUtf8 token.bytes = true ∧ headerValue token.bytes = true) :
    PostsBounded config (fun server =>
      jsonHttpPostBadActorRs serde reqwest server config badActor) ↔
        ¬ RetriesRs reqwest config badActor := by
  simp only [funext (jsonHttpPostBadActorRs_eq _ _ _ _ _)]
  constructor
  · rintro bounded ⟨⟨on, utf8, creds⟩, urlUtf8, parses, cachedOk⟩
    obtain ⟨body, token, given, tokenUtf8, legal⟩ := issued
    have sendable : Sendable reqwest config token := ⟨tokenUtf8, urlUtf8, parses, legal⟩
    refine not_postsBounded (wireRs config badActor)
      (refusingServer body (firstPost config.oauth2AccessToken 0)) rfl (fun fuel => ?_) bounded
    have performed := retryLoop_performs (postPassRs_performs serde reqwest
      (refusingServer body (firstPost config.oauth2AccessToken 0)) on utf8)
      (fun _ => .failure) fuel (senderOf config)
    obtain ⟨sent, run, count⟩ := runRounds_refused_from
      (roundRs serde reqwest (refusingServer body (firstPost config.oauth2AccessToken 0)) config)
      (fun _ => .failure)
      config.oauth2AccessToken (by
        intro n position
        have other : n % 2 ≠ firstPost config.oauth2AccessToken 0 := by omega
        simp [roundRs, webhookRoundRs, sendable, creds, refusingServer, position, other, given,
          webhookRound]) (by
        intro t cached
        simp [cached, roundRs, webhookRoundRs, cachedOk t cached, refusingServer, firstPost,
          webhookRound]) fuel
    change Performs _ _ _ (runRounds _ _ fuel config.oauth2AccessToken 0) at performed
    rw [run] at performed
    obtain ⟨t, ran, -, requests⟩ := performed
    exact ⟨sent, count, t, ran, requests⟩
  · intro stops
    by_cases retries : Retries config badActor
    · refine postsBounded_of_ends (fun server =>
        postPassRs serde reqwest server config badActor) (fun e => postPassRs_bounded)
        fun server t ran => ?_
      obtain ⟨round, played, retried, -⟩ := performs_ok
        (postPassRs_performs _ _ _ retries.1 retries.2.1 (senderOf config)) ran
      exact stops ⟨retries, sendable_of_retry played retried⟩
    · exact postsBounded_of_stops (fun server =>
        postPassRs serde reqwest server config badActor) (fun e => postPassRs_bounded) retries

end Senders

theorem compact_issued : ∃ body token, accessToken compactJansson body = .ok token :=
  ⟨tokenBody, _, accessToken_tokenBody⟩

theorem compact_issuedRs : ∃ body token, accessTokenRs compactSerde body = .ok token ∧
    validUtf8 token.bytes = true ∧ headerValue token.bytes = true :=
  ⟨tokenBody, _, accessTokenRs_tokenBody, by decide, by decide⟩

end SentryPeer.Proof
