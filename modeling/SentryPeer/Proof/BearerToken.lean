import SentryPeer.Proof.Credentials

/-!
# What the token endpoint may answer

Any body but that of an object with a string `access_token` fails one of the assertions that stand
between the answer and the cached token.
-/

namespace SentryPeer.Proof
open Lib

def HoldsToken (jansson : Jansson) (body : List UInt8) (token : CStr) : Prop :=
  ∃ json, jansson.loadb body = some json ∧ json.get? "access_token" = some (.string token.bytes)

/-- The request is made and the endpoint answers it, with a body that arrives in these chunks. -/
structure TokenAnswer (curl : Curl) (server : Nat → Reply) (config : Config) (s : Sender)
    (status : Nat) (chunks : List (List UInt8)) (creds : Json) : Prop where
  isCreds : clientCredsJson config = some creds
  options : ∀ option ∈ [CurlOption.writeFunction, .writeData, .url sentrypeerOauth2TokenUrl,
    .postFields creds], curl.setopt s.requests.length option = true
  reply : server s.requests.length = .response status (savedResults chunks)

/-- The outcome for a body: the token it holds is cached, or the request fails and none is. -/
structure AnswerHandled (jansson : Jansson) (body : List UInt8)
    (result : EStateM.Result Abort Sender Exit) : Prop where
  cached : ∀ token, HoldsToken jansson body token →
    ∃ t, result = .ok .success t ∧ t.token = some token
  failed : (∀ token, ¬ HoldsToken jansson body token) → ∃ t, result = .ok .failure t ∧ t.token = none

section Answers
variable {jansson : Jansson} {curl : Curl} {server : Nat → Reply} {config : Config} {s : Sender}
  {status : Nat} {chunks : List (List UInt8)} {creds : Json}

theorem savedResults_eq (chunks : List (List UInt8)) : savedResults chunks = chunks.flatten := by
  have general (memory : List UInt8) :
      chunks.foldl saveJsonResults memory = memory ++ chunks.flatten := by
    induction chunks generalizing memory with
    | nil => exact (List.append_nil memory).symm
    | cons chunk rest ih =>
        rw [List.foldl_cons, ih, saveJsonResults, List.flatten_cons, List.append_assoc]
  exact general []

theorem accessToken_holds {body : List UInt8} {token : CStr}
    (holds : HoldsToken jansson body token) : accessToken jansson body = .ok token := by
  obtain ⟨json, loaded, found⟩ := holds
  simp only [accessToken, loaded, found]
  exact congrArg Except.ok (CStr.ofMemory_bytes token)

theorem curlEasySetopt_through {β : Type} {easy : Easy} {option : CurlOption} {fail : β}
    {rest : EStateM Abort Sender β} (set : curl.setopt s.requests.length option = true) :
    (curlEasySetopt curl option >>= fun ok => if (!ok) = true then pure fail else rest)
      { s with easy := easy } = rest { s with easy := option.apply easy } := by
  rw [run_bind, curlEasySetopt, if_pos set]
  rfl

variable (jansson) in
theorem requestOauth2BearerToken_answered
    (answer : TokenAnswer curl server config s status chunks creds) :
    ∃ t, requestOauth2BearerToken jansson curl server config s =
      match accessToken jansson (savedResults chunks) with
      | .error abort => .error abort t
      | .ok token => .ok .success { t with token := some token } := by
  rw [requestOauth2BearerToken, curlEasySetopt_through (answer.options _ (by simp)),
    curlEasySetopt_through (answer.options _ (by simp)),
    curlEasySetopt_through (answer.options _ (by simp)), answer.isCreds]
  dsimp only
  rw [curlEasySetopt_through (answer.options _ (by simp)), run_bind, curlEasyPerform_set rfl rfl]
  dsimp only
  rw [answer.reply]
  dsimp only
  rw [run_bind]
  cases accessToken jansson (savedResults chunks) with
  | error abort => exact ⟨_, rfl⟩
  | ok token => exact ⟨_, rfl⟩

end Answers

theorem request_token_handled_iff (jansson : Jansson) (curl : Curl) (server : Nat → Reply)
    (config : Config) (s : Sender) (status : Nat) (chunks : List (List UInt8)) (creds : Json)
    (answer : TokenAnswer curl server config s status chunks creds) :
    AnswerHandled jansson chunks.flatten (requestOauth2BearerToken jansson curl server config s) ↔
      ∃ token, HoldsToken jansson chunks.flatten token := by
  obtain ⟨t, ran⟩ := requestOauth2BearerToken_answered jansson answer
  rw [ran, savedResults_eq]
  constructor
  · intro handled
    by_contra absent
    obtain ⟨u, failed, -⟩ := handled.failed (not_exists.mp absent)
    cases made : accessToken jansson chunks.flatten with
    | error abort =>
        rw [made] at failed
        cases failed
    | ok token =>
        rw [made] at failed
        cases failed
  · rintro ⟨token, holds⟩
    refine ⟨fun other held => ?_, fun none => absurd holds (none token)⟩
    rw [accessToken_holds held]
    exact ⟨_, rfl, rfl⟩

theorem tokenAnswer_working {server : Nat → Reply} {status : Nat} {chunks : List (List UInt8)}
    (reply : server 0 = .response status (savedResults chunks)) : ∃ creds,
      TokenAnswer workingCurl server oauth2Config (senderOf oauth2Config) status chunks creds := by
  have utf8 : Utf8Creds oauth2Config := by decide
  have isCreds := clientCredsJson_eq oauth2Config
  rw [if_pos utf8] at isCreds
  exact ⟨_, isCreds, fun _ _ => rfl, reply⟩

theorem holdsToken_tokenBody : HoldsToken compactJansson tokenBody (.lit "t0ken") := by
  have loaded : compactJansson.loadb tokenBody =
      some (flatObject [("access_token", ascii "t0ken".toList)]) := by
    simp only [compactJansson, readFlat_tokenBody]
  refine ⟨flatObject [("access_token", ascii "t0ken".toList)], loaded, ?_⟩
  rfl

def chunkedBody : List (List UInt8) := [tokenBody.take 3, tokenBody.drop 3]

theorem chunkedBody_flatten : chunkedBody.flatten = tokenBody := by
  rw [chunkedBody, List.flatten_cons, List.flatten_singleton, List.take_append_drop]

theorem request_token_handled_two_chunks :
    AnswerHandled compactJansson chunkedBody.flatten (requestOauth2BearerToken compactJansson
      workingCurl acceptingServer oauth2Config (senderOf oauth2Config)) := by
  have reply : acceptingServer 0 = .response 200 (savedResults chunkedBody) := by
    rw [savedResults_eq, chunkedBody_flatten, acceptingServer]
  obtain ⟨creds, answer⟩ := tokenAnswer_working reply
  rw [request_token_handled_iff compactJansson workingCurl acceptingServer oauth2Config
    (senderOf oauth2Config) 200 chunkedBody creds answer, chunkedBody_flatten]
  exact ⟨_, holdsToken_tokenBody⟩

def outageServer : Nat → Reply := fun _ => .response 503 (savedResults [])

/-- An outage, answered with an empty body, stops the honeypot. -/
theorem request_token_empty_body_stops :
    (∃ t, requestOauth2BearerToken compactJansson workingCurl outageServer oauth2Config
      (senderOf oauth2Config) = .error (.assertion .requestOauth2BearerToken) t) ∧
    ¬ AnswerHandled compactJansson [] (requestOauth2BearerToken compactJansson workingCurl
      outageServer oauth2Config (senderOf oauth2Config)) := by
  have reply : outageServer 0 = .response 503 (savedResults []) := rfl
  obtain ⟨creds, answer⟩ := tokenAnswer_working reply
  obtain ⟨t, ran⟩ := requestOauth2BearerToken_answered compactJansson answer
  have unread : accessToken compactJansson (savedResults []) =
    .error (.assertion .requestOauth2BearerToken) := rfl
  rw [unread] at ran
  refine ⟨⟨t, ran⟩, fun handled => ?_⟩
  obtain ⟨u, failed, -⟩ := handled.failed fun token ⟨json, loaded, _⟩ => by cases loaded
  rw [ran] at failed
  cases failed

end SentryPeer.Proof
