import SentryPeer.Source.JsonLogger

/-!
# The webhook senders

`json_http_post_bad_actor` of `json_logger.c` over libcurl and `json_http_post_bad_actor_rs` of
`json_logger.rs` over reqwest. Both call themselves after a 401 or 403, so they run on fuel: one
pass of the body either ends the call or asks for the next one. The servers answer the `n`-th
request of a run.
-/

namespace SentryPeer
open Lib

def sentrypeerOauth2TokenUrl : CStr := .lit "https://authz.sentrypeer.com/oauth/token"
def sentrypeerOauth2GrantType : CStr := .lit "client_credentials"
def sentrypeerOauth2Audience : CStr := .lit "https://sentrypeer.com/api"
def auth0MaxBearerTokenLen : Nat := 4096
def contentType : CStr := .lit "Content-Type: application/json"

inductive Reply
  | transportFailure
  | response (status : Nat) (body : List UInt8)

structure Request where
  url : CStr
  body : Json
  headers : List CStr

structure Easy where
  url : Option CStr
  postFields : Option Json
  httpHeader : List CStr

def Easy.init : Easy := ⟨none, none, []⟩

structure Sender where
  token : Option CStr
  requests : List Request
  easy : Easy

inductive CurlOption
  | userAgent
  | sslVersion
  | timeout
  | httpHeader (headers : List CStr)
  | writeFunction
  | writeData
  | url (url : CStr)
  | postFields (body : Json)

def CurlOption.apply (easy : Easy) : CurlOption → Easy
  | .httpHeader headers => { easy with httpHeader := headers }
  | .url address => { easy with url := some address }
  | .postFields body => { easy with postFields := some body }
  | _ => easy

/-- Whether the calls of libcurl and of `snprintf` succeed, by the number of requests before. No
option is set twice between two requests. -/
structure Curl where
  init : Nat → Bool
  setopt : Nat → CurlOption → Bool
  snprintf : Nat → Bool

def curlEasyInit (curl : Curl) : EStateM Abort Sender Bool := fun s =>
  if curl.init s.requests.length then .ok true { s with easy := .init } else .ok false s

def curlEasySetopt (curl : Curl) (option : CurlOption) : EStateM Abort Sender Bool := fun s =>
  if curl.setopt s.requests.length option then .ok true { s with easy := option.apply s.easy }
  else .ok false s

def perform (server : Nat → Reply) (request : Request) : EStateM Abort Sender Reply := fun s =>
  .ok (server s.requests.length) { s with requests := s.requests ++ [request] }

def curlEasyPerform (server : Nat → Reply) : EStateM Abort Sender Reply := do
  let easy := (← get).easy
  match easy.url, easy.postFields with
  | some url, some body => perform server ⟨url, body, easy.httpHeader⟩
  | _, _ => return .transportFailure

/-! ## The C sender -/

def clientCredsJson (config : Config) : Option Json :=
  jsonPack [
    ("client_id", config.oauth2ClientId),
    ("client_secret", config.oauth2ClientSecret),
    ("audience", sentrypeerOauth2Audience),
    ("grant_type", sentrypeerOauth2GrantType)]

def accessToken (jansson : Jansson) (body : List UInt8) : Except Abort CStr :=
  match jansson.loadb body with
  | none => .error (.assertion .requestOauth2BearerToken)
  | some json =>
      match json.get? "access_token" with
      | none => .error (.assertion .requestOauth2BearerToken)
      | some value => utilDuplicateString (jsonStringValue (some value))

-- The write callback: the memory is grown by each chunk that arrives.
def saveJsonResults (memory json : List UInt8) : List UInt8 := memory ++ json

/-- `chunk` once the transfer is over, which starts out with no data. -/
def savedResults (chunks : List (List UInt8)) : List UInt8 := chunks.foldl saveJsonResults []

def requestOauth2BearerToken (jansson : Jansson) (curl : Curl) (server : Nat → Reply)
    (config : Config) : EStateM Abort Sender Exit := do
  if !(← curlEasySetopt curl .writeFunction) then return .failure
  if !(← curlEasySetopt curl .writeData) then return .failure
  if !(← curlEasySetopt curl (.url sentrypeerOauth2TokenUrl)) then return .failure
  match clientCredsJson config with
  | none => return .failure
  | some creds =>
      if !(← curlEasySetopt curl (.postFields creds)) then return .failure
      match ← curlEasyPerform server with
      | .transportFailure => return .failure
      | .response _ body =>
          let token ← fromExcept (accessToken jansson body)
          modify fun s => { s with token := some token }
          return .success

-- `snprintf` cuts the header at the size of its buffer.
def bearerHeader (token : CStr) : CStr :=
  let header := (CStr.lit "Authorization: Bearer ").bytes ++ token.bytes
  .ofMemory (header.take ((CStr.lit "Authorization: Bearer ").length + auth0MaxBearerTokenLen))

def setOauth2BearerTokenHeader (curl : Curl) (headers : List CStr) :
    EStateM Abort Sender Exit := do
  let s ← get
  if !curl.snprintf s.requests.length then return .failure
  let header := bearerHeader (s.token.getD (.lit "(null)"))
  if !(← curlEasySetopt curl (.httpHeader (headers ++ [header]))) then return .failure
  return .success

def getAndSetOauth2BearerToken (jansson : Jansson) (curl : Curl) (server : Nat → Reply)
    (config : Config) (headers : List CStr) : EStateM Abort Sender Exit := do
  if (← requestOauth2BearerToken jansson curl server config) ≠ .success then return .failure
  if (← setOauth2BearerTokenHeader curl headers) ≠ .success then return .failure
  return .success

/-- The two `oauth2_mode` blocks before the POST: the headers, and a token when none is cached. -/
def prepareOauth2 (jansson : Jansson) (curl : Curl) (server : Nat → Reply) (config : Config) :
    EStateM Abort Sender Exit := do
  let headers := [contentType]
  if !config.oauth2Mode then return .success
  if (← get).token.isSome then
    setOauth2BearerTokenHeader curl headers
  else
    if !(← curlEasySetopt curl (.httpHeader headers)) then return .failure
    getAndSetOauth2BearerToken jansson curl server config headers

/-- The POST itself; `none` is a 401 or 403, after which the token is dropped. -/
def postEvent (curl : Curl) (server : Nat → Reply) (config : Config) (json : Json) :
    EStateM Abort Sender (Option Exit) := do
  if !(← curlEasySetopt curl (.postFields json)) then return some .failure
  if !(← curlEasySetopt curl (.url config.webhookUrl)) then return some .failure
  if !(← curlEasySetopt curl .writeData) then return some .failure
  if !(← curlEasySetopt curl .writeFunction) then return some .failure
  match ← curlEasyPerform server with
  | .transportFailure => return some .failure
  | .response status _ =>
      if status = 200 ∨ status = 201 then return some .success
      else if config.oauth2Mode ∧ (status = 401 ∨ status = 403) then
        modify fun s => { s with token := none }
        return none
      else return some .failure

def postPass (jansson : Jansson) (curl : Curl) (server : Nat → Reply) (config : Config)
    (badActor : BadActor) : EStateM Abort Sender (Option Exit) := do
  if !(← curlEasyInit curl) then return some .failure
  match badActorJson badActor with
  | none => return some .failure
  | some json =>
      if !(← curlEasySetopt curl .userAgent) then return some .failure
      if !(← curlEasySetopt curl .sslVersion) then return some .failure
      if !(← curlEasySetopt curl .timeout) then return some .failure
      if (← prepareOauth2 jansson curl server config) ≠ .success then return some .failure
      postEvent curl server config json

/-- `none` when the fuel is used up. -/
def jsonHttpPostBadActor (jansson : Jansson) (curl : Curl) (server : Nat → Reply) (config : Config)
    (badActor : BadActor) : Nat → EStateM Abort Sender (Option Exit)
  | 0 => return none
  | fuel + 1 => do
      match ← postPass jansson curl server config badActor with
      | some exit => return some exit
      | none =>
          match ← jsonHttpPostBadActor jansson curl server config badActor fuel with
          | none => return none
          | some .failure => return some .failure
          | some .success => return some .success

/-! ## The Rust sender -/

structure Reqwest where
  parsesUrl : CStr → Bool

-- The bytes a `HeaderValue` may hold.
def headerValue (bytes : List UInt8) : Bool := bytes.all fun b => (32 ≤ b && b ≠ 127) || b = 9

def toStr (site : Function) (string : CStr) : Except Abort (List UInt8) :=
  strOrEmpty site (some string)

def clientCredsJsonRs (config : Config) : Except Abort Json := do
  let clientId ← toStr .jsonHttpPostBadActorRs config.oauth2ClientId
  let clientSecret ← toStr .jsonHttpPostBadActorRs config.oauth2ClientSecret
  return serdeMap [
    ("client_id", clientId),
    ("client_secret", clientSecret),
    ("audience", sentrypeerOauth2Audience.bytes),
    ("grant_type", sentrypeerOauth2GrantType.bytes)]

def accessTokenRs (serde : Serde) (body : List UInt8) : Except Abort CStr :=
  match (serde.fromText body).bind (·.get? "access_token") with
  | some (.string text) =>
      if noNul : 0 ∉ text then .ok ⟨text, noNul⟩ else .error (.panic .jsonHttpPostBadActorRs)
  | _ => .error (.panic .jsonHttpPostBadActorRs)

/-- The token request; `none` when its answer is not 200. -/
def requestTokenRs (serde : Serde) (server : Nat → Reply) (config : Config) :
    EStateM Abort Sender (Option CStr) := do
  let creds ← fromExcept (clientCredsJsonRs config)
  match ← perform server ⟨sentrypeerOauth2TokenUrl, creds, [contentType]⟩ with
  | .transportFailure => fromExcept (.error (.panic .jsonHttpPostBadActorRs))
  | .response status body =>
      if status ≠ 200 then return none
      let token ← fromExcept (accessTokenRs serde body)
      modify fun s => { s with token := some token }
      return some token

-- `send` fails, and `expect` panics, when the URL or a header could not be used.
def postEventRs (reqwest : Reqwest) (server : Nat → Reply) (config : Config) (json : Json)
    (token : CStr) : EStateM Abort Sender (Option Exit) := do
  let bearer ← fromExcept (toStr .jsonHttpPostBadActorRs token)
  let _ ← fromExcept (toStr .jsonHttpPostBadActorRs config.webhookUrl)
  if !(reqwest.parsesUrl config.webhookUrl && headerValue bearer) then
    fromExcept (.error (.panic .jsonHttpPostBadActorRs))
  let authorization : CStr := .ofMemory ((CStr.lit "Authorization: Bearer ").bytes ++ bearer)
  match ← perform server ⟨config.webhookUrl, json, [authorization, contentType]⟩ with
  | .transportFailure => fromExcept (.error (.panic .jsonHttpPostBadActorRs))
  | .response status _ =>
      if status = 200 ∨ status = 201 then return some .success
      else if status = 401 ∨ status = 403 then
        modify fun s => { s with token := none }
        return none
      else return some .failure

def postPassRs (serde : Serde) (reqwest : Reqwest) (server : Nat → Reply) (config : Config)
    (badActor : BadActor) : EStateM Abort Sender (Option Exit) := do
  let json ← fromExcept (badActorJsonRs badActor)
  if config.oauth2Mode then
    match (← get).token with
    | some token => postEventRs reqwest server config json token
    | none =>
        match ← requestTokenRs serde server config with
        | none => return some .failure
        | some token => postEventRs reqwest server config json token
  else return some .success

/-- Whatever the call after a 401 or 403 returns, this one fails. -/
def jsonHttpPostBadActorRs (serde : Serde) (reqwest : Reqwest) (server : Nat → Reply)
    (config : Config) (badActor : BadActor) : Nat → EStateM Abort Sender (Option Exit)
  | 0 => return none
  | fuel + 1 => do
      match ← postPassRs serde reqwest server config badActor with
      | some exit => return some exit
      | none =>
          match ← jsonHttpPostBadActorRs serde reqwest server config badActor fuel with
          | none => return none
          | some .failure => return some .failure
          | some .success => return some .failure

end SentryPeer
