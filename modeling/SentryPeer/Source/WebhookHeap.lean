import SentryPeer.Source.OnHeap
import SentryPeer.Source.Webhook

/-!
# The C webhook sender on the heap

`json_http_post_bad_actor` of `json_logger.c` with the strings it makes, the handle and the list of
libcurl, and the token of the configuration. libcurl keeps the pointers it is given: the post
fields, the list and the write data have to be there when a transfer reads or writes them.
-/

namespace SentryPeer.OnHeap
open Lib

/-- A request as it is sent. -/
structure Sent where
  url : CStr
  body : CStr
  headers : List CStr

/-- What arrives of an answer, chunk by chunk, and its status unless the transfer fails. -/
structure Transfer where
  chunks : List (List UInt8)
  status : Option Nat

inductive CurlOption
  | userAgent
  | sslVersion
  | timeout
  | httpHeader (headers : ℕ)
  | writeFunction (function : WriteFunction)
  | writeData (userp : Option ℕ)
  | url (address : CStr)
  | postFields (body : ℕ)

inductive CurlOption.Kind
  | userAgent
  | sslVersion
  | timeout
  | httpHeader
  | writeFunction
  | writeData
  | url
  | postFields
deriving DecidableEq

def CurlOption.kind : CurlOption → CurlOption.Kind
  | .userAgent => .userAgent
  | .sslVersion => .sslVersion
  | .timeout => .timeout
  | .httpHeader _ => .httpHeader
  | .writeFunction _ => .writeFunction
  | .writeData _ => .writeData
  | .url _ => .url
  | .postFields _ => .postFields

def CurlOption.apply (handle : EasyHandle) : CurlOption → EasyHandle
  | .httpHeader headers => { handle with httpHeader := some headers }
  | .writeFunction function => { handle with writeFunction := function }
  | .writeData userp => { handle with writeData := userp }
  | .url address => { handle with url := some address }
  | .postFields body => { handle with postFields := some body }
  | _ => handle

/-- Whether the calls succeed, by the number of requests before. -/
structure Curl where
  init : Nat → Bool
  setopt : Nat → CurlOption.Kind → Bool
  snprintf : Nat → Bool

abbrev Network := List Sent

def Block.easy? : Block → Option EasyHandle
  | .easy handle => some handle
  | _ => none

def Block.slist? : Block → Option (List CStr)
  | .slist headers => some headers
  | _ => none

def Block.memory? : Block → Option ℕ
  | .memoryStruct memory => some memory
  | _ => none

def Block.bytes? : Block → Option (List UInt8)
  | .buffer bytes => some bytes
  | _ => none

def Block.token? : Block → Option (Option ℕ)
  | .sentrypeerConfig oauth2AccessToken => some oauth2AccessToken
  | _ => none

def requestsSent : Program Network Nat := onRest fun network => .ok network.length network

/-! ## libcurl -/

def curlEasyInit (curl : Curl) : Program Network (Option ℕ) := do
  if curl.init (← requestsSent) then return some (← malloc (.easy ⟨none, none, none, .unset, none⟩))
  else return none

def curlEasySetopt (curl : Curl) (easy : ℕ) (option : CurlOption) : Program Network Bool := do
  if curl.setopt (← requestsSent) option.kind then
    let handle ← load Block.easy? easy
    store easy (.easy (option.apply handle))
    return true
  else return false

-- The string is copied, and the list keeps its address.
def curlSlistAppend (list string : ℕ) : Program Network Unit := do
  let headers ← load Block.slist? list
  store list (.slist (headers ++ [← loadString string]))

def readHeaders : Option ℕ → Program Network (List CStr)
  | none => return []
  | some list => load Block.slist? list

-- `realloc` gives the memory back and takes other memory.
def saveJsonResults (userp : ℕ) (json : List UInt8) : Program Network Unit := do
  let memory ← load Block.memory? userp
  let bytes ← load Block.bytes? memory
  cFree memory
  let ptr ← malloc (.buffer (SentryPeer.saveJsonResults bytes json))
  store userp (.memoryStruct ptr)

def writeChunk (handle : EasyHandle) (chunk : List UInt8) : Program Network Unit :=
  match handle.writeFunction, handle.writeData with
  | .saveJsonResults, some userp => saveJsonResults userp chunk
  | .saveJsonResults, none => fun s => .error (.invalid 0) s
  | .unset, _ => return ()
  | .ignoreData, _ => return ()

/-- The status of the answer, or nothing when the transfer fails. -/
def curlEasyPerform (server : Nat → Transfer) (easy : ℕ) : Program Network (Option Nat) := do
  let handle ← load Block.easy? easy
  match handle.url, handle.postFields with
  | some url, some fields =>
      let body ← loadString fields
      let headers ← readHeaders handle.httpHeader
      let n ← onRest fun network => .ok network.length (network ++ [⟨url, body, headers⟩])
      forM (server n).chunks (writeChunk handle)
      return (server n).status
  | _, _ => return none

def curlEasyCleanup (easy : ℕ) : Program Network Unit :=
  free (fun block => block.easy?.isSome) easy

def curlSlistFreeAll (list : ℕ) : Program Network Unit :=
  free (fun block => block.slist?.isSome) list

def httpCleanupCurl (easy headers : ℕ) : Program Network Unit := do
  curlEasyCleanup easy
  curlSlistFreeAll headers

/-! ## The token -/

-- `chunk` is a variable of `request_oauth2_bearer_token` and ends with it.
def freeChunk (memory chunk : ℕ) : Program Network Unit := do
  cFree memory
  free (fun block => block.memory?.isSome) chunk

def chunkMemory (chunk : ℕ) : Program Network ℕ := load Block.memory? chunk

def endChunk (chunk : ℕ) : Program Network Exit := do
  freeChunk (← chunkMemory chunk) chunk
  return .failure

section Token
variable (jansson : Jansson) (curl : Curl) (server : Nat → Transfer) (config : Config)
  (sentrypeerConfig : ℕ)

def saveAccessToken (bytes : List UInt8) : Program Network ℕ := do
  match jansson.loadb bytes with
  | none => abort (.assertion .requestOauth2BearerToken)
  | some value =>
      let jsonObj ← malloc (.json value)
      match value.get? "access_token" with
      | none => abort (.assertion .requestOauth2BearerToken)
      | some accessToken =>
          let token ← utilDuplicateString (.ofPart (jsonStringValue (some accessToken)))
          store sentrypeerConfig (.sentrypeerConfig (some token))
          return jsonObj

-- The part of `request_oauth2_bearer_token` that has its options set.
def transferToken (easy jsonString chunk : ℕ) : Program Network Exit := do
  match ← curlEasyPerform server easy with
  | none =>
      cFree jsonString
      endChunk chunk
  | some _ =>
      let memory ← chunkMemory chunk
      let jsonObj ← saveAccessToken jansson sentrypeerConfig (← load Block.bytes? memory)
      jsonDecref jsonObj
      freeChunk memory chunk
      cFree jsonString
      return .success

def requestOauth2BearerToken (easy : ℕ) : Program Network Exit := do
  let memory ← malloc (.buffer [])
  let chunk ← malloc (.memoryStruct memory)
  if !(← curlEasySetopt curl easy (.writeFunction .saveJsonResults)) then return ← endChunk chunk
  if !(← curlEasySetopt curl easy (.writeData (some chunk))) then return ← endChunk chunk
  if !(← curlEasySetopt curl easy (.url sentrypeerOauth2TokenUrl)) then return ← endChunk chunk
  match clientCredsJson config with
  | none => endChunk chunk
  | some creds =>
      let jsonClientCreds ← malloc (.json creds)
      let jsonString ← malloc (.string .c (jansson.dumps creds))
      jsonDecref jsonClientCreds
      if !(← curlEasySetopt curl easy (.postFields jsonString)) then
        cFree jsonString
        return ← endChunk chunk
      transferToken jansson server sentrypeerConfig easy jsonString chunk

/-- `printf` of a null pointer. -/
def readToken : Program Network CStr := do
  match ← load Block.token? sentrypeerConfig with
  | none => return .lit "(null)"
  | some token => loadString token

-- libcurl copies the duplicate as well, and nobody frees it.
def setOauth2BearerTokenHeader (easy headers : ℕ) : Program Network Exit := do
  let oauth2BearerHeader ← malloc (.buffer [])
  let token ← readToken sentrypeerConfig
  if !curl.snprintf (← requestsSent) then
    cFree oauth2BearerHeader
    return .failure
  store oauth2BearerHeader (.string .c (bearerHeader token))
  curlSlistAppend headers (← utilDuplicateString (.block oauth2BearerHeader))
  if !(← curlEasySetopt curl easy (.httpHeader headers)) then
    cFree oauth2BearerHeader
    return .failure
  cFree oauth2BearerHeader
  return .success

def getAndSetOauth2BearerToken (easy headers : ℕ) : Program Network Exit := do
  if (← requestOauth2BearerToken jansson curl server config sentrypeerConfig easy) ≠ .success then
    return .failure
  if (← setOauth2BearerTokenHeader curl sentrypeerConfig easy headers) ≠ .success then
    return .failure
  return .success

def prepareOauth2 (easy headers : ℕ) : Program Network Exit := do
  if !config.oauth2Mode then return .success
  match ← load Block.token? sentrypeerConfig with
  | some _ => setOauth2BearerTokenHeader curl sentrypeerConfig easy headers
  | none =>
      if !(← curlEasySetopt curl easy (.httpHeader headers)) then return .failure
      getAndSetOauth2BearerToken jansson curl server config sentrypeerConfig easy headers

def freeOauth2AccessToken : Program Network Unit := do
  match ← load Block.token? sentrypeerConfig with
  | none => return ()
  | some token =>
      cFree token
      store sentrypeerConfig (.sentrypeerConfig none)

/-! ## The event -/

/-- How a pass ends: with the call, or with a call of itself, before which nothing is freed. -/
inductive PassEnd
  | done (exit : Exit)
  | retry (jsonString easy headers : ℕ)

def giveUp (jsonString easy headers : ℕ) : Program Network PassEnd := do
  cFree jsonString
  httpCleanupCurl easy headers
  return .done .failure

-- The part of the POST that has its options set.
def transferEvent (jsonString easy headers : ℕ) : Program Network PassEnd := do
  match ← curlEasyPerform server easy with
  | none => giveUp jsonString easy headers
  | some status =>
      if status = 200 ∨ status = 201 then
        cFree jsonString
        httpCleanupCurl easy headers
        return .done .success
      else if config.oauth2Mode ∧ (status = 401 ∨ status = 403) then
        freeOauth2AccessToken sentrypeerConfig
        return .retry jsonString easy headers
      else giveUp jsonString easy headers

def postEvent (jsonString easy headers : ℕ) : Program Network PassEnd := do
  if !(← curlEasySetopt curl easy (.postFields jsonString)) then
    return ← giveUp jsonString easy headers
  if !(← curlEasySetopt curl easy (.url config.webhookUrl)) then
    return ← giveUp jsonString easy headers
  if !(← curlEasySetopt curl easy (.writeData none)) then return ← giveUp jsonString easy headers
  if !(← curlEasySetopt curl easy (.writeFunction .ignoreData)) then
    return ← giveUp jsonString easy headers
  transferEvent server config sentrypeerConfig jsonString easy headers

def postPass (badActorToLog : ℕ) : Program Network PassEnd := do
  match ← curlEasyInit curl with
  | none => return .done .failure
  | some easy =>
      let headers ← malloc (.slist [contentType])
      match ← badActorToJson jansson badActorToLog with
      | none =>
          httpCleanupCurl easy headers
          return .done .failure
      | some jsonString =>
          if !(← curlEasySetopt curl easy .userAgent) then return ← giveUp jsonString easy headers
          if !(← curlEasySetopt curl easy .sslVersion) then return ← giveUp jsonString easy headers
          if !(← curlEasySetopt curl easy .timeout) then return ← giveUp jsonString easy headers
          let prepared ← prepareOauth2 jansson curl server config sentrypeerConfig easy headers
          if prepared ≠ .success then return ← giveUp jsonString easy headers
          postEvent curl server config sentrypeerConfig jsonString easy headers

-- After a call of itself that fails, the text, the handle and the list are forgotten.
def jsonHttpPostBadActor (badActorToLog : ℕ) : Nat → Program Network (Option Exit)
  | 0 => return none
  | fuel + 1 => do
      match ← postPass jansson curl server config sentrypeerConfig badActorToLog with
      | .done exit => return some exit
      | .retry jsonString easy headers =>
          match ← jsonHttpPostBadActor badActorToLog fuel with
          | none => return none
          | some .failure => return some .failure
          | some .success =>
              cFree jsonString
              httpCleanupCurl easy headers
              return some .success

end Token

end SentryPeer.OnHeap
