import Mathlib.Data.Nat.Count
import SentryPeer.Lib.Represents
import SentryPeer.Proof.OnHeap
import SentryPeer.Source.WebhookHeap

/-!
# The C webhook sender on the heap

Each function of the sender on the heap does what the function on values does. The texts that the
handle points to are there whenever a transfer is performed, although some of what it points to is
gone in between.
-/

namespace SentryPeer.OnHeap
open Lib Pointwise

def optionKind : SentryPeer.CurlOption → CurlOption.Kind
  | .userAgent => .userAgent
  | .sslVersion => .sslVersion
  | .timeout => .timeout
  | .httpHeader _ => .httpHeader
  | .writeFunction => .writeFunction
  | .writeData => .writeData
  | .url _ => .url
  | .postFields _ => .postFields

def Curl.onValues (curl : Curl) : SentryPeer.Curl where
  init := curl.init
  setopt n option := curl.setopt n (optionKind option)
  snprintf := curl.snprintf

def Transfer.reply (transfer : Transfer) : Reply :=
  match transfer.status with
  | none => .transportFailure
  | some status => .response status (savedResults transfer.chunks)

theorem onValues_snprintf (curl : Curl) : curl.onValues.snprintf = curl.snprintf := rfl

/-- The requests as they are sent. -/
def sentBy (jansson : Jansson) (s : Sender) : Network :=
  s.requests.map fun request => ⟨request.url, jansson.dumps request.body, request.headers⟩

section Blocks
variable (p : ℕ)

abbrev textAt (text : CStr) : Assertion Block := pointsTo p (.string .c text)

abbrev bytesAt (bytes : List UInt8) : Assertion Block := pointsTo p (.buffer bytes)

abbrev jsonAt (value : Json) : Assertion Block := pointsTo p (.json value)

abbrev easyAt (handle : EasyHandle) : Assertion Block := pointsTo p (.easy handle)

abbrev listAt (headers : List CStr) : Assertion Block := pointsTo p (.slist headers)

abbrev chunkAt (memory : ℕ) : Assertion Block := pointsTo p (.memoryStruct memory)

abbrev configAt (oauth2AccessToken : Option ℕ) : Assertion Block :=
  pointsTo p (.sentrypeerConfig oauth2AccessToken)

end Blocks

/-- The token belongs to the configuration. -/
def tokenAt (sentrypeerConfig : ℕ) : Option CStr → Assertion Block
  | none => configAt sentrypeerConfig none
  | some token => ⋃ p,
      textAt p token + configAt sentrypeerConfig (some p)

theorem tokenAt_intro (sentrypeerConfig p : ℕ) (token : CStr) : textAt p token +
    configAt sentrypeerConfig (some p) ⊆ tokenAt sentrypeerConfig (some token) :=
  Set.subset_iUnion (fun p => textAt p token +
    configAt sentrypeerConfig (some p)) p

section Calls
variable {jansson : Jansson} {curl : Curl} {s : Sender} {P R : Assertion Block} {α γ : Type}
  {T : α → γ → Sender → Assertion Block}

theorem requestsSent_bind {f : ℕ → Program Network α} {w : EStateM Abort Sender γ}
    (rest : Represents (sentBy jansson) s P (f s.requests.length) w T) :
    Represents (sentBy jansson) s P (requestsSent >>= f) w T := by
  unfold requestsSent
  apply Represents.look (a := s.requests.length)
  · simp [sentBy]
  · exact rest

theorem textOf_bind {f : CStr → Program Network α} {w : EStateM Abort Sender γ} {p : ℕ}
    {text : CStr} (has : P = textAt p text + R)
    (rest : Represents (sentBy jansson) s P (f text) w T) :
    Represents (sentBy jansson) s P (loadString p >>= f) w T :=
  Represents.load has rfl rest

theorem setopt_bind {option : CurlOption} {option' : SentryPeer.CurlOption} {easy : ℕ}
    {handle : EasyHandle} {fail rest : Program Network α} {fail' rest' : EStateM Abort Sender γ}
    (same : optionKind option' = option.kind) (has : P = easyAt easy handle + R)
    (fails : Represents (sentBy jansson) s P fail fail' T)
    (succeeds : Represents (sentBy jansson) { s with easy := option'.apply s.easy }
      (easyAt easy (option.apply handle) + R) rest rest' T) :
    Represents (sentBy jansson) s P
      (curlEasySetopt curl easy option >>= fun set => if (!set) = true then fail else rest)
      (SentryPeer.curlEasySetopt curl.onValues option' >>= fun set =>
        if (!set) = true then fail' else rest') T := by
  unfold curlEasySetopt
  rw [bind_assoc]
  apply requestsSent_bind
  cases set : curl.setopt s.requests.length option.kind with
  | false =>
      have ran : SentryPeer.curlEasySetopt curl.onValues option' s = .ok false s := by
        simp [SentryPeer.curlEasySetopt, Curl.onValues, same, set]
      exact Represents.kept ran rfl fails
  | true =>
      have ran : SentryPeer.curlEasySetopt curl.onValues option' s =
          .ok true { s with easy := option'.apply s.easy } := by
        simp [SentryPeer.curlEasySetopt, Curl.onValues, same, set]
      apply Represents.kept ran rfl
      simp only [if_true, bind_assoc, pure_bind]
      apply Represents.load has (rfl : Block.easy? (.easy handle) = some handle)
      apply Represents.steps (Simulates.store (c := ()) has)
      intro _
      exact succeeds

/-! ## A transfer -/

theorem ignoreChunks_spec {handle : EasyHandle} (ignores : handle.writeFunction = .ignoreData)
    (chunks : List (List UInt8)) :
    Simulates P (forM chunks (writeChunk handle)) (pure ()) fun _ _ => P := by
  induction chunks with
  | nil => exact Simulates.pure subset_rfl
  | cons chunk rest ih =>
      rw [List.forM_cons, writeChunk, ignores]
      exact ih

theorem saveJsonResults_spec {chunk memory : ℕ} (bytes json : List UInt8) :
    Simulates (chunkAt chunk memory + (bytesAt memory bytes + R))
      (saveJsonResults chunk json) (pure ())
      fun _ _ => ⋃ memory, chunkAt chunk memory +
        (bytesAt memory (SentryPeer.saveJsonResults bytes json) + R) := by
  unfold saveJsonResults
  apply Simulates.load rfl (rfl : Block.memory? (.memoryStruct memory) = some memory)
  apply Simulates.load (add_left_comm _ _ _) (rfl : Block.bytes? (.buffer bytes) = some bytes)
  apply (Simulates.free (c := ()) (add_left_comm _ _ _) rfl).bindPure
  intro _
  apply (Simulates.malloc _ _ ()).bindPure
  intro ptr
  apply (Simulates.store (add_left_comm _ _ _)).post
  intro _ _
  exact Set.subset_iUnion (fun memory => chunkAt chunk memory +
    (bytesAt memory (SentryPeer.saveJsonResults bytes json) + R)) ptr

/-- The memory grows with each chunk and moves while it grows. -/
theorem saveChunks_spec {handle : EasyHandle} {chunk : ℕ}
    (saves : handle.writeFunction = .saveJsonResults) (data : handle.writeData = some chunk)
    (chunks : List (List UInt8)) (memory : ℕ) (bytes : List UInt8) :
    Simulates (chunkAt chunk memory + (bytesAt memory bytes + R))
      (forM chunks (writeChunk handle)) (pure ())
      fun _ _ => ⋃ memory, chunkAt chunk memory +
        (bytesAt memory (chunks.foldl SentryPeer.saveJsonResults bytes) + R) := by
  induction chunks generalizing memory bytes with
  | nil =>
      apply Simulates.pure
      exact Set.subset_iUnion (fun memory => chunkAt chunk memory +
        (bytesAt memory bytes + R)) memory
  | cons json rest ih =>
      rw [List.forM_cons, writeChunk, saves, data]
      apply (saveJsonResults_spec bytes json).bindPure
      intro _
      exact Simulates.iUnion fun memory => ih memory _

/-- What the handle shows of the headers, if it was given the list. -/
def Linked (list : ℕ) (headers : List CStr) (handle : EasyHandle) (easy : Easy) : Prop :=
  (handle.httpHeader = none ∧ easy.httpHeader = []) ∨
    (handle.httpHeader = some list ∧ easy.httpHeader = headers)

theorem readHeaders_bind {list : ℕ} {headers : List CStr} {handle : EasyHandle}
    (linked : Linked list headers handle s.easy) (has : P = listAt list headers + R)
    {f : List CStr → Program Network α} {w : EStateM Abort Sender γ}
    (rest : Represents (sentBy jansson) s P (f s.easy.httpHeader) w T) :
    Represents (sentBy jansson) s P (readHeaders handle.httpHeader >>= f) w T := by
  rcases linked with ⟨unset, none_⟩ | ⟨set, all⟩
  · rw [none_] at rest
    rw [unset]
    exact rest
  · rw [all] at rest
    rw [set]
    exact Represents.load has rfl rest

/-- A transfer reads the text and the list through the handle, and sends the request. -/
theorem curlEasyPerform_spec {server : ℕ → Transfer} {easy list body : ℕ} {handle : EasyHandle}
    {headers : List CStr} {url : CStr} {json : Json} {P' : Assertion Block}
    (has : P = easyAt easy handle + (listAt list headers +
      (textAt body (jansson.dumps json) + R)))
    (linked : Linked list headers handle s.easy) (hasUrl : handle.url = some url)
    (hasFields : handle.postFields = some body) (valueUrl : s.easy.url = some url)
    (valueFields : s.easy.postFields = some json)
    (writes : Simulates P (forM (server s.requests.length).chunks (writeChunk handle)) (pure ())
      fun _ _ => P') :
    Represents (sentBy jansson) s P (curlEasyPerform server easy)
      (SentryPeer.curlEasyPerform fun n => (server n).reply)
      fun status reply t => ⋃ _ : status = (server s.requests.length).status ∧
        reply = (server s.requests.length).reply ∧
        t = { s with requests := s.requests ++ [⟨url, json, s.easy.httpHeader⟩] }, P' := by
  have ran : SentryPeer.curlEasyPerform (fun n => (server n).reply) s =
      .ok (server s.requests.length).reply
        { s with requests := s.requests ++ [⟨url, json, s.easy.httpHeader⟩] } := by
    simp only [SentryPeer.curlEasyPerform, run_bind, run_get, valueUrl, valueFields, perform]
  unfold curlEasyPerform
  rw [← bind_pure (SentryPeer.curlEasyPerform _)]
  apply Represents.load has (rfl : Block.easy? (.easy handle) = some handle)
  simp only [hasUrl, hasFields]
  have bodyAt : P = textAt body (jansson.dumps json) +
      (easyAt easy handle + (listAt list headers + R)) := by
    rw [has]
    simp only [add_comm, add_left_comm]
  apply textOf_bind bodyAt
  apply readHeaders_bind linked (has.trans (add_left_comm _ _ _))
  apply Represents.outside ran
    (t := { s with requests := s.requests ++ [⟨url, json, s.easy.httpHeader⟩] })
    (a := s.requests.length)
  · simp [sentBy]
  apply Represents.steps writes
  intro _
  exact Represents.pure (subset_given _ ⟨rfl, rfl, rfl⟩)

/-! ## The token -/

theorem freeChunk_spec {chunk memory : ℕ} {bytes : List UInt8} {c : γ} :
    Simulates (chunkAt chunk memory + (bytesAt memory bytes + R))
      (freeChunk memory chunk) (pure c) fun _ _ => R := by
  unfold freeChunk
  apply (Simulates.free (c := ()) (add_left_comm _ _ _) rfl).bindPure
  intro _
  exact Simulates.free rfl rfl

theorem endChunk_spec {chunk memory : ℕ} {bytes : List UInt8} {c : γ} :
    Simulates (chunkAt chunk memory + (bytesAt memory bytes + R))
      (endChunk chunk) (pure c) fun exit _ => ⋃ _ : exit = .failure, R := by
  unfold endChunk chunkMemory
  apply Simulates.load rfl (rfl : Block.memory? (.memoryStruct memory) = some memory)
  apply (freeChunk_spec (c := ())).bindPure
  intro _
  exact Simulates.pure (subset_given _ rfl)

/-- The object of the answer, and its token in the configuration. -/
def savedAt (sentrypeerConfig jsonObj : ℕ) (s t : Sender) (R : Assertion Block) : Assertion Block :=
  ⋃ value, ⋃ _ : t.easy = s.easy ∧ t.requests = s.requests,
    jsonAt jsonObj value + (tokenAt sentrypeerConfig t.token + R)

theorem savedAt_intro {sentrypeerConfig jsonObj p : ℕ} {t : Sender} {value : Json} {token : CStr}
    (same : t.easy = s.easy ∧ t.requests = s.requests) (saved : t.token = some token) :
    configAt sentrypeerConfig (some p) +
        (textAt p token + (jsonAt jsonObj value + R)) ⊆
      savedAt sentrypeerConfig jsonObj s t R := by
  have written : jsonAt jsonObj value + (textAt p token +
      configAt sentrypeerConfig (some p) + R) ⊆
      jsonAt jsonObj value + (tokenAt sentrypeerConfig t.token + R) := by
    rw [saved]
    exact Set.add_subset_add_left
      (Set.add_subset_add_right (tokenAt_intro sentrypeerConfig p token))
  have order : configAt sentrypeerConfig (some p) +
      (textAt p token + (jsonAt jsonObj value + R)) =
      jsonAt jsonObj value + (textAt p token +
        configAt sentrypeerConfig (some p) + R) := by
    simp only [add_comm, add_left_comm]
  rw [order]
  exact written.trans ((subset_given _ same).trans (Set.subset_iUnion
    (fun value => ⋃ _ : t.easy = s.easy ∧ t.requests = s.requests,
      jsonAt jsonObj value + (tokenAt sentrypeerConfig t.token + R)) value))

theorem saveAccessToken_spec {sentrypeerConfig : ℕ} (bytes : List UInt8) :
    Represents (sentBy jansson) s (configAt sentrypeerConfig none + R)
      (saveAccessToken jansson sentrypeerConfig bytes)
      (fromExcept (accessToken jansson bytes) >>= fun token =>
        modify fun s => { s with token := some token })
      fun jsonObj _ t => savedAt sentrypeerConfig jsonObj s t R := by
  unfold saveAccessToken accessToken
  cases jansson.loadb bytes with
  | none => exact Represents.stop rfl fun heap => ⟨heap, rfl⟩
  | some value =>
      dsimp only
      apply Represents.steps (Simulates.malloc _ _ ())
      intro jsonObj
      cases value.get? "access_token" with
      | none => exact Represents.stop rfl fun heap => ⟨heap, rfl⟩
      | some accessToken =>
          dsimp only
          cases jsonStringValue (some accessToken) with
          | none => exact Represents.stop rfl fun heap => ⟨heap, rfl⟩
          | some token =>
              change Represents _ s _ (malloc (Block.string .c token) >>= _)
                (modify fun s => { s with token := some token }) _
              apply Represents.steps (Simulates.malloc _ _ ())
              intro p
              apply Represents.steps (Simulates.store (c := ()) (add_third _ _ _ _))
              intro _
              rw [← bind_pure (modify _)]
              have written : (modify fun s => { s with token := some token } :
                EStateM Abort Sender PUnit) s = .ok ⟨⟩ { s with token := some token } := rfl
              apply Represents.kept written rfl
              exact Represents.pure (savedAt_intro ⟨rfl, rfl⟩ rfl)

theorem saveAccessToken_bind {sentrypeerConfig : ℕ} {bytes : List UInt8} {f : ℕ → Program Network α}
    {w : EStateM Abort Sender γ}
    (rest : ∀ jsonObj value t, t.easy = s.easy → t.requests = s.requests →
      Represents (sentBy jansson) t (jsonAt jsonObj value + (tokenAt sentrypeerConfig t.token + R))
        (f jsonObj) w T) :
    Represents (sentBy jansson) s (configAt sentrypeerConfig none + R)
      (saveAccessToken jansson sentrypeerConfig bytes >>= f)
      (do
        let token ← fromExcept (accessToken jansson bytes)
        modify fun s => { s with token := some token }
        w) T := by
  have regroup : (do
      let token ← fromExcept (accessToken jansson bytes)
      modify fun s => { s with token := some token }
      w : EStateM Abort Sender γ) = (do
        let token ← fromExcept (accessToken jansson bytes)
        modify fun s => { s with token := some token }) >>= fun _ => w :=
    (bind_assoc _ _ _).symm
  rw [regroup]
  apply (saveAccessToken_spec bytes).bind
  intro jsonObj _ t
  apply Represents.iUnion
  intro value
  apply Represents.iUnion
  intro same
  exact rest jsonObj value t same.1 same.2

/-- What stays of the handle while its other pointers come and go. -/
structure Requested (s t : Sender) (handle handle' : EasyHandle) : Prop where
  list : handle'.httpHeader = handle.httpHeader
  headers : t.easy.httpHeader = s.easy.httpHeader
  sent : s.requests.length ≤ t.requests.length

def requestedAt (easy : ℕ) (s t : Sender) (handle : EasyHandle) : Assertion Block :=
  ⋃ handle', ⋃ _ : Requested s t handle handle', easyAt easy handle'

theorem requestedAt_intro {easy : ℕ} {t : Sender} {handle handle' : EasyHandle}
    (requested : Requested s t handle handle') :
    easyAt easy handle' ⊆ requestedAt easy s t handle :=
  (subset_given _ requested).trans (Set.subset_iUnion
    (fun handle' => ⋃ _ : Requested s t handle handle', easyAt easy handle') handle')

theorem requestedAt_done {sentrypeerConfig easy list : ℕ} {t : Sender} {handle handle' : EasyHandle}
    {headers : List CStr} {token : Option CStr} (requested : Requested s t handle handle')
    (exit : Exit) (has : t.token = token) :
    easyAt easy handle' + (listAt list headers + tokenAt sentrypeerConfig token) ⊆
      ⋃ _ : exit = exit, requestedAt easy s t handle +
        (listAt list headers + tokenAt sentrypeerConfig t.token) := by
  rw [has]
  exact (Set.add_subset_add_right (requestedAt_intro requested)).trans (subset_given _ rfl)

theorem transferToken_spec {server : ℕ → Transfer} {sentrypeerConfig easy list jsonString chunk
      memory : ℕ} {handle : EasyHandle} {headers : List CStr} {url : CStr} {creds : Json}
    (hasUrl : handle.url = some url) (hasFields : handle.postFields = some jsonString)
    (saves : handle.writeFunction = .saveJsonResults) (data : handle.writeData = some chunk)
    (valueUrl : s.easy.url = some url) (valueFields : s.easy.postFields = some creds)
    (linked : Linked list headers handle s.easy) (noToken : s.token = none)
    {ended : Reply → EStateM Abort Sender Exit} (fails : ended .transportFailure = pure .failure)
    (answers : ∀ status body, ended (.response status body) = do
      let token ← fromExcept (accessToken jansson body)
      modify fun s => { s with token := some token }
      return .success) :
    Represents (sentBy jansson) s (easyAt easy handle +
        (textAt jsonString (jansson.dumps creds) +
          (chunkAt chunk memory + (bytesAt memory [] +
            (listAt list headers + tokenAt sentrypeerConfig none)))))
      (transferToken jansson server sentrypeerConfig easy jsonString chunk)
      ((SentryPeer.curlEasyPerform fun n => (server n).reply) >>= ended)
      fun exit exit' t => ⋃ _ : exit = exit', requestedAt easy s t handle +
        (listAt list headers + tokenAt sentrypeerConfig t.token) := by
  have writes : Simulates (chunkAt chunk memory + (bytesAt memory [] +
      (textAt jsonString (jansson.dumps creds) + (easyAt easy handle +
        (listAt list headers + tokenAt sentrypeerConfig none)))))
      (forM (server s.requests.length).chunks (writeChunk handle)) (pure ())
      fun _ _ => ⋃ memory, chunkAt chunk memory +
        (bytesAt memory (savedResults (server s.requests.length).chunks) +
          (textAt jsonString (jansson.dumps creds) + (easyAt easy handle +
            (listAt list headers + tokenAt sentrypeerConfig none)))) :=
    saveChunks_spec saves data (server s.requests.length).chunks memory []
  have order : easyAt easy handle +
      (textAt jsonString (jansson.dumps creds) +
        (chunkAt chunk memory + (bytesAt memory [] +
          (listAt list headers + tokenAt sentrypeerConfig none)))) =
      chunkAt chunk memory + (bytesAt memory [] +
        (textAt jsonString (jansson.dumps creds) + (easyAt easy handle +
          (listAt list headers + tokenAt sentrypeerConfig none)))) := by
    simp only [add_comm, add_left_comm]
  have has : chunkAt chunk memory + (bytesAt memory [] +
      (textAt jsonString (jansson.dumps creds) + (easyAt easy handle +
        (listAt list headers + tokenAt sentrypeerConfig none)))) =
      easyAt easy handle + (listAt list headers +
        (textAt jsonString (jansson.dumps creds) +
          (chunkAt chunk memory + (bytesAt memory [] +
            tokenAt sentrypeerConfig none)))) := by
    simp only [add_comm, add_left_comm]
  unfold transferToken
  rw [order]
  apply (curlEasyPerform_spec has linked hasUrl hasFields valueUrl valueFields writes).bind
  intro status reply t
  apply Represents.iUnion
  rintro ⟨rfl, rfl, rfl⟩
  apply Represents.iUnion
  intro memory
  unfold Transfer.reply
  generalize savedResults (server s.requests.length).chunks = body
  cases (server s.requests.length).status with
  | none =>
      dsimp only
      rw [fails]
      apply Represents.steps (Simulates.free (c := ()) (add_third _ _ _ _) rfl)
      intro _
      apply Represents.last (endChunk_spec (c := ()))
      intro exit
      apply Set.iUnion_subset
      rintro rfl
      have requested : Requested s
          { s with requests := s.requests ++ [⟨url, creds, s.easy.httpHeader⟩] } handle handle :=
        ⟨rfl, rfl, by simp⟩
      exact requestedAt_done requested .failure noToken
  | some status =>
      dsimp only
      rw [answers]
      have tokenFirst : chunkAt chunk memory + (bytesAt memory body +
          (textAt jsonString (jansson.dumps creds) + (easyAt easy handle +
            (listAt list headers + tokenAt sentrypeerConfig none)))) =
          configAt sentrypeerConfig none + (chunkAt chunk memory + (bytesAt memory body +
            (textAt jsonString (jansson.dumps creds) + (easyAt easy handle +
              listAt list headers)))) := by
        simp only [tokenAt, add_comm, add_left_comm]
      apply Represents.load rfl (rfl : Block.memory? (.memoryStruct memory) = some memory)
      apply Represents.load (add_left_comm _ _ _) (rfl : Block.bytes? (.buffer body) = some body)
      rw [tokenFirst]
      apply saveAccessToken_bind
      intro jsonObj value t sameEasy sameRequests
      apply Represents.steps (Simulates.free (c := ()) rfl rfl)
      intro _
      have chunkFirst : tokenAt sentrypeerConfig t.token + (chunkAt chunk memory +
          (bytesAt memory body + (textAt jsonString (jansson.dumps creds) + (easyAt easy handle +
            listAt list headers)))) =
          chunkAt chunk memory + (bytesAt memory body + (textAt jsonString (jansson.dumps creds) +
            (easyAt easy handle + (listAt list headers + tokenAt sentrypeerConfig t.token)))) := by
        simp only [add_comm, add_left_comm]
      rw [chunkFirst]
      apply Represents.steps (freeChunk_spec (c := ()))
      intro _
      apply Represents.steps (Simulates.free (c := ()) rfl rfl)
      intro _
      have requested : Requested s t handle handle :=
        ⟨rfl, by rw [sameEasy], by rw [sameRequests]; simp⟩
      exact Represents.pure (requestedAt_done requested .success rfl)

theorem requestOauth2BearerToken_spec {server : ℕ → Transfer} (config : Config)
    {sentrypeerConfig easy list : ℕ} {handle : EasyHandle} {headers : List CStr}
    (linked : Linked list headers handle s.easy) (noToken : s.token = none) :
    Represents (sentBy jansson) s (easyAt easy handle +
        (listAt list headers + tokenAt sentrypeerConfig none))
      (requestOauth2BearerToken jansson curl server config sentrypeerConfig easy)
      (SentryPeer.requestOauth2BearerToken jansson curl.onValues (fun n => (server n).reply) config)
      fun exit exit' t => ⋃ _ : exit = exit', requestedAt easy s t handle +
        (listAt list headers + tokenAt sentrypeerConfig t.token) := by
  unfold requestOauth2BearerToken SentryPeer.requestOauth2BearerToken
  apply Represents.steps (Simulates.malloc _ _ ())
  intro memory
  apply Represents.steps (Simulates.malloc _ _ ())
  intro chunk
  have front (handle' : EasyHandle) : chunkAt chunk memory +
      (bytesAt memory [] + (easyAt easy handle' +
        (listAt list headers + tokenAt sentrypeerConfig none))) =
      easyAt easy handle' + (chunkAt chunk memory +
        (bytesAt memory [] + (listAt list headers +
          tokenAt sentrypeerConfig none))) := by
    simp only [add_comm, add_left_comm]
  -- every failure before the transfer
  have ends {t : Sender} {handle' : EasyHandle} (token : t.token = none)
      (requested : Requested s t handle handle') :
      Represents (sentBy jansson) t (easyAt easy handle' +
        (chunkAt chunk memory + (bytesAt memory [] +
          (listAt list headers + tokenAt sentrypeerConfig none))))
        (endChunk chunk) (pure Exit.failure)
        fun exit exit' t => ⋃ _ : exit = exit', requestedAt easy s t handle +
          (listAt list headers + tokenAt sentrypeerConfig t.token) := by
    rw [← front]
    apply Represents.last (endChunk_spec (c := ()))
    intro exit
    apply Set.iUnion_subset
    rintro rfl
    exact requestedAt_done requested .failure token
  rw [front]
  apply setopt_bind rfl rfl
  · exact ends noToken ⟨rfl, rfl, le_refl _⟩
  apply setopt_bind rfl rfl
  · exact ends noToken ⟨rfl, rfl, le_refl _⟩
  apply setopt_bind rfl rfl
  · exact ends noToken ⟨rfl, rfl, le_refl _⟩
  cases clientCredsJson config with
  | none => exact ends noToken ⟨rfl, rfl, le_refl _⟩
  | some creds =>
      dsimp only
      apply Represents.steps (Simulates.malloc _ _ ())
      intro jsonClientCreds
      apply Represents.steps (Simulates.malloc _ _ ())
      intro jsonString
      apply Represents.steps (Simulates.free (c := ()) (add_left_comm _ _ _) rfl)
      intro _
      apply setopt_bind rfl (add_left_comm _ _ _)
      · apply Represents.steps (Simulates.free (c := ()) rfl rfl)
        intro _
        exact ends noToken ⟨rfl, rfl, le_refl _⟩
      apply Represents.post
      · apply transferToken_spec
        · rfl
        · rfl
        · rfl
        · rfl
        · rfl
        · rfl
        · exact linked
        · exact noToken
        · rfl
        · exact fun _ _ => rfl
      intro exit exit' t
      apply Set.iUnion_mono
      intro _
      apply Set.add_subset_add_right
      apply Set.iUnion_mono
      intro handle'
      exact Set.iUnion_mono' fun asked => ⟨⟨asked.list, asked.headers, asked.sent⟩, subset_rfl⟩

theorem loadToken_bind {sentrypeerConfig : ℕ} {token : Option CStr}
    {f : Option ℕ → Program Network α} {w : EStateM Abort Sender γ}
    (has : P = tokenAt sentrypeerConfig token + R)
    (unset : token = none → Represents (sentBy jansson) s P (f none) w T)
    (set : ∀ p text, token = some text →
      textAt p text + (configAt sentrypeerConfig (some p) + R) ⊆ P →
      Represents (sentBy jansson) s (textAt p text + (configAt sentrypeerConfig (some p) + R))
        (f (some p)) w T) :
    Represents (sentBy jansson) s P (load Block.token? sentrypeerConfig >>= f) w T := by
  cases token with
  | none =>
      apply Represents.load has (rfl : Block.token? (.sentrypeerConfig none) = some none)
      exact unset rfl
  | some text =>
      have cases_ : P = ⋃ p, textAt p text + (configAt sentrypeerConfig (some p) + R) := by
        simp only [has, tokenAt, Set.iUnion_add, add_assoc]
      rw [cases_] at set ⊢
      apply Represents.iUnion
      intro p
      apply Represents.load (add_left_comm _ _ _)
        (rfl : Block.token? (.sentrypeerConfig (some p)) = some (some p))
      exact set p text rfl (Set.subset_iUnion
        (fun p => textAt p text + (configAt sentrypeerConfig (some p) + R)) p)

theorem readToken_bind {sentrypeerConfig : ℕ} {token : Option CStr} {f : CStr → Program Network α}
    {w : EStateM Abort Sender γ} (has : P = tokenAt sentrypeerConfig token + R)
    (rest : Represents (sentBy jansson) s P (f (token.getD (.lit "(null)"))) w T) :
    Represents (sentBy jansson) s P (readToken sentrypeerConfig >>= f) w T := by
  unfold readToken
  rw [bind_assoc]
  apply loadToken_bind has
  · intro unset
    rw [unset] at rest
    exact rest
  · intro p text set part
    rw [set] at rest
    apply textOf_bind rfl
    exact rest.imp part fun _ _ _ => subset_rfl

/-- The handle and the list before the event is posted, with the header texts that were lost. -/
structure Prepared (list : ℕ) (exit : Exit) (s t : Sender) (headers : List CStr)
    (handle : EasyHandle) : Prop where
  linked : exit = .success → Linked list headers handle t.easy
  sent : s.requests.length ≤ t.requests.length

def preparedAt (easy list sentrypeerConfig : ℕ) (exit : Exit) (lost : ℕ → Prop) (s t : Sender) :
    Assertion Block :=
  ⋃ n, ⋃ handle, ⋃ headers, ⋃ _ : lost n ∧ Prepared list exit s t headers handle,
    easyAt easy handle + (listAt list headers + (tokenAt sentrypeerConfig t.token + blocks n))

theorem prepared_pure {easy list sentrypeerConfig n : ℕ} {exit : Exit} {lost : Exit → ℕ → Prop}
    {t : Sender} {headers : List CStr} {handle : EasyHandle}
    (has : P ⊆ easyAt easy handle +
      (listAt list headers + (tokenAt sentrypeerConfig t.token + blocks n)))
    (loses : lost exit n) (prepared : Prepared list exit s t headers handle) :
    Represents (sentBy jansson) t P (pure exit : Program Network Exit)
      (pure exit : EStateM Abort Sender Exit) fun exit exit' t => ⋃ _ : exit = exit',
        preparedAt easy list sentrypeerConfig exit (lost exit) s t := by
  apply Represents.pure
  intro owned member
  simp only [preparedAt, Set.mem_iUnion]
  exact ⟨trivial, n, handle, headers, ⟨loses, prepared⟩, has member⟩

theorem nothing_lost {easy list : ℕ} {handle : EasyHandle} {headers : List CStr}
    (R : Assertion Block) : easyAt easy handle + (listAt list headers + R) ⊆
      easyAt easy handle + (listAt list headers + (R + blocks 0)) := by
  rw [blocks_zero, add_zero]

/-- The duplicate of the header is lost. -/
def headerLost (exit : Exit) (n : ℕ) : Prop := n ≤ 1 ∧ (exit = .success → n = 1)

theorem curlSlistAppend_spec {list p : ℕ} {headers : List CStr} {text : CStr}
    (has : P = listAt list headers + (textAt p text + R)) :
    Simulates P (curlSlistAppend list p) (pure () : EStateM Abort Network Unit)
      fun _ _ => listAt list (headers ++ [text]) + (textAt p text + R) := by
  unfold curlSlistAppend
  apply Simulates.load has (rfl : Block.slist? (.slist headers) = some headers)
  apply Simulates.load (has.trans (add_left_comm _ _ _))
    (rfl : Block.text? (.string .c text) = some text)
  exact Simulates.store has

theorem pointsTo_subset_blocks (p : ℕ) (block : Block) : pointsTo p block ⊆ blocks 1 := by
  have left := pointsTo_add_blocks p block 0
  rwa [blocks_zero, add_zero] at left

theorem setOauth2BearerTokenHeader_spec {sentrypeerConfig easy list : ℕ} (handle : EasyHandle)
    (headers : List CStr) :
    Represents (sentBy jansson) s
      (easyAt easy handle + (listAt list headers + tokenAt sentrypeerConfig s.token))
      (setOauth2BearerTokenHeader curl sentrypeerConfig easy list)
      (SentryPeer.setOauth2BearerTokenHeader curl.onValues headers)
      fun exit exit' t => ⋃ _ : exit = exit',
        preparedAt easy list sentrypeerConfig exit (headerLost exit) s t := by
  unfold setOauth2BearerTokenHeader SentryPeer.setOauth2BearerTokenHeader
  have got : (get : EStateM Abort Sender Sender) s = .ok s s := rfl
  apply Represents.kept got rfl
  apply Represents.steps (Simulates.malloc _ _ ())
  intro oauth2BearerHeader
  have tokenFirst : bytesAt oauth2BearerHeader [] + (easyAt easy handle + (listAt list headers +
      tokenAt sentrypeerConfig s.token)) = tokenAt sentrypeerConfig s.token +
        (bytesAt oauth2BearerHeader [] + (easyAt easy handle + listAt list headers)) := by
    simp only [add_comm, add_left_comm]
  apply readToken_bind tokenFirst
  apply requestsSent_bind
  rw [onValues_snprintf]
  generalize bearerHeader (s.token.getD (.lit "(null)")) = header
  cases curl.snprintf s.requests.length with
  | false =>
      simp only [Bool.not_false, if_true]
      apply Represents.steps (Simulates.free (c := ()) rfl rfl)
      intro _
      exact prepared_pure (nothing_lost _) ⟨Nat.zero_le 1, by simp⟩
        (⟨by simp, le_refl _⟩ : Prepared list .failure s s headers handle)
  | true =>
      simp only [Bool.not_true, Bool.false_eq_true, if_false]
      apply Represents.steps (Simulates.store (c := ()) rfl)
      intro _
      unfold utilDuplicateString
      rw [bind_assoc]
      apply textOf_bind rfl
      apply Represents.steps (Simulates.malloc _ _ ())
      intro copy
      have listFirst : textAt copy header + (textAt oauth2BearerHeader header +
          (easyAt easy handle + (listAt list headers + tokenAt sentrypeerConfig s.token))) =
          listAt list headers + (textAt copy header + (textAt oauth2BearerHeader header +
            (easyAt easy handle + tokenAt sentrypeerConfig s.token))) := by
        simp only [add_comm, add_left_comm]
      apply Represents.steps (curlSlistAppend_spec listFirst)
      intro _
      have easyFirst : listAt list (headers ++ [header]) + (textAt copy header +
          (textAt oauth2BearerHeader header + (easyAt easy handle +
            tokenAt sentrypeerConfig s.token))) =
          easyAt easy handle + (textAt oauth2BearerHeader header +
            (listAt list (headers ++ [header]) + (tokenAt sentrypeerConfig s.token +
              textAt copy header))) := by
        simp only [add_comm, add_left_comm]
      have lost (handle : EasyHandle) : easyAt easy handle + (listAt list (headers ++ [header]) +
          (tokenAt sentrypeerConfig s.token + textAt copy header)) ⊆ easyAt easy handle +
          (listAt list (headers ++ [header]) + (tokenAt sentrypeerConfig s.token + blocks 1)) :=
        Set.add_subset_add_left (Set.add_subset_add_left (Set.add_subset_add_left
          (pointsTo_subset_blocks copy _)))
      rw [easyFirst]
      apply setopt_bind rfl rfl
      · apply Represents.steps (Simulates.free (c := ()) (add_left_comm _ _ _) rfl)
        intro _
        exact prepared_pure (lost handle) ⟨le_refl 1, by simp⟩ ⟨by simp, le_refl _⟩
      apply Represents.steps (Simulates.free (c := ()) (add_left_comm _ _ _) rfl)
      intro _
      exact prepared_pure (lost _) ⟨le_refl 1, by simp⟩ ⟨fun _ => .inr ⟨rfl, rfl⟩, le_refl _⟩

theorem preparedAt_sent {easy list sentrypeerConfig : ℕ} {exit : Exit} {lost : ℕ → Prop}
    {t u : Sender} (sent : s.requests.length ≤ t.requests.length) :
    preparedAt easy list sentrypeerConfig exit lost t u ⊆
      preparedAt easy list sentrypeerConfig exit lost s u := by
  intro owned member
  simp only [preparedAt, Set.mem_iUnion] at member ⊢
  obtain ⟨n, handle, headers, ⟨loses, prepared⟩, member⟩ := member
  exact ⟨n, handle, headers, ⟨loses, prepared.linked, sent.trans prepared.sent⟩, member⟩

theorem getAndSetOauth2BearerToken_spec {server : ℕ → Transfer} (config : Config)
    {sentrypeerConfig easy list : ℕ} {handle : EasyHandle} {headers : List CStr}
    (linked : Linked list headers handle s.easy) (noToken : s.token = none) :
    Represents (sentBy jansson) s
      (easyAt easy handle + (listAt list headers + tokenAt sentrypeerConfig none))
      (getAndSetOauth2BearerToken jansson curl server config sentrypeerConfig easy list)
      (SentryPeer.getAndSetOauth2BearerToken jansson curl.onValues (fun n => (server n).reply)
        config headers)
      fun exit exit' t => ⋃ _ : exit = exit',
        preparedAt easy list sentrypeerConfig exit (headerLost exit) s t := by
  unfold getAndSetOauth2BearerToken SentryPeer.getAndSetOauth2BearerToken
  apply (requestOauth2BearerToken_spec config linked noToken).bind
  intro exit _ t
  apply Represents.iUnion
  rintro rfl
  unfold requestedAt
  simp only [Set.iUnion_add]
  apply Represents.iUnion
  intro handle'
  apply Represents.iUnion
  intro requested
  cases exit with
  | failure =>
      exact prepared_pure (nothing_lost _) ⟨Nat.zero_le 1, by simp⟩
        (⟨by simp, requested.sent⟩ : Prepared list .failure s t headers handle')
  | success =>
      apply (setOauth2BearerTokenHeader_spec handle' headers).bind
      intro exit _ u
      apply Represents.iUnion
      rintro rfl
      cases exit with
      | failure =>
          apply Represents.pure
          exact (preparedAt_sent requested.sent).trans (subset_given _ rfl)
      | success =>
          apply Represents.pure
          exact (preparedAt_sent requested.sent).trans (subset_given _ rfl)

/-- Without OAuth2 there is no header to lose. -/
def prepareLost (config : Config) (exit : Exit) (n : ℕ) : Prop :=
  if config.oauth2Mode then headerLost exit n else n = 0

theorem prepareOauth2_spec {server : ℕ → Transfer} (config : Config)
    {sentrypeerConfig easy list : ℕ} {handle : EasyHandle}
    (linked : Linked list [contentType] handle s.easy) :
    Represents (sentBy jansson) s
      (easyAt easy handle + (listAt list [contentType] + tokenAt sentrypeerConfig s.token))
      (prepareOauth2 jansson curl server config sentrypeerConfig easy list)
      (SentryPeer.prepareOauth2 jansson curl.onValues (fun n => (server n).reply) config)
      fun exit exit' t => ⋃ _ : exit = exit',
        preparedAt easy list sentrypeerConfig exit (prepareLost config exit) s t := by
  unfold prepareOauth2 SentryPeer.prepareOauth2
  cases mode : config.oauth2Mode with
  | false =>
      have nothing : prepareLost config .success 0 := by
        simp [prepareLost, mode]
      exact prepared_pure (nothing_lost _) nothing ⟨fun _ => linked, le_refl _⟩
  | true =>
      simp only [Bool.not_true, Bool.false_eq_true, if_false]
      have got : (get : EStateM Abort Sender Sender) s = .ok s s := rfl
      apply Represents.kept got rfl
      have lost : prepareLost config = headerLost := by
        funext exit n
        simp [prepareLost, mode]
      rw [lost]
      have tokenFirst : easyAt easy handle + (listAt list [contentType] +
          tokenAt sentrypeerConfig s.token) = tokenAt sentrypeerConfig s.token +
            (easyAt easy handle + listAt list [contentType]) := by
        simp only [add_comm, add_left_comm]
      apply loadToken_bind tokenFirst
      · intro unset
        simp only [unset, Option.isSome_none, Bool.false_eq_true, if_false]
        apply setopt_bind rfl rfl
        · apply prepared_pure _ ⟨Nat.zero_le 1, by simp⟩
            (⟨by simp, le_refl _⟩ : Prepared list .failure s s [contentType] handle)
          rw [unset]
          exact nothing_lost _
        apply Represents.post
        · exact getAndSetOauth2BearerToken_spec config (.inr ⟨rfl, rfl⟩) unset
        intro exit exit' t
        apply Set.iUnion_mono
        intro _
        exact preparedAt_sent (le_refl s.requests.length)
      · intro p text set part
        simp only [set, Option.isSome_some, if_true]
        exact (setOauth2BearerTokenHeader_spec handle [contentType]).imp part
          fun _ _ _ => subset_rfl

/-! ## The event -/

theorem freeToken_bind {sentrypeerConfig : ℕ} {token : Option CStr} {f : Unit → Program Network α}
    {w : EStateM Abort Sender γ} (has : P = tokenAt sentrypeerConfig token + R)
    (rest : Represents (sentBy jansson) s (tokenAt sentrypeerConfig none + R) (f ()) w T) :
    Represents (sentBy jansson) s P (freeOauth2AccessToken sentrypeerConfig >>= f) w T := by
  unfold freeOauth2AccessToken
  rw [bind_assoc]
  apply loadToken_bind has
  · intro unset
    rw [has, unset]
    exact rest
  · intro p text _ _
    simp only [bind_assoc]
    apply Represents.steps (Simulates.free (c := ()) rfl rfl)
    intro _
    apply Represents.steps (Simulates.store (c := ()) rfl)
    intro _
    exact rest

def PassEnd.exit : PassEnd → Option Exit
  | .done exit => some exit
  | .retry _ _ _ => none

/-- What a call of itself leaves behind it. -/
def pendingAt : PassEnd → Assertion Block
  | .done _ => 0
  | .retry jsonString easy list => ⋃ text, ⋃ handle, ⋃ headers,
      textAt jsonString text + (easyAt easy handle + listAt list headers)

theorem pendingAt_intro (jsonString easy list : ℕ) {text : CStr} {handle : EasyHandle}
    {headers : List CStr} : textAt jsonString text + (easyAt easy handle + listAt list headers) ⊆
      pendingAt (.retry jsonString easy list) := by
  intro owned member
  simp only [pendingAt, Set.mem_iUnion]
  exact ⟨text, handle, headers, member⟩

theorem cleanup_spec {jsonString easy list : ℕ} {text : CStr} {handle : EasyHandle}
    {headers : List CStr} (a : α) {c : γ} :
    Simulates (textAt jsonString text + (easyAt easy handle + (listAt list headers + R)))
      (do
        cFree jsonString
        httpCleanupCurl easy list
        return a)
      (pure c : EStateM Abort Network γ) fun b _ => ⋃ _ : b = a, R := by
  apply (Simulates.free (c := ()) rfl rfl).bindPure
  intro _
  unfold httpCleanupCurl
  rw [bind_assoc]
  apply (Simulates.free (c := ()) rfl rfl).bindPure
  intro _
  apply (Simulates.free (c := ()) rfl rfl).bindPure
  intro _
  exact Simulates.pure (subset_given _ rfl)

/-- How many of the first requests were answered 401 or 403. -/
def refusals (server : ℕ → Transfer) (requests : ℕ) : ℕ :=
  requests.count fun n => (server n).status = some 401 ∨ (server n).status = some 403

theorem refusals_mono (server : ℕ → Transfer) {m n : ℕ} (le : m ≤ n) :
    refusals server m ≤ refusals server n :=
  Nat.count_monotone _ le

theorem refusals_lt {server : ℕ → Transfer} {n : ℕ}
    (refused : (server n).status = some 401 ∨ (server n).status = some 403) :
    refusals server n < refusals server (n + 1) := by
  unfold refusals
  rw [Nat.count_succ, if_pos refused]
  exact Nat.lt_succ_self _

/-- A pass that ends with a call of itself had its last request refused. -/
structure Ended (config : Config) (server : ℕ → Transfer) (passEnd : PassEnd) (exit : Option Exit)
    (s t : Sender) : Prop where
  same : passEnd.exit = exit
  sent : s.requests.length ≤ t.requests.length
  refused : exit = none → config.oauth2Mode = true ∧
    refusals server s.requests.length < refusals server t.requests.length

theorem cleanup_ends {server : ℕ → Transfer} {config : Config} {sentrypeerConfig jsonString easy
      list : ℕ} {handle : EasyHandle} {headers : List CStr} {text : CStr} {t : Sender} (exit : Exit)
    (sent : s.requests.length ≤ t.requests.length) :
    Represents (sentBy jansson) t (easyAt easy handle + (textAt jsonString text +
        (listAt list headers + tokenAt sentrypeerConfig t.token)))
      (do
        cFree jsonString
        httpCleanupCurl easy list
        return PassEnd.done exit)
      (pure (some exit))
      fun passEnd exit t => ⋃ _ : Ended config server passEnd exit s t,
        pendingAt passEnd + tokenAt sentrypeerConfig t.token := by
  rw [add_left_comm]
  apply Represents.last (cleanup_spec (PassEnd.done exit) (c := ()))
  intro passEnd owned member
  simp only [Set.mem_iUnion] at member ⊢
  obtain ⟨rfl, member⟩ := member
  refine ⟨⟨rfl, sent, by simp⟩, ?_⟩
  rw [pendingAt, zero_add]
  exact member

theorem transferEvent_spec {server : ℕ → Transfer} (config : Config)
    {sentrypeerConfig jsonString easy list : ℕ} {handle : EasyHandle} {headers : List CStr}
    {url : CStr} {json : Json} (hasUrl : handle.url = some url)
    (hasFields : handle.postFields = some jsonString) (ignores : handle.writeFunction = .ignoreData)
    (valueUrl : s.easy.url = some url) (valueFields : s.easy.postFields = some json)
    (linked : Linked list headers handle s.easy)
    {ended : Reply → EStateM Abort Sender (Option Exit)}
    (fails : ended .transportFailure = pure (some .failure))
    (answers : ∀ status body, ended (.response status body) =
      if status = 200 ∨ status = 201 then pure (some .success)
      else if config.oauth2Mode ∧ (status = 401 ∨ status = 403) then do
        modify fun s => { s with token := none }
        return none
      else pure (some .failure)) :
    Represents (sentBy jansson) s (easyAt easy handle + (textAt jsonString (jansson.dumps json) +
        (listAt list headers + tokenAt sentrypeerConfig s.token)))
      (transferEvent server config sentrypeerConfig jsonString easy list)
      ((SentryPeer.curlEasyPerform fun n => (server n).reply) >>= ended)
      fun passEnd exit t => ⋃ _ : Ended config server passEnd exit s t,
        pendingAt passEnd + tokenAt sentrypeerConfig t.token := by
  have listSecond : easyAt easy handle + (textAt jsonString (jansson.dumps json) +
      (listAt list headers + tokenAt sentrypeerConfig s.token)) =
      easyAt easy handle + (listAt list headers + (textAt jsonString (jansson.dumps json) +
        tokenAt sentrypeerConfig s.token)) := by
    rw [add_left_comm (textAt _ _)]
  unfold transferEvent
  apply (curlEasyPerform_spec listSecond linked hasUrl hasFields valueUrl valueFields
    (ignoreChunks_spec ignores _)).bind
  intro status reply t
  apply Represents.iUnion
  rintro ⟨rfl, rfl, rfl⟩
  unfold Transfer.reply
  cases answered : (server s.requests.length).status with
  | none =>
      dsimp only
      rw [fails]
      exact cleanup_ends .failure (by simp)
  | some status =>
      dsimp only
      rw [answers]
      by_cases accepted : status = 200 ∨ status = 201
      · rw [if_pos accepted, if_pos accepted]
        exact cleanup_ends .success (by simp)
      rw [if_neg accepted, if_neg accepted]
      by_cases refused : config.oauth2Mode = true ∧ (status = 401 ∨ status = 403)
      · rw [if_pos refused, if_pos refused]
        have tokenFirst : easyAt easy handle + (textAt jsonString (jansson.dumps json) +
            (listAt list headers + tokenAt sentrypeerConfig s.token)) =
            tokenAt sentrypeerConfig s.token + (textAt jsonString (jansson.dumps json) +
              (easyAt easy handle + listAt list headers)) := by
          simp only [add_comm, add_left_comm]
        apply freeToken_bind tokenFirst
        have dropped (t : Sender) : (modify fun s => { s with token := none } :
            EStateM Abort Sender PUnit) t = .ok ⟨⟩ { t with token := none } := rfl
        apply Represents.kept (dropped _) rfl
        apply Represents.pure
        rw [add_comm]
        intro owned member
        simp only [Set.mem_iUnion]
        refine ⟨⟨rfl, by simp, fun _ => ⟨refused.1, ?_⟩⟩, Set.add_subset_add_right
          (pendingAt_intro jsonString easy list) member⟩
        rw [List.length_append, List.length_singleton]
        exact refusals_lt (by simpa [answered] using refused.2)
      rw [if_neg refused, if_neg refused]
      exact cleanup_ends .failure (by simp)

theorem postEvent_spec {server : ℕ → Transfer} (config : Config)
    {sentrypeerConfig jsonString easy list : ℕ} {handle : EasyHandle} {headers : List CStr}
    {json : Json} (linked : Linked list headers handle s.easy) :
    Represents (sentBy jansson) s (easyAt easy handle + (textAt jsonString (jansson.dumps json) +
        (listAt list headers + tokenAt sentrypeerConfig s.token)))
      (postEvent curl server config sentrypeerConfig jsonString easy list)
      (SentryPeer.postEvent curl.onValues (fun n => (server n).reply) config json)
      fun passEnd exit t => ⋃ _ : Ended config server passEnd exit s t,
        pendingAt passEnd + tokenAt sentrypeerConfig t.token := by
  unfold postEvent SentryPeer.postEvent giveUp
  apply setopt_bind rfl rfl
  · exact cleanup_ends .failure (le_refl _)
  apply setopt_bind rfl rfl
  · exact cleanup_ends .failure (le_refl s.requests.length)
  apply setopt_bind rfl rfl
  · exact cleanup_ends .failure (le_refl s.requests.length)
  apply setopt_bind rfl rfl
  · exact cleanup_ends .failure (le_refl s.requests.length)
  apply Represents.post
  · apply transferEvent_spec
    · rfl
    · rfl
    · rfl
    · rfl
    · rfl
    · exact linked
    · rfl
    · exact fun _ _ => rfl
  intro passEnd exit t
  exact Set.iUnion_mono' fun ended => ⟨⟨ended.same, ended.sent, ended.refused⟩, subset_rfl⟩

/-- What a pass has lost: nothing without OAuth2, otherwise the duplicate of its header. -/
def passLost (config : Config) (exit : Option Exit) (n : ℕ) : Prop :=
  if config.oauth2Mode then n ≤ 1 ∧ (exit ≠ some .failure → n = 1) else n = 0

def passedAt (config : Config) (server : ℕ → Transfer) (sentrypeerConfig : ℕ) (passEnd : PassEnd)
    (exit : Option Exit) (s t : Sender) : Assertion Block :=
  ⋃ n, ⋃ _ : Ended config server passEnd exit s t ∧ passLost config exit n,
    pendingAt passEnd + (tokenAt sentrypeerConfig t.token + blocks n)

theorem Ended.after {config : Config} {server : ℕ → Transfer} {passEnd : PassEnd}
    {exit : Option Exit} {t u : Sender} (sent : s.requests.length ≤ t.requests.length)
    (ended : Ended config server passEnd exit t u) : Ended config server passEnd exit s u where
  same := ended.same
  sent := sent.trans ended.sent
  refused none_ := ⟨(ended.refused none_).1,
    (refusals_mono server sent).trans_lt (ended.refused none_).2⟩

theorem passedAt_intro {config : Config} {server : ℕ → Transfer} (sentrypeerConfig : ℕ) {n : ℕ}
    {passEnd : PassEnd} {exit : Option Exit} {t : Sender}
    (ended : Ended config server passEnd exit s t) (loses : passLost config exit n) :
    pendingAt passEnd + (tokenAt sentrypeerConfig t.token + blocks n) ⊆
      passedAt config server sentrypeerConfig passEnd exit s t := by
  intro owned member
  simp only [passedAt, Set.mem_iUnion]
  exact ⟨n, ⟨ended, loses⟩, member⟩

theorem passedAt_sent {config : Config} {server : ℕ → Transfer} {sentrypeerConfig : ℕ}
    {passEnd : PassEnd} {exit : Option Exit} {t u : Sender}
    (sent : s.requests.length ≤ t.requests.length) :
    passedAt config server sentrypeerConfig passEnd exit t u ⊆
      passedAt config server sentrypeerConfig passEnd exit s u := by
  intro owned member
  simp only [passedAt, Set.mem_iUnion] at member ⊢
  obtain ⟨n, ⟨ended, loses⟩, member⟩ := member
  exact ⟨n, ⟨ended.after sent, loses⟩, member⟩

theorem failed_intro {config : Config} {server : ℕ → Transfer} {sentrypeerConfig p n : ℕ}
    {badActor : BadActor} {t : Sender} (loses : passLost config (some .failure) n)
    (sent : s.requests.length ≤ t.requests.length) :
    badActorAt p badActor + (tokenAt sentrypeerConfig t.token + blocks n) ⊆ badActorAt p badActor +
      passedAt config server sentrypeerConfig (.done .failure) (some .failure) s t := by
  have ended : Ended config server (.done .failure) (some .failure) s t := ⟨rfl, sent, by simp⟩
  have passed := passedAt_intro sentrypeerConfig ended loses
  rw [pendingAt, zero_add] at passed
  exact Set.add_subset_add_left passed

theorem pass_fails {server : ℕ → Transfer} {config : Config}
    {sentrypeerConfig p jsonString easy list n : ℕ} {badActor : BadActor} {handle : EasyHandle}
    {headers : List CStr} {text : CStr} {t : Sender} (left : R ⊆ badActorAt p badActor + (tokenAt sentrypeerConfig t.token + blocks n))
    (loses : passLost config (some .failure) n) (sent : s.requests.length ≤ t.requests.length) :
    Represents (sentBy jansson) t (easyAt easy handle + (textAt jsonString text +
        (listAt list headers + R)))
      (giveUp jsonString easy list) (pure (some Exit.failure))
      fun passEnd exit t => badActorAt p badActor +
        passedAt config server sentrypeerConfig passEnd exit s t := by
  unfold giveUp
  rw [add_left_comm]
  apply Represents.last (cleanup_spec (PassEnd.done .failure) (c := ()))
  intro passEnd
  apply Set.iUnion_subset
  rintro rfl
  exact left.trans (failed_intro loses sent)

theorem passLost_of_failure {config : Config} {n : ℕ} (lost : prepareLost config .failure n) :
    passLost config (some .failure) n := by
  unfold prepareLost headerLost at lost
  unfold passLost
  by_cases mode : config.oauth2Mode = true
  · rw [if_pos mode] at lost ⊢
    exact ⟨lost.1, by simp⟩
  · rw [if_neg mode] at lost ⊢
    exact lost

theorem passLost_of_success {config : Config} {n : ℕ} (lost : prepareLost config .success n)
    (exit : Option Exit) : passLost config exit n := by
  unfold prepareLost headerLost at lost
  unfold passLost
  by_cases mode : config.oauth2Mode = true
  · rw [if_pos mode] at lost ⊢
    exact ⟨lost.1, fun _ => lost.2 rfl⟩
  · rw [if_neg mode] at lost ⊢
    exact lost

/-- The event is posted after the headers are prepared. -/
theorem preparedPost_spec {server : ℕ → Transfer} (config : Config)
    {sentrypeerConfig p jsonString easy list : ℕ} (badActor : BadActor) {handle : EasyHandle}
    {json : Json} (linked : Linked list [contentType] handle s.easy) :
    Represents (sentBy jansson) s (easyAt easy handle + (textAt jsonString (jansson.dumps json) +
        (listAt list [contentType] + (badActorAt p badActor + tokenAt sentrypeerConfig s.token))))
      (do
        if (← prepareOauth2 jansson curl server config sentrypeerConfig easy list) ≠ .success then
          return ← giveUp jsonString easy list
        postEvent curl server config sentrypeerConfig jsonString easy list)
      (do
        if (← SentryPeer.prepareOauth2 jansson curl.onValues (fun n => (server n).reply) config) ≠
            .success then
          return some .failure
        SentryPeer.postEvent curl.onValues (fun n => (server n).reply) config json)
      fun passEnd exit t => badActorAt p badActor +
        passedAt config server sentrypeerConfig passEnd exit s t := by
  have callee : easyAt easy handle + (textAt jsonString (jansson.dumps json) +
      (listAt list [contentType] + (badActorAt p badActor + tokenAt sentrypeerConfig s.token))) =
      easyAt easy handle + (listAt list [contentType] + tokenAt sentrypeerConfig s.token) +
        (textAt jsonString (jansson.dumps json) + badActorAt p badActor) := by
    simp only [add_comm, add_left_comm]
  rw [callee]
  apply (prepareOauth2_spec config linked).call
  intro exit _ t
  simp only [preparedAt, Set.iUnion_add]
  apply Represents.iUnion
  rintro rfl
  apply Represents.iUnion
  intro n
  apply Represents.iUnion
  intro handle
  apply Represents.iUnion
  intro headers
  apply Represents.iUnion
  rintro ⟨loses, prepared⟩
  cases exit with
  | failure =>
      have order : easyAt easy handle + (listAt list headers + (tokenAt sentrypeerConfig t.token +
          blocks n)) + (textAt jsonString (jansson.dumps json) + badActorAt p badActor) =
          easyAt easy handle + (textAt jsonString (jansson.dumps json) + (listAt list headers +
            (badActorAt p badActor + (tokenAt sentrypeerConfig t.token + blocks n)))) := by
        simp only [add_comm, add_left_comm]
      rw [order]
      exact pass_fails subset_rfl (passLost_of_failure loses) prepared.sent
  | success =>
      have order : easyAt easy handle + (listAt list headers + (tokenAt sentrypeerConfig t.token +
          blocks n)) + (textAt jsonString (jansson.dumps json) + badActorAt p badActor) =
          easyAt easy handle + (textAt jsonString (jansson.dumps json) + (listAt list headers +
            tokenAt sentrypeerConfig t.token)) + (badActorAt p badActor + blocks n) := by
        simp only [add_comm, add_left_comm]
      rw [order]
      apply ((postEvent_spec config (prepared.linked rfl)).frame _).post
      intro passEnd exit u
      rw [Set.iUnion_add]
      apply Set.iUnion_subset
      intro ended
      have out : pendingAt passEnd + tokenAt sentrypeerConfig u.token + (badActorAt p badActor +
          blocks n) = badActorAt p badActor + (pendingAt passEnd +
            (tokenAt sentrypeerConfig u.token + blocks n)) := by
        simp only [add_comm, add_left_comm]
      rw [out]
      exact Set.add_subset_add_left (passedAt_intro _ (ended.after prepared.sent)
        (passLost_of_success loses exit))

theorem postPass_spec {server : ℕ → Transfer} (config : Config) {sentrypeerConfig p : ℕ}
    (badActor : BadActor) :
    Represents (sentBy jansson) s (badActorAt p badActor + tokenAt sentrypeerConfig s.token)
      (postPass jansson curl server config sentrypeerConfig p)
      (SentryPeer.postPass jansson curl.onValues (fun n => (server n).reply) config badActor)
      fun passEnd exit t => badActorAt p badActor +
        passedAt config server sentrypeerConfig passEnd exit s t := by
  unfold postPass SentryPeer.postPass curlEasyInit
  rw [bind_assoc]
  apply requestsSent_bind
  have nothing : passLost config (some .failure) 0 := by
    simp [passLost]
  have untouched : badActorAt p badActor + tokenAt sentrypeerConfig s.token ⊆
      badActorAt p badActor + (tokenAt sentrypeerConfig s.token + blocks 0) := by
    rw [blocks_zero, add_zero]
  cases init : curl.init s.requests.length with
  | false =>
      have ran : SentryPeer.curlEasyInit curl.onValues s = .ok false s := by
        simp [SentryPeer.curlEasyInit, Curl.onValues, init]
      apply Represents.kept ran rfl
      exact Represents.pure (untouched.trans (failed_intro nothing (le_refl _)))
  | true =>
      have ran : SentryPeer.curlEasyInit curl.onValues s = .ok true { s with easy := .init } := by
        simp [SentryPeer.curlEasyInit, Curl.onValues, init]
      apply Represents.kept ran rfl
      simp only [if_true, bind_assoc, pure_bind]
      apply Represents.steps (Simulates.malloc _ _ ())
      intro easy
      apply Represents.steps (Simulates.malloc _ _ ())
      intro list
      have recordFirst (handle : EasyHandle) : listAt list [contentType] + (easyAt easy handle +
          (badActorAt p badActor + tokenAt sentrypeerConfig s.token)) =
          badActorAt p badActor + (easyAt easy handle + (listAt list [contentType] +
            tokenAt sentrypeerConfig s.token)) := by
        simp only [add_comm, add_left_comm]
      rw [recordFirst]
      apply Represents.callSteps (badActorToJson_spec jansson badActor)
      intro jsonString
      rw [SentryPeer.badActorToJson]
      cases badActorJson badActor with
      | none =>
          cases jsonString with
          | some jsonString => exact Represents.vacuous (by simp [stringAt])
          | none =>
              have order : stringAt .c none none + badActorAt p badActor +
                  (easyAt easy ⟨none, none, none, .unset, none⟩ + (listAt list [contentType] +
                    tokenAt sentrypeerConfig s.token)) =
                  easyAt easy ⟨none, none, none, .unset, none⟩ + (listAt list [contentType] +
                    (badActorAt p badActor + tokenAt sentrypeerConfig s.token)) := by
                rw [stringAt, zero_add]
                simp only [add_comm, add_left_comm]
              simp only [Option.map_none]
              rw [order]
              unfold httpCleanupCurl
              simp only [bind_assoc]
              apply Represents.steps (Simulates.free (c := ()) rfl rfl)
              intro _
              apply Represents.steps (Simulates.free (c := ()) rfl rfl)
              intro _
              exact Represents.pure (untouched.trans
                (failed_intro (t := { s with easy := .init }) nothing (le_refl _)))
      | some json =>
          cases jsonString with
          | none => exact Represents.vacuous (by simp [stringAt])
          | some jsonString =>
              have order : stringAt .c (some jsonString) (some (jansson.dumps json)) +
                  badActorAt p badActor + (easyAt easy ⟨none, none, none, .unset, none⟩ +
                    (listAt list [contentType] + tokenAt sentrypeerConfig s.token)) =
                  easyAt easy ⟨none, none, none, .unset, none⟩ + (textAt jsonString
                    (jansson.dumps json) + (listAt list [contentType] + (badActorAt p badActor +
                      tokenAt sentrypeerConfig s.token))) := by
                rw [stringAt]
                simp only [add_comm, add_left_comm]
              simp only [Option.map_some]
              rw [order]
              apply setopt_bind rfl rfl
              · exact pass_fails untouched nothing (le_refl s.requests.length)
              apply setopt_bind rfl rfl
              · exact pass_fails untouched nothing (le_refl s.requests.length)
              apply setopt_bind rfl rfl
              · exact pass_fails untouched nothing (le_refl s.requests.length)
              apply Represents.post
              · exact preparedPost_spec config badActor (.inl ⟨rfl, rfl⟩)
              intro passEnd exit t
              apply Set.add_subset_add_left
              exact passedAt_sent (le_refl s.requests.length)

theorem pending_blocks (jsonString easy list : ℕ) :
    pendingAt (.retry jsonString easy list) ⊆ blocks 3 := by
  unfold pendingAt
  apply Set.iUnion_subset
  intro text
  apply Set.iUnion_subset
  intro handle
  apply Set.iUnion_subset
  intro headers
  have two : easyAt easy handle + listAt list headers ⊆ blocks 2 :=
    (Set.add_subset_add_left (pointsTo_subset_blocks list _)).trans (pointsTo_add_blocks easy _ 1)
  exact (Set.add_subset_add_left two).trans (pointsTo_add_blocks jsonString _ 2)

theorem pending_lost (A B : Assertion Block) (n jsonString easy list : ℕ) :
    A + (B + blocks n) + (pendingAt (.retry jsonString easy list) + blocks 1) ⊆
      A + (B + blocks (n + 4)) := by
  have four : pendingAt (.retry jsonString easy list) + blocks 1 ⊆ blocks 4 :=
    (Set.add_subset_add_right (pending_blocks jsonString easy list)).trans (blocks_add 3 1)
  apply (Set.add_subset_add_left four).trans
  rw [add_assoc, add_assoc]
  exact Set.add_subset_add_left (Set.add_subset_add_left (blocks_add n 4))

theorem pending_cleanup (A B : Assertion Block) (n jsonString easy list : ℕ) (a : α) {c : γ} :
    Simulates (A + (B + blocks n) + (pendingAt (.retry jsonString easy list) + blocks 1))
      (do
        cFree jsonString
        httpCleanupCurl easy list
        return a)
      (pure c : EStateM Abort Network γ) fun b _ => ⋃ _ : b = a, A + (B + blocks (n + 1)) := by
  simp only [pendingAt, Set.iUnion_add, Set.add_iUnion]
  apply Simulates.iUnion
  intro text
  apply Simulates.iUnion
  intro handle
  apply Simulates.iUnion
  intro headers
  have order : A + (B + blocks n) + (textAt jsonString text + (easyAt easy handle +
      listAt list headers) + blocks 1) = textAt jsonString text + (easyAt easy handle +
        (listAt list headers + (A + (B + (blocks n + blocks 1))))) := by
    simp only [add_comm, add_left_comm]
  rw [order]
  apply (cleanup_spec a).post
  intro b _
  apply Set.iUnion_mono
  intro _
  exact Set.add_subset_add_left (Set.add_subset_add_left (blocks_add n 1))

/-- What is lost after so many calls of itself. Each pass loses the duplicate of its header, and a
call that fails leaves the text, the handle and the list of all the passes before. -/
def callLost (retries : ℕ) (exit : Option Exit) (n : ℕ) : Prop :=
  if exit = some .success then n = retries + 1
  else 4 * retries ≤ n ∧ n ≤ 4 * retries + 1

/-- Each call of itself comes after an answer of 401 or 403. -/
def Lost (config : Config) (server : ℕ → Transfer) (exit : Option Exit) (n : ℕ) (s t : Sender) :
    Prop :=
  if config.oauth2Mode then ∃ retries, callLost retries exit n ∧
    refusals server s.requests.length + retries ≤ refusals server t.requests.length
  else n = 0

def sentAt (config : Config) (server : ℕ → Transfer) (sentrypeerConfig p : ℕ) (badActor : BadActor)
    (exit : Option Exit) (s t : Sender) : Assertion Block :=
  ⋃ n, ⋃ _ : Lost config server exit n s t,
    badActorAt p badActor + (tokenAt sentrypeerConfig t.token + blocks n)

theorem sentAt_intro {config : Config} {server : ℕ → Transfer} (sentrypeerConfig p : ℕ) {n : ℕ}
    (badActor : BadActor) {exit : Option Exit} {t : Sender}
    (lost : Lost config server exit n s t) :
    badActorAt p badActor + (tokenAt sentrypeerConfig t.token + blocks n) ⊆
      sentAt config server sentrypeerConfig p badActor exit s t := by
  intro owned member
  simp only [sentAt, Set.mem_iUnion]
  exact ⟨n, lost, member⟩

theorem lost_of_pass {config : Config} {server : ℕ → Transfer} {n : ℕ} {exit : Option Exit}
    {t : Sender} (loses : passLost config exit n) (sent : s.requests.length ≤ t.requests.length)
    (last : exit ≠ none) : Lost config server exit n s t := by
  unfold passLost at loses
  unfold Lost
  by_cases mode : config.oauth2Mode = true
  · rw [if_pos mode] at loses ⊢
    refine ⟨0, ?_, refusals_mono server sent⟩
    unfold callLost
    rcases exit with _ | ⟨_ | _⟩ <;> simp_all
  · rw [if_neg mode] at loses ⊢
    exact loses

/-- The pass before is counted, with what the call leaves of it. -/
theorem Lost.retry {config : Config} {server : ℕ → Transfer} {n : ℕ} {exit : Option Exit}
    {t u : Sender} (mode : config.oauth2Mode = true)
    (refused : refusals server s.requests.length < refusals server t.requests.length)
    (lost : Lost config server exit n t u) :
    Lost config server exit (if exit = some .success then n + 1 else n + 4) s u := by
  unfold Lost at lost ⊢
  rw [if_pos mode] at lost ⊢
  obtain ⟨retries, lost, refusedAfter⟩ := lost
  refine ⟨retries + 1, ?_, by omega⟩
  unfold callLost at lost ⊢
  by_cases success : exit = some .success
  · rw [if_pos success] at lost ⊢
    rw [if_pos success, lost]
  · rw [if_neg success] at lost ⊢
    rw [if_neg success]
    omega

theorem jsonHttpPostBadActor_represents {server : ℕ → Transfer} (config : Config)
    {sentrypeerConfig p : ℕ} (badActor : BadActor) (fuel : ℕ) :
    Represents (sentBy jansson) s (badActorAt p badActor + tokenAt sentrypeerConfig s.token)
      (jsonHttpPostBadActor jansson curl server config sentrypeerConfig p fuel)
      (SentryPeer.jsonHttpPostBadActor jansson curl.onValues (fun n => (server n).reply) config
        badActor fuel)
      fun exit exit' t => ⋃ _ : exit = exit',
        sentAt config server sentrypeerConfig p badActor exit s t := by
  induction fuel generalizing s with
  | zero =>
      have lost : Lost config server none 0 s s := by
        unfold Lost
        split
        · exact ⟨0, by simp [callLost], le_refl _⟩
        · rfl
      have left := sentAt_intro sentrypeerConfig p badActor lost
      rw [blocks_zero, add_zero] at left
      exact Represents.pure (left.trans (subset_given _ rfl))
  | succ fuel ih =>
      apply (postPass_spec config badActor).bind
      intro passEnd exit t
      unfold passedAt
      rw [Set.add_iUnion]
      apply Represents.iUnion
      intro n
      rw [Set.add_iUnion]
      apply Represents.iUnion
      rintro ⟨ended, loses⟩
      cases passEnd with
      | done exit =>
          obtain rfl := ended.same
          have lost : Lost config server (some exit) n s t :=
            lost_of_pass loses ended.sent (Option.some_ne_none exit)
          have left := sentAt_intro sentrypeerConfig p badActor lost
          rw [pendingAt, zero_add]
          exact Represents.pure (left.trans (subset_given _ rfl))
      | retry jsonString easy list =>
          obtain rfl := ended.same
          dsimp only [PassEnd.exit]
          have callee : badActorAt p badActor + (pendingAt (.retry jsonString easy list) +
              (tokenAt sentrypeerConfig t.token + blocks n)) =
              badActorAt p badActor + tokenAt sentrypeerConfig t.token +
                (pendingAt (.retry jsonString easy list) + blocks n) := by
            simp only [add_assoc, add_left_comm]
          rw [callee]
          apply ih.call
          intro exit _ u
          rw [Set.iUnion_add]
          apply Represents.iUnion
          rintro rfl
          unfold sentAt
          rw [Set.iUnion_add]
          apply Represents.iUnion
          intro after
          rw [Set.iUnion_add]
          apply Represents.iUnion
          intro lost
          obtain ⟨mode, refused⟩ := ended.refused rfl
          have counted := lost.retry mode refused
          have one : n = 1 := by
            unfold passLost at loses
            rw [if_pos mode] at loses
            exact loses.2 (by simp [PassEnd.exit])
          subst one
          cases exit with
          | none =>
              exact Represents.pure ((pending_lost _ _ after jsonString easy list).trans
                ((sentAt_intro _ p badActor counted).trans (subset_given _ rfl)))
          | some exit =>
              cases exit with
              | failure =>
                  exact Represents.pure ((pending_lost _ _ after jsonString easy list).trans
                    ((sentAt_intro _ p badActor counted).trans (subset_given _ rfl)))
              | success =>
                  apply Represents.last (pending_cleanup _ _ after jsonString easy list
                    (some Exit.success) (c := ()))
                  intro exit
                  apply Set.iUnion_subset
                  rintro rfl
                  exact (sentAt_intro _ p badActor counted).trans (subset_given _ rfl)

end Calls

end SentryPeer.OnHeap
