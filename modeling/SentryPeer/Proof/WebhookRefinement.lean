import SentryPeer.Proof.Webhook
import SentryPeer.Source.Conf

/-!
# When the Rust sender does what the C sender does

The two senders agree round by round as long as the Rust sender neither panics nor gives up on a
reply the C sender accepts. They part for good at the first round where it does, and a success
after a retry is reported as a failure by the Rust sender alone.
-/

namespace SentryPeer.Proof
open Lib

def SameWire (a b : CStr × Json) : Prop := a.1 = b.1 ∧ a.2.SameObject b.2

theorem serdeMap_same {members : List (String × List UInt8)}
    (distinct : (members.map Prod.fst).Nodup) :
    (flatObject members).SameObject (serdeMap members) :=
  flatObject_same_of_perm (List.perm_insertionSort _ members).symm distinct

theorem clientCreds_ne_event (config : Config) (badActor : BadActor) :
    (flatObject (clientCredsMembers config)).get? "client_id" ≠
      (flatObject (badActorMembers badActor)).get? "client_id" := by
  have absent : (badActorMembers badActor).lookup "client_id" = none := by
    rw [List.lookup_eq_none_iff]
    intro member isMember
    have key : member.1 ∈ badActorKeys := by
      rw [← badActorMembers_keys badActor]
      exact List.mem_map_of_mem isMember
    have others : ∀ key ∈ badActorKeys, ("client_id" != key) = true := by decide
    exact others _ key
  rw [flatObject_get?, flatObject_get?, absent]
  simp [clientCredsMembers]

theorem sameWire_iff (config : Config) (badActor : BadActor) (a b : Kind) :
    SameWire (wireC config badActor a) (wireRs config badActor b) ↔ a = b := by
  have creds : (flatObject (clientCredsMembers config)).SameObject
      (serdeMap (clientCredsMembers config)) :=
    serdeMap_same (by
      change ["client_id", "client_secret", "audience", "grant_type"].Nodup
      decide)
  have event : (flatObject (badActorMembers badActor)).SameObject
      (serdeMap (badActorMembers badActor)) :=
    serdeMap_same (by rw [badActorMembers_keys]; decide)
  have apart := clientCreds_ne_event config badActor
  cases a <;> cases b
  · exact ⟨fun _ => rfl, fun _ => ⟨rfl, creds⟩⟩
  · refine ⟨fun same => absurd ?_ apart, fun equal => by cases equal⟩
    rw [event "client_id"]
    exact same.2 "client_id"
  · refine ⟨fun same => absurd ?_ apart, fun equal => by cases equal⟩
    rw [creds "client_id"]
    exact (same.2 "client_id").symm
  · exact ⟨fun _ => rfl, fun _ => ⟨rfl, event⟩⟩

/-! ## Rounds on which the senders agree -/

section Agreement
variable (jansson : Jansson) (serde : Serde) (reqwest : Reqwest) (server : Nat → Reply)
  (config : Config)

/-- Where both libraries find a token in a reply, it is the same one. -/
def SameTokens : Prop :=
  ∀ body a b, accessToken jansson body = .ok a → accessTokenRs serde body = .ok b → a = b

def Rejects : Reply → Prop
  | .transportFailure => False
  | .response status _ => status = 401 ∨ status = 403

def firstPost (token : Option CStr) (n : Nat) : Nat :=
  match token with
  | some _ => n
  | none => n + 1

/-- The cached token can be sent; without one, the token request of position `n` is answered 200
with a token that can. -/
def UsableToken (token : Option CStr) (n : Nat) : Prop :=
  match token with
  | some token => Sendable reqwest config token
  | none => Utf8Creds config ∧ ∃ body token, server n = .response 200 body ∧
      accessTokenRs serde body = .ok token ∧ Sendable reqwest config token

/-- The webhook answers, and only the first POST of a call may be a success. -/
def Answers (first : Bool) : Reply → Prop
  | .transportFailure => False
  | .response status _ => status = 200 ∨ status = 201 → first = true

def RoundOk (first : Bool) (token : Option CStr) (n : Nat) : Prop :=
  UsableToken serde reqwest server config token n ∧ Answers first (server (firstPost token n))

/-- All rounds are fine: the one at `n`, and those that follow a run of 401 and 403. -/
def RoundsOk (first : Bool) (token : Option CStr) (n : Nat) : Prop :=
  RoundOk serde reqwest server config first token n ∧
    ∀ k, (∀ j ≤ k, Rejects (server (firstPost token n + 2 * j))) →
      RoundOk serde reqwest server config false none (firstPost token n + 2 * k + 1)

end Agreement

section Comparison
variable {jansson : Jansson} {serde : Serde} {reqwest : Reqwest} {server : Nat → Reply}
  {config : Config}

theorem firstPost_shift (w j : Nat) : firstPost none (w + 1) + 2 * j = w + 2 * (j + 1) := by
  simp only [firstPost]
  omega

theorem roundsOk_iff {first : Bool} {token : Option CStr} {n : Nat} :
    RoundsOk serde reqwest server config first token n ↔
      RoundOk serde reqwest server config first token n ∧
        (Rejects (server (firstPost token n)) →
          RoundsOk serde reqwest server config false none (firstPost token n + 1)) := by
  constructor
  · rintro ⟨now, later⟩
    refine ⟨now, fun rejected => ⟨?_, fun k all => ?_⟩⟩
    · have next := later 0 (by
        intro j small
        obtain rfl : j = 0 := by omega
        exact rejected)
      exact next
    · rw [firstPost_shift]
      apply later (k + 1)
      intro j small
      cases j with
      | zero => exact rejected
      | succ j =>
          rw [← firstPost_shift]
          exact all j (by omega)
  · rintro ⟨now, later⟩
    refine ⟨now, fun k all => ?_⟩
    obtain ⟨next, rest⟩ := later (all 0 (by omega))
    cases k with
    | zero => exact next
    | succ k =>
        rw [← firstPost_shift]
        apply rest
        intro j small
        rw [firstPost_shift]
        exact all (j + 1) (by omega)

theorem webhookRound_cases (status : Nat) (body : List UInt8) (token : CStr) (sent : List Kind) :
    (webhookRound (.response status body) token sent).sent = sent ++ [.webhook] ∧
    ((webhookRound (.response status body) token sent).exit = none ↔
      status = 401 ∨ status = 403) ∧
    ((webhookRound (.response status body) token sent).exit = some .success ↔
      status = 200 ∨ status = 201) ∧
    ((webhookRound (.response status body) token sent).exit = none →
      (webhookRound (.response status body) token sent).token = none) := by
  simp only [webhookRound]
  split_ifs with accepted rejected
  · refine ⟨rfl, ?_, ?_, ?_⟩ <;> simp
    · omega
    · exact accepted
  · refine ⟨rfl, ?_, ?_, ?_⟩ <;> simp
    · exact rejected
    · omega
  · refine ⟨rfl, ?_, ?_, ?_⟩ <;> simp
    · omega
    · omega

theorem roundRs_eq_roundC (same : SameTokens jansson serde) {token : Option CStr} {n : Nat}
    {round : Round} (played : roundC jansson server config token n = some round)
    (usable : UsableToken serde reqwest server config token n)
    (answered : server (firstPost token n) ≠ .transportFailure) :
    roundRs serde reqwest server config token n = some round ∧
      ∃ status body token' sent, server (firstPost token n) = .response status body ∧
        round = webhookRound (.response status body) token' sent ∧
        n + sent.length = firstPost token n := by
  cases token with
  | some token =>
      simp only [firstPost] at answered ⊢
      simp only [UsableToken] at usable
      simp only [roundC, Option.some.injEq] at played
      cases reply : server n with
      | transportFailure => exact absurd reply answered
      | response status body =>
          rw [reply] at played
          refine ⟨?_, status, body, token, [], rfl, played.symm, rfl⟩
          simp only [roundRs, webhookRoundRs, usable, ↓reduceIte, reply, played]
  | none =>
      obtain ⟨creds, body, token, reply, given, sendable⟩ := usable
      simp only [firstPost] at answered ⊢
      simp only [roundC, creds, ↓reduceIte, reply] at played
      cases givenC : accessToken jansson body with
      | error e => simp [givenC] at played
      | ok tokenC =>
          obtain rfl := same body tokenC token givenC given
          simp only [givenC, Option.some.injEq] at played
          cases next : server (n + 1) with
          | transportFailure => exact absurd next answered
          | response status body' =>
              rw [next] at played
              refine ⟨?_, status, body', tokenC, [.token], rfl, played.symm, rfl⟩
              simp only [roundRs, creds, ↓reduceIte, reply, ne_eq, not_true_eq_false, given,
                webhookRoundRs, sendable, next, played]

theorem roundRs_parts {token : Option CStr} {n : Nat} {round : Round}
    (played : roundC jansson server config token n = some round)
    (bad : ¬ (UsableToken serde reqwest server config token n ∧
      server (firstPost token n) ≠ .transportFailure)) :
    roundRs serde reqwest server config token n = none ∨
      ∃ other, roundRs serde reqwest server config token n = some other ∧
        other.exit.isSome = true ∧ other.sent.length < round.sent.length := by
  cases token with
  | some token =>
      left
      simp only [roundRs, webhookRoundRs]
      by_cases sendable : Sendable reqwest config token
      · cases reply : server n with
        | transportFailure => simp
        | response status body => exact absurd ⟨sendable, by simp [firstPost, reply]⟩ bad
      · simp [sendable]
  | none =>
      simp only [roundC] at played
      simp only [roundRs]
      by_cases creds : Utf8Creds config
      · simp only [creds, ↓reduceIte] at played ⊢
        cases reply : server n with
        | transportFailure => exact .inl rfl
        | response status body =>
            simp only [reply] at played
            cases givenC : accessToken jansson body with
            | error e => simp [givenC] at played
            | ok tokenC =>
                simp only [givenC, Option.some.injEq] at played
                by_cases refused : status = 200
                · subst refused
                  left
                  cases given : accessTokenRs serde body with
                  | error e => simp [given]
                  | ok token =>
                      simp only [ne_eq, not_true_eq_false, ↓reduceIte, given, webhookRoundRs]
                      by_cases sendable : Sendable reqwest config token
                      · cases next : server (n + 1) with
                        | transportFailure => simp
                        | response status body' =>
                            exact absurd ⟨⟨creds, body, token, reply, given, sendable⟩,
                              by simp [firstPost, next]⟩ bad
                      · simp [sendable]
                · right
                  simp only [ne_eq, refused, not_false_eq_true, ↓reduceIte, Option.some.injEq,
                    exists_eq_left', Option.isSome_some, true_and]
                  rw [← played, webhookRound_sent]
                  cases server (n + 1) with
                  | transportFailure => simp [webhookRound]
                  | response status' body' =>
                      simp [(webhookRound_cases status' body' tokenC []).1]
      · simp [creds]

/-- The Rust run does what the run `r` of the C sender does; after a retry it fails. -/
def Agrees (serde : Serde) (reqwest : Reqwest) (server : Nat → Reply) (config : Config)
    (first : Bool) (token : Option CStr) (n : Nat) (r : Round) : Prop :=
  ∃ fuel other,
    runRounds (roundRs serde reqwest server config) (fun _ => .failure) fuel token n = some other ∧
    other.exit.isSome = true ∧ other.token = r.token ∧ other.sent = r.sent ∧
    (if first then other.exit else some .failure) = r.exit

theorem agrees_of_end {first : Bool} {token : Option CStr} {n : Nat} {round r : Round}
    (played : roundRs serde reqwest server config token n = some round)
    (ended : round.exit.isSome = true) :
    Agrees serde reqwest server config first token n r ↔
      round.token = r.token ∧ round.sent = r.sent ∧
        (if first then round.exit else some .failure) = r.exit := by
  obtain ⟨exit, he⟩ := Option.isSome_iff_exists.mp ended
  constructor
  · rintro ⟨fuel, other, ran, some_, token_, sent_, exit_⟩
    obtain ⟨round', played', ⟨-, rfl⟩ | ⟨retried, -⟩⟩ := runRounds_returned ran some_
    · cases played.symm.trans played'
      exact ⟨token_, sent_, exit_⟩
    · cases played.symm.trans played'
      rw [retried] at he
      cases he
  · rintro ⟨token_, sent_, exit_⟩
    exact ⟨1, round, by simp only [runRounds, played, he], ended, token_, sent_, exit_⟩

theorem agrees_of_retry {first : Bool} {token : Option CStr} {n : Nat} {round rest : Round}
    (played : roundRs serde reqwest server config token n = some round)
    (retried : round.exit = none) :
    Agrees serde reqwest server config first token n
        ⟨rest.exit, rest.token, round.sent ++ rest.sent⟩ ↔
      Agrees serde reqwest server config false round.token (n + round.sent.length) rest := by
  constructor
  · rintro ⟨fuel, other, ran, some_, token_, sent_, exit_⟩
    obtain ⟨round', played', ⟨ended, rfl⟩ | ⟨-, fuel', other', -, later, rfl⟩⟩ :=
      runRounds_returned ran some_
    · cases played.symm.trans played'
      rw [retried] at ended
      cases ended
    · cases played.symm.trans played'
      simp only [Option.isSome_map, List.append_cancel_left_eq] at some_ sent_ token_ exit_
      obtain ⟨exit', he⟩ := Option.isSome_iff_exists.mp some_
      exact ⟨fuel', other', later, some_, token_, sent_, by simpa [he] using exit_⟩
  · rintro ⟨fuel, other, ran, some_, token_, sent_, exit_⟩
    obtain ⟨exit', he⟩ := Option.isSome_iff_exists.mp some_
    refine ⟨fuel + 1, ⟨other.exit.map fun _ => .failure, other.token, round.sent ++ other.sent⟩,
      ?_, ?_, token_, ?_, ?_⟩
    · simp only [runRounds, played, retried, ran]
    · simp [he]
    · simp [sent_]
    · simpa [he] using exit_

theorem not_agrees_of_panic {first : Bool} {token : Option CStr} {n : Nat} {r : Round}
    (played : roundRs serde reqwest server config token n = none) :
    ¬ Agrees serde reqwest server config first token n r := by
  rintro ⟨fuel, other, ran, some_, -, -, -⟩
  obtain ⟨round, played', -⟩ := runRounds_returned ran some_
  rw [played] at played'
  cases played'

theorem roundOk_iff {first : Bool} {token : Option CStr} {n status : Nat} {body : List UInt8}
    (usable : UsableToken serde reqwest server config token n)
    (reply : server (firstPost token n) = .response status body) :
    RoundOk serde reqwest server config first token n ↔
      (status = 200 ∨ status = 201 → first = true) := by
  simp only [RoundOk, usable, true_and, reply, Answers]

theorem agrees_last_iff {first : Bool} {token : Option CStr} {n : Nat} {bearer : CStr}
    {status : Nat} {body : List UInt8} {sent : List Kind}
    (played : roundRs serde reqwest server config token n =
      some (webhookRound (.response status body) bearer sent))
    (ended : (webhookRound (.response status body) bearer sent).exit.isSome = true) :
    Agrees serde reqwest server config first token n
        (webhookRound (.response status body) bearer sent) ↔
      (status = 200 ∨ status = 201 → first = true) := by
  obtain ⟨exit, isExit⟩ := Option.isSome_iff_exists.mp ended
  obtain ⟨-, -, success, -⟩ := webhookRound_cases status body bearer sent
  rw [agrees_of_end played ended, ← success, isExit]
  cases exit <;> cases first <;> simp

theorem not_agrees_of_bad {first : Bool} {token : Option CStr} {n : Nat} {round r : Round}
    (played : roundC jansson server config token n = some round)
    (bad : ¬ (UsableToken serde reqwest server config token n ∧
      server (firstPost token n) ≠ .transportFailure))
    (longer : round.sent.length ≤ r.sent.length) :
    ¬ Agrees serde reqwest server config first token n r := by
  rcases roundRs_parts played bad with panics | ⟨other, playedRs, ended, shorter⟩
  · exact not_agrees_of_panic panics
  · rw [agrees_of_end playedRs ended]
    rintro ⟨-, sent_, -⟩
    rw [sent_] at shorter
    omega

theorem agrees_iff (same : SameTokens jansson serde) (fuel : Nat) {first : Bool}
    {token : Option CStr} {n : Nat} {r : Round}
    (ran : runRounds (roundC jansson server config) id fuel token n = some r)
    (returned : r.exit.isSome = true) :
    Agrees serde reqwest server config first token n r ↔
      RoundsOk serde reqwest server config first token n := by
  induction fuel generalizing first token n r with
  | zero =>
      cases ran
      cases returned
  | succ fuel ih =>
      obtain ⟨round, played, cases_⟩ := runRounds_returned ran returned
      by_cases good : UsableToken serde reqwest server config token n ∧
          server (firstPost token n) ≠ .transportFailure
      · obtain ⟨playedRs, status, body, bearer, sent, reply, rfl, start⟩ :=
          roundRs_eq_roundC same played good.1 good.2
        obtain ⟨kinds, retry, -, dropped⟩ := webhookRound_cases status body bearer sent
        rw [roundsOk_iff, roundOk_iff good.1 reply, reply]
        rcases cases_ with ⟨ended, rfl⟩ | ⟨retried, fuel', rest, sameFuel, later, rfl⟩
        · have final : ¬ Rejects (.response status body) := by
            intro rejected
            rw [retry.mpr rejected] at ended
            cases ended
          rw [agrees_last_iff playedRs ended]
          simp only [final, false_imp_iff, and_true]
        · cases sameFuel
          have rejected := retry.mp retried
          have notAccepted : ¬ (status = 200 ∨ status = 201) := by omega
          have next : n + (sent ++ [Kind.webhook]).length = firstPost token n + 1 := by
            simp only [List.length_append, List.length_singleton]
            omega
          simp only [Option.map_id_fun, id_eq] at returned ⊢
          rw [agrees_of_retry playedRs retried, ih later returned, dropped retried, kinds, next]
          simp only [notAccepted, false_imp_iff, true_and]
          exact ⟨fun ok _ => ok, fun ok => ok rejected⟩
      · have bad : ¬ RoundsOk serde reqwest server config first token n := by
          rintro ⟨⟨usable, answers⟩, -⟩
          refine good ⟨usable, fun failed => ?_⟩
          rw [failed] at answers
          exact answers
        have longer : round.sent.length ≤ r.sent.length := by
          rcases cases_ with ⟨-, rfl⟩ | ⟨-, fuel', rest, -, -, rfl⟩
          · exact le_rfl
          · simp
        exact ⟨fun agrees => absurd agrees (not_agrees_of_bad played good longer),
          fun ok => absurd ok bad⟩

end Comparison

/-! ## The senders -/

def senderOf (config : Config) : Sender := ⟨config.oauth2AccessToken, [], .init⟩

section Senders
variable {jansson : Jansson} {serde : Serde} {curl : Curl} {reqwest : Reqwest}
  {server : Nat → Reply} {config : Config} {badActor : BadActor}

/-- The same result, the same requests up to the order of keys, and the same token. -/
def Refines (jansson : Jansson) (serde : Serde) (curl : Curl) (reqwest : Reqwest)
    (server : Nat → Reply) (config : Config) (badActor : BadActor) : Prop :=
  ∀ fuel exit t,
    jsonHttpPostBadActor jansson curl server config badActor fuel (senderOf config) =
      .ok (some exit) t →
    ∃ fuelRs u,
      jsonHttpPostBadActorRs serde reqwest server config badActor fuelRs (senderOf config) =
        .ok (some exit) u ∧
      List.Forall₂ (fun a b => SameWire (wire a) (wire b)) t.requests u.requests ∧
      u.token = t.token

theorem forall₂_wire_iff {t u : Sender} {a b : List Kind}
    (ht : t.requests.map wire = a.map (wireC config badActor))
    (hu : u.requests.map wire = b.map (wireRs config badActor)) :
    List.Forall₂ (fun a b => SameWire (wire a) (wire b)) t.requests u.requests ↔ a = b := by
  rw [← List.forall₂_map_left_iff (R := fun x y => SameWire x (wire y)),
    ← List.forall₂_map_right_iff (R := SameWire), ht, hu, List.forall₂_map_left_iff,
    List.forall₂_map_right_iff]
  have kinds : (fun a b => SameWire (wireC config badActor a) (wireRs config badActor b)) =
      fun a b => a = b := by
    funext a b
    exact propext (sameWire_iff config badActor a b)
  rw [kinds, List.forall₂_eq_eq_eq]

variable (jansson server config) in
theorem postPass_plain (works : CurlWorks curl) (off : config.oauth2Mode = false)
    (utf8 : Utf8Fields badActor) (s : Sender) :
    ∃ exit t, postPass jansson curl server config badActor s = .ok (some exit) t ∧
      t.requests.length = s.requests.length + 1 := by
  obtain ⟨easy, equal⟩ := postPass_eq jansson server config works utf8 s
  rw [equal]
  simp only [prepareOauth2, off, Bool.not_false, ↓reduceIte, run_bind, run_pure, ne_eq,
    not_true_eq_false, postEvent, curlEasySetopt_works works, Bool.not_true, Bool.false_eq_true]
  rw [curlEasyPerform_set rfl rfl]
  cases server s.requests.length with
  | transportFailure => exact ⟨_, _, rfl, by simp⟩
  | response status body =>
      simp only [false_and, ↓reduceIte]
      split_ifs
      · exact ⟨_, _, rfl, by simp⟩
      · exact ⟨_, _, rfl, by simp⟩

theorem postPassRs_plain (off : config.oauth2Mode = false) (utf8 : Utf8Fields badActor)
    (s : Sender) :
    postPassRs serde reqwest server config badActor s = .ok (some .success) s := by
  simp only [postPassRs, badActorJsonRs_eq, utf8, ↓reduceIte, fromExcept_ok, run_bind, run_pure,
    off, Bool.false_eq_true]

theorem not_refines_plain (works : CurlWorks curl) (off : config.oauth2Mode = false)
    (utf8 : Utf8Fields badActor) :
    ¬ Refines jansson serde curl reqwest server config badActor := by
  intro refines
  obtain ⟨exit, t, ran, length⟩ := postPass_plain jansson server config works off utf8
    (senderOf config)
  have returned : jsonHttpPostBadActor jansson curl server config badActor 1 (senderOf config) =
      .ok (some exit) t := by
    rw [jsonHttpPostBadActor_eq, retryLoop, run_bind, ran]
    rfl
  obtain ⟨fuel, u, ranRs, same, -⟩ := refines 1 exit t returned
  rw [jsonHttpPostBadActorRs_eq] at ranRs
  cases fuel with
  | zero => cases ranRs
  | succ fuel =>
      rw [retryLoop, run_bind, postPassRs_plain off utf8] at ranRs
      cases ranRs
      have lengths := same.length_eq
      rw [length] at lengths
      cases lengths

theorem rounds_of_run (works : CurlWorks curl) (oauth2 : config.oauth2Mode = true)
    (utf8 : Utf8Fields badActor) {fuel : Nat} {exit : Exit} {t : Sender}
    (ran : jsonHttpPostBadActor jansson curl server config badActor fuel (senderOf config) =
      .ok (some exit) t) :
    ∃ r, runRounds (roundC jansson server config) id fuel config.oauth2AccessToken 0 = some r ∧
      r.exit = some exit ∧ r.token = t.token ∧
      t.requests.map wire = r.sent.map (wireC config badActor) := by
  rw [jsonHttpPostBadActor_eq] at ran
  have performed := retryLoop_performs
    (postPass_performs jansson server works oauth2 utf8) id fuel
    (senderOf config)
  obtain ⟨r, run, rexit, rtoken, requests⟩ := performs_ok performed ran
  exact ⟨r, run, rexit, rtoken, requests⟩

variable (badActor) in
theorem run_of_rounds (works : CurlWorks curl) (oauth2 : config.oauth2Mode = true)
    (utf8 : Utf8Fields badActor) {fuel : Nat} {r : Round}
    (run : runRounds (roundC jansson server config) id fuel config.oauth2AccessToken 0 = some r) :
    ∃ t, jsonHttpPostBadActor jansson curl server config badActor fuel (senderOf config) =
      .ok r.exit t := by
  have performed := retryLoop_performs
    (postPass_performs jansson server works oauth2 utf8) id fuel
    (senderOf config)
  change Performs _ _ _ (runRounds _ _ fuel config.oauth2AccessToken 0) at performed
  rw [run] at performed
  obtain ⟨t, ran, -⟩ := performed
  exact ⟨t, by rw [jsonHttpPostBadActor_eq, ran]⟩

theorem refines_run_iff (oauth2 : config.oauth2Mode = true) (utf8 : Utf8Fields badActor)
    {exit : Exit} {t : Sender} {r : Round} (rexit : r.exit = some exit) (rtoken : r.token = t.token)
    (requests : t.requests.map wire = r.sent.map (wireC config badActor)) :
    (∃ fuelRs u,
      jsonHttpPostBadActorRs serde reqwest server config badActor fuelRs (senderOf config) =
        .ok (some exit) u ∧
      List.Forall₂ (fun a b => SameWire (wire a) (wire b)) t.requests u.requests ∧
      u.token = t.token) ↔
    Agrees serde reqwest server config true config.oauth2AccessToken 0 r := by
  have performed (fuel : Nat) := retryLoop_performs
    (postPassRs_performs serde reqwest server oauth2 utf8)
    (fun _ => .failure) fuel (senderOf config)
  simp only [jsonHttpPostBadActorRs_eq]
  constructor
  · rintro ⟨fuel, u, ran, same, token⟩
    obtain ⟨other, run, oexit, otoken, orequests⟩ := performs_ok (performed fuel) ran
    have sent := (forall₂_wire_iff requests orequests).mp same
    refine ⟨fuel, other, run, by simp [oexit], ?_, sent.symm, ?_⟩
    · rw [otoken, token, rtoken]
    · rw [if_pos rfl, oexit, rexit]
  · rintro ⟨fuel, other, run, -, otoken, osent, oexit⟩
    have ran := performed fuel
    change Performs _ _ _ (runRounds _ _ fuel config.oauth2AccessToken 0) at ran
    rw [run] at ran
    obtain ⟨u, returned, utoken, urequests⟩ := ran
    rw [if_pos rfl, rexit] at oexit
    rw [oexit] at returned
    refine ⟨fuel, u, returned, (forall₂_wire_iff requests urequests).mpr osent.symm, ?_⟩
    rw [utoken, otoken, rtoken]

/-- OAuth2 is on, the cached token or the answers to the token requests give tokens that reqwest can
send, the webhook answers every POST, and no POST after a 401 or 403 is a success. -/
def RefinesWhen (serde : Serde) (reqwest : Reqwest) (server : Nat → Reply) (config : Config) :
    Prop :=
  config.oauth2Mode = true ∧ RoundsOk serde reqwest server config true config.oauth2AccessToken 0

end Senders

def workingCurl : Curl := ⟨fun _ => true, fun _ _ => true, fun _ => true⟩

theorem workingCurl_works : CurlWorks workingCurl := ⟨fun _ => rfl, fun _ _ => rfl, fun _ => rfl⟩

def httpReqwest : Reqwest where
  parsesUrl url := (CStr.lit "http://").bytes.isPrefixOf url.bytes ||
    (CStr.lit "https://").bytes.isPrefixOf url.bytes

theorem compact_sameTokens : SameTokens compactJansson compactSerde := by
  intro body a b given givenRs
  simp only [accessToken, accessTokenRs, compactJansson, compactSerde] at given givenRs
  cases read : readFlat body with
  | none => simp [read] at given
  | some json =>
      simp only [read, Option.bind_some] at given givenRs
      cases found : json.get? "access_token" with
      | none => simp [found] at given
      | some value =>
          cases value with
          | string text =>
              simp only [found] at given givenRs
              split at givenRs
              · cases givenRs
                cases given
                exact CStr.ofMemory_bytes ⟨text, _⟩
              · cases givenRs
          | _ => simp [found] at givenRs

def tokenBody : List UInt8 := (printFlat true [("access_token", ascii "t0ken".toList)]).bytes

theorem readFlat_tokenBody :
    readFlat tokenBody = some (flatObject [("access_token", ascii "t0ken".toList)]) := by
  apply readFlat_printFlat
  exact ⟨by decide, by decide, by decide, by decide⟩

theorem accessToken_tokenBody : accessToken compactJansson tokenBody = .ok (.lit "t0ken") := by
  simp only [accessToken, compactJansson, readFlat_tokenBody]
  exact congrArg Except.ok (CStr.ofMemory_bytes (.lit "t0ken"))

theorem accessTokenRs_tokenBody : accessTokenRs compactSerde tokenBody = .ok (.lit "t0ken") := by
  simp only [accessTokenRs, compactSerde, readFlat_tokenBody]
  exact dif_pos (by decide)

def acceptingServer : Nat → Reply
  | 0 => .response 200 tokenBody
  | _ => .response 200 []

def oauth2Config : Config := { sentrypeerConfigNew ⟨true, false⟩ (.lit "e1d4") with
  webhookMode := true
  oauth2Mode := true }

def plainWebhookConfig : Config := { sentrypeerConfigNew ⟨true, false⟩ (.lit "e1d4") with
  webhookMode := true }

end SentryPeer.Proof
