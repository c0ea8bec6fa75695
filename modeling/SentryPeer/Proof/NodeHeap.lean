import SentryPeer.Proof.Ownership
import SentryPeer.Source.NodeHeap

/-!
# What a node leaves on the heap

With its stores as the sinks, a node in the new mode of the Rust build that writes the JSON log loses
the text of every event that it logs. Any other node loses nothing.
-/

namespace SentryPeer.OnHeap
open Lib Pointwise

theorem postWebhook_borrows (answer : Except Abort Exit) :
    Borrows (postWebhook answer) (SentryPeer.postWebhook answer) 0 := by
  intro p badActor
  unfold postWebhook
  apply (readBadActor_spec (c := ()) badActor).bindPure
  intro read
  apply Simulates.iUnion
  rintro rfl
  rw [add_zero]
  exact Simulates.onRestEnd

def storeLeaks (build : Build) : Leaks where
  jsonLog := if build.rust then lostText else 0
  webhook := 0

theorem storeSinks_refine (build : Build) (jansson : Jansson) (serde : Serde) (config : Config)
    (answers : StoreAnswers) : SinksRefine build (storeSinks build jansson serde config answers)
      (SentryPeer.storeSinks build jansson serde config answers) (storeLeaks build) where
  jsonLogBadActor ofC := by
    simp only [storeLeaks, ofC, Bool.false_eq_true, if_false]
    exact jsonLogBadActor_borrows ofC jansson serde answers.logIo
  jsonLogBadActorRs ofRust := by
    simp only [storeLeaks, ofRust, if_true]
    exact jsonLogBadActorRs_borrows serde answers.logIo config
  dbInsertBadActor := dbInsertBadActor_borrows answers.insert
  jsonHttpPostBadActor _ := postWebhook_borrows answers.webhook
  jsonHttpPostBadActorRs _ := postWebhook_borrows answers.webhook
  peerToPeerDhtSave := peerToPeerDhtSave_borrows jansson _ answers.dhtStarted answers.dhtValueCreated

/-- Whether the JSON log of the node is written by the function that loses its text. -/
def losesTexts (build : Build) (config : Config) : Bool :=
  build.rust && config.newMode && config.jsonLogMode

/-- Texts that Rust has made, between so many. -/
def lostTexts (least most : ℕ) : Assertion Block :=
  {kept | (least ≤ kept.card ∧ kept.card ≤ most) ∧ ∀ block ∈ kept, ∃ text, block.2 = .string .rust text}

theorem lostText_subset : lostText ⊆ lostTexts 1 1 := by
  apply Set.iUnion₂_subset
  rintro p text _ rfl
  refine ⟨⟨le_rfl, le_rfl⟩, fun block member => ⟨text, ?_⟩⟩
  rw [Multiset.mem_singleton.mp member]

theorem zero_subset_lostTexts (most : ℕ) : 0 ⊆ lostTexts 0 most := by
  rintro _ rfl
  exact ⟨⟨le_rfl, Nat.zero_le most⟩, fun block member => absurd member (Multiset.notMem_zero block)⟩

theorem lostTexts_add (m n m' n' : ℕ) :
    lostTexts m n + lostTexts m' n' ⊆ lostTexts (m + m') (n + n') := by
  rintro _ ⟨left, ⟨fewLeft, textsLeft⟩, right, ⟨fewRight, textsRight⟩, rfl⟩
  refine ⟨?_, fun block member => ?_⟩
  · simp only [Multiset.card_add]
    omega
  · rcases Multiset.mem_add.mp member with inLeft | inRight
    · exact textsLeft block inLeft
    · exact textsRight block inRight

theorem lostTexts_mono {m n m' n' : ℕ} (lower : m' ≤ m) (upper : n ≤ n') :
    lostTexts m n ⊆ lostTexts m' n' :=
  fun _ ⟨few, texts⟩ => ⟨⟨lower.trans few.1, few.2.trans upper⟩, texts⟩

theorem ofSipLogEvent_subset (build : Build) (config : Config) (exit : Exit) :
    (storeLeaks build).ofSipLogEvent build config exit ⊆
      lostTexts ((losesTexts build config).toNat * exit.count) (losesTexts build config).toNat := by
  have webhook : (storeLeaks build).ofWebhook build config = 0 := by
    unfold Leaks.ofWebhook storeLeaks
    split <;> rfl
  have json : (storeLeaks build).ofJsonLog build config ⊆
      lostTexts (losesTexts build config).toNat (losesTexts build config).toNat := by
    unfold Leaks.ofJsonLog storeLeaks losesTexts callsSink
    cases build.rust with
    | false =>
        simp only [Bool.false_eq_true, if_false, ite_self, Bool.false_and, Bool.toNat_false]
        exact zero_subset_lostTexts 0
    | true =>
        simp only [Bool.not_true, Bool.false_or, Bool.true_and, if_true]
        cases config.newMode && config.jsonLogMode with
        | false => exact zero_subset_lostTexts 0
        | true => exact lostText_subset
  cases exit with
  | success =>
      simp only [Leaks.ofSipLogEvent, Leaks.ofBadActorLog, webhook, add_zero, Exit.count, Nat.mul_one]
      exact json
  | failure =>
      simp only [Leaks.ofSipLogEvent, Leaks.ofBadActorLog, webhook, add_zero, Exit.count, Nat.mul_zero]
      apply Set.union_subset (Set.union_subset (zero_subset_lostTexts _) ?_) ?_
      · exact json.trans (lostTexts_mono (Nat.zero_le _) le_rfl)
      · exact json.trans (lostTexts_mono (Nat.zero_le _) le_rfl)

section Node
variable (node : Node)

theorem handleInput_refines (input : Input) :
    Simulates 0 (handleInput node input) (SentryPeer.handleInput node input)
      fun logged logged' => ⋃ _ : logged = logged',
        lostTexts ((losesTexts node.build node.config).toNat * logged')
          (losesTexts node.build node.config).toNat := by
  cases input with
  | packet listener payload peerAddr addr fresh answers =>
      simp only [handleInput, SentryPeer.handleInput]
      have refines := storeSinks_refine node.build node.jansson node.serde node.config answers
      have packet := logSipPacket_refines (fun p strings event =>
        sipLogEvent_refines refines node.config node.osip fresh .rust p strings event) listener
        (readPacketBuf payload.bytes) payload.bytes.length peerAddr addr
      cases received : logSipPacketEvent listener (readPacketBuf payload.bytes)
        payload.bytes.length peerAddr addr with
      | error abort => exact Simulates.pure ((zero_subset_lostTexts _).trans (subset_given _ rfl))
      | ok event =>
          rw [received] at packet
          apply packet.bind
          intro exit exit'
          apply Simulates.iUnion
          rintro rfl
          exact Simulates.pure ((ofSipLogEvent_subset _ _ _).trans (subset_given _ rfl))
  | value data expired lookup fresh answers =>
      simp only [handleInput, SentryPeer.handleInput]
      have refines := storeSinks_refine node.build node.jansson node.serde node.config answers
      apply (dhtValueCallback_refines refines node.config node.jansson (storeExists lookup) fresh
        data expired).bind
      intro _ _
      exact Simulates.pure ((ofSipLogEvent_subset _ _ _).trans (subset_given _ rfl))

theorem nodeRun_refines (inputs : List Input) :
    Simulates 0 (nodeRun node inputs) (SentryPeer.nodeRun node inputs)
      fun logged logged' => ⋃ _ : logged = logged',
        lostTexts ((losesTexts node.build node.config).toNat * logged')
          ((losesTexts node.build node.config).toNat * inputs.length) := by
  induction inputs with
  | nil => exact Simulates.pure ((zero_subset_lostTexts _).trans (subset_given _ rfl))
  | cons input rest ih =>
      unfold nodeRun SentryPeer.nodeRun
      apply (handleInput_refines node input).bind
      intro logged logged'
      apply Simulates.iUnion
      rintro rfl
      rw [← zero_add (lostTexts _ _)]
      apply ih.call
      intro others others'
      rw [Set.iUnion_add]
      apply Simulates.iUnion
      rintro rfl
      apply Simulates.pure
      refine Set.Subset.trans ?_ (subset_given _ rfl)
      refine (lostTexts_add _ _ _ _).trans (lostTexts_mono ?_ ?_)
      · rw [Nat.mul_add, Nat.add_comm]
      · rw [List.length_cons, Nat.mul_succ]

end Node

end SentryPeer.OnHeap
