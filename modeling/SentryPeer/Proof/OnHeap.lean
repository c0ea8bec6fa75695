import SentryPeer.Source.OnHeap
import Mathlib.Algebra.Group.Pointwise.Set.BigOperators

/-!
# The events on the heap refine the events as values

Each function on the heap does what the function on values does, uses no block that it does not own
and has given back what it allocated when it returns, the texts of the Rust encoder apart.
-/

namespace SentryPeer.OnHeap
open Lib Pointwise

/-! ## Records of strings -/

def stringAt (allocator : Allocator) : Option ℕ → Option CStr → Assertion Block
  | none, none => 0
  | some p, some text => pointsTo p (.string allocator text)
  | _, _ => ∅

theorem stringAt_some (allocator : Allocator) (p : ℕ) (text : CStr) :
    stringAt allocator (some p) (some text) = pointsTo p (.string allocator text) := rfl

theorem stringAt_cases {σ α γ : Type} {allocator : Allocator} {string : Option ℕ}
    {text : Option CStr} {P R : Assertion Block} {x : Program σ α} {v : EStateM Abort σ γ}
    {Q : α → γ → Assertion Block} (has : P = stringAt allocator string text + R)
    (null : string = none → text = none → Simulates P x v Q)
    (held : ∀ p t, string = some p → text = some t →
      P = pointsTo p (.string allocator t) + R → Simulates P x v Q) : Simulates P x v Q := by
  cases string with
  | none =>
      cases text with
      | none => exact null rfl rfl
      | some t => exact Simulates.vacuous (has.trans Set.empty_add)
  | some p =>
      cases text with
      | none => exact Simulates.vacuous (has.trans Set.empty_add)
      | some t => exact held p t rfl rfl has

section Records
variable {φ : Type}

/-- What is left of the strings once those of these fields have been freed. -/
def without [DecidableEq φ] (texts : φ → Option CStr) (fields : List φ) : φ → Option CStr :=
  fields.foldl (fun texts field => Function.update texts field none) texts

theorem without_apply [DecidableEq φ] (texts : φ → Option CStr) (fields : List φ) (field : φ) :
    without texts fields field = if field ∈ fields then none else texts field := by
  induction fields generalizing texts with
  | nil => rfl
  | cons first rest ih =>
      rw [without, List.foldl_cons, ← without, ih]
      by_cases same : field = first <;> simp [same]

variable [Fintype φ]

def stringsAt (allocator : Allocator) (strings : Strings φ) (texts : φ → Option CStr) :
    Assertion Block :=
  ∑ field, stringAt allocator (strings field) (texts field)

/-- A record at `self` and all its strings. -/
def recordAt (put : Strings φ → Block) (allocator : Allocator) (self : ℕ)
    (texts : φ → Option CStr) : Assertion Block :=
  ⋃ strings, pointsTo self (put strings) + stringsAt allocator strings texts

variable {allocator : Allocator} {strings : Strings φ} {texts : φ → Option CStr}

theorem recordAt_intro (put : Strings φ → Block) {self : ℕ} (strings : Strings φ) :
    pointsTo self (put strings) + stringsAt allocator strings texts ⊆
      recordAt put allocator self texts :=
  Set.subset_iUnion (fun strings => pointsTo self (put strings) + stringsAt allocator strings texts)
    strings

theorem stringAt_none (p : Option ℕ) : stringAt allocator p none ⊆ 0 := by
  cases p with
  | none => exact subset_rfl
  | some p => exact Set.empty_subset _

theorem stringAt_null (text : Option CStr) : stringAt allocator none text ⊆ 0 := by
  cases text with
  | none => exact subset_rfl
  | some text => exact Set.empty_subset _

theorem stringsAt_none : stringsAt allocator strings (fun _ => none) ⊆ 0 := by
  rw [stringsAt, ← Finset.sum_const_zero (s := Finset.univ (α := φ))]
  exact Set.finsetSum_subset_finsetSum _ _ _ fun field _ => stringAt_none (strings field)

variable [DecidableEq φ]

theorem stringsAt_split (field : φ) : stringsAt allocator strings texts =
    stringAt allocator (strings field) (texts field) +
      ∑ other ∈ Finset.univ.erase field, stringAt allocator (strings other) (texts other) :=
  (Finset.add_sum_erase _ _ (Finset.mem_univ field)).symm

theorem stringsAt_update (field : φ) (p : Option ℕ) (text : Option CStr) :
    stringsAt allocator (Function.update strings field p) (Function.update texts field text) =
      stringAt allocator p text +
        ∑ other ∈ Finset.univ.erase field, stringAt allocator (strings other) (texts other) := by
  rw [stringsAt_split field, Function.update_self, Function.update_self]
  congr 1
  apply Finset.sum_congr rfl
  intro other member
  have different := Finset.ne_of_mem_erase member
  rw [Function.update_of_ne different, Function.update_of_ne different]

variable {σ γ : Type} {c : γ} {view : View φ} {put : Strings φ → Block} {self : ℕ}

theorem setField_spec (lawful : ∀ strings, view (put strings) = some (strings, put)) (field : φ)
    (p : Option ℕ) (text : Option CStr) (unset : texts field = none) :
    Simulates (σ := σ) (stringAt allocator p text + recordAt put allocator self texts)
      (setField view self field p) (pure c)
      fun _ _ => recordAt put allocator self (Function.update texts field text) := by
  rw [recordAt, Set.add_iUnion]
  apply Simulates.iUnion
  intro strings
  unfold setField
  apply Simulates.load (R := stringAt allocator p text + stringsAt allocator strings texts)
    (add_left_comm _ _ _) (lawful strings)
  apply (Simulates.store (add_left_comm _ _ _)).post
  intro _ _
  refine Set.Subset.trans ?_ (recordAt_intro put (Function.update strings field p))
  rw [stringsAt_update, stringsAt_split field, unset]
  apply Set.add_subset_add_left
  apply Set.add_subset_add_left
  exact add_subset_of_subset_zero (stringAt_none _)

theorem freeField_spec (lawful : ∀ strings, view (put strings) = some (strings, put)) (field : φ) :
    Simulates (σ := σ) (recordAt put .c self texts) (freeField view self field) (pure c)
      fun _ _ => recordAt put .c self (Function.update texts field none) := by
  apply Simulates.iUnion
  intro strings
  unfold freeField
  apply Simulates.load rfl (lawful strings)
  have others : stringsAt .c (Function.update strings field none) (Function.update texts field none) =
      _ := stringsAt_update field none none
  rw [stringAt, zero_add] at others
  have cleared : pointsTo self (put (Function.update strings field none)) +
      (∑ other ∈ Finset.univ.erase field, stringAt .c (strings other) (texts other)) ⊆
      recordAt put .c self (Function.update texts field none) := by
    rw [← others]
    exact recordAt_intro _ _
  rw [stringsAt_split field]
  cases held : strings field with
  | none =>
      simp only [held]
      apply Simulates.pure
      refine Set.Subset.trans ?_ cleared
      rw [← held, Function.update_eq_self, held]
      apply Set.add_subset_add_left
      exact add_subset_of_subset_zero (stringAt_null _)
  | some p =>
      cases text : texts field with
      | none =>
          apply Simulates.vacuous
          simp [stringAt]
      | some text =>
          simp only [held]
          apply (Simulates.free (c := ()) (add_left_comm _ _ _) rfl).bindPure
          intro _
          exact (Simulates.store rfl).post fun _ _ => cleared

theorem freeFields_spec (lawful : ∀ strings, view (put strings) = some (strings, put))
    (fields : List φ) :
    Simulates (σ := σ) (recordAt put .c self texts) (forM fields (freeField view self)) (pure c)
      fun _ _ => recordAt put .c self (without texts fields) := by
  induction fields generalizing texts with
  | nil => exact Simulates.pure subset_rfl
  | cons first rest ih =>
      rw [List.forM_cons]
      exact (freeField_spec (c := ()) lawful first).bindPure fun _ => ih

theorem destroy_spec (lawful : ∀ strings, view (put strings) = some (strings, put))
    (ofC : ∀ strings, (put strings).ofC = true) {order : List φ} (every : ∀ field, field ∈ order) :
    Simulates (σ := σ) (recordAt put .c self texts) (destroy view self order) (pure c)
      fun _ _ => 0 := by
  apply (freeFields_spec (c := ()) lawful order).bindPure
  intro _
  have nothing : without texts order = fun _ => none :=
    funext fun field => by rw [without_apply, if_pos (every field)]
  rw [nothing]
  apply Simulates.iUnion
  intro strings
  exact (Simulates.free rfl (ofC strings)).post fun _ _ => stringsAt_none

theorem readField {ω δ : Type} {w : EStateM Abort σ ω} {Q : δ → ω → Assertion Block}
    {P R : Assertion Block} {f : Option CStr → Program σ δ} {field : φ}
    (has : P = stringsAt allocator strings texts + R) (rest : Simulates P (f (texts field)) w Q) :
    Simulates P (readString (strings field) >>= f) w Q := by
  have split := has.trans (congrArg (· + R) (stringsAt_split field))
  rw [add_assoc] at split
  apply stringAt_cases split
  · intro null unset
    rw [unset] at rest
    rw [null]
    exact rest
  · intro p text string set at_p
    rw [set] at rest
    rw [string]
    simp only [readString, loadString, bind_assoc, pure_bind]
    exact Simulates.load at_p rfl rest

/-- A read leaves the strings as they are. -/
theorem readStrings_spec (fields : List φ) {P R : Assertion Block}
    (has : P = stringsAt allocator strings texts + R) :
    Simulates (σ := σ) P (readStrings strings fields) (pure c)
      fun read _ => ⋃ _ : ∀ field ∈ fields, read field = texts field, P := by
  induction fields with
  | nil =>
      apply Simulates.pure
      intro owned member
      simpa using member
  | cons first rest ih =>
      apply readField has
      apply ih.bindPure
      intro read
      apply Simulates.iUnion
      intro same
      apply Simulates.pure
      have same' : ∀ field ∈ first :: rest,
          Function.update read first (texts first) field = texts field := by
        intro field member
        by_cases first : field = first
        · simp [first]
        · rw [Function.update_of_ne first]
          exact same field (List.mem_of_ne_of_mem first member)
      exact subset_given P same'

end Records

/-! ## Strings and the two records -/

def badActorAt (p : ℕ) (badActor : BadActor) : Assertion Block :=
  recordAt .badActor .c p badActor.string

/-- An event and its strings. -/
def eventAt (allocator : Allocator) (p : ℕ) (strings : Strings EventField)
    (event : SipMessageEvent) : Assertion Block :=
  pointsTo p (.sipMessageEvent strings event.packetLen) +
    stringsAt allocator strings event.string

variable {σ γ : Type} {c : γ} {allocator : Allocator} {self : ℕ} {P R : Assertion Block}

theorem abort_spec (error : Abort) {α : Type} {Q : α → γ → Assertion Block} :
    Simulates (σ := σ) P (abort error) (fromExcept (.error error)) Q :=
  fun _ _ _ => ⟨_, rfl, rfl⟩

theorem duplicatePart_spec (part : Option CStr) :
    Simulates (σ := σ) P (utilDuplicateString (.ofPart part))
      (fromExcept (SentryPeer.utilDuplicateString part))
      fun p text => pointsTo p (.string .c text) + P := by
  cases part with
  | none => exact abort_spec _
  | some text => exact Simulates.malloc P _ text

theorem duplicateField_spec {φ : Type} [Fintype φ] [DecidableEq φ] {strings : Strings φ}
    (texts : φ → Option CStr) (field : φ) (has : P = stringsAt allocator strings texts + R) :
    Simulates (σ := σ) P (utilDuplicateString (.ofNullable (strings field)))
      (fromExcept (SentryPeer.utilDuplicateString (texts field)))
      fun p text => pointsTo p (.string .c text) + P := by
  have split := has.trans (congrArg (· + R) (stringsAt_split field))
  rw [add_assoc] at split
  apply stringAt_cases split
  · intro null unset
    rw [null, unset]
    exact abort_spec _
  · intro p text string set at_p
    rw [string, set]
    exact Simulates.load at_p rfl (Simulates.malloc P _ text)

theorem readBadActor_spec (badActor : BadActor) :
    Simulates (σ := σ) (badActorAt self badActor) (readBadActor self) (pure c)
      fun read _ => ⋃ _ : read = badActor, badActorAt self badActor := by
  apply Simulates.iUnion
  intro strings
  unfold readBadActor
  apply Simulates.load rfl (rfl : badActorView (.badActor strings) = some (strings, .badActor))
  apply (readStrings_spec (c := ()) _ (add_comm _ _)).bindPure
  intro read
  apply Simulates.iUnion
  intro same
  apply Simulates.pure
  have whole : BadActor.ofStrings read = badActor := by
    simp only [List.forall_mem_cons] at same
    obtain ⟨h1, h2, h3, h4, h5, h6, h7, h8, h9, h10, h11, h12, h13, -⟩ := same
    simp only [BadActor.ofStrings, h1, h2, h3, h4, h5, h6, h7, h8, h9, h10, h11, h12, h13]
    rfl
  exact (recordAt_intro .badActor strings).trans (subset_given _ whole)

theorem badActorDestroy_spec (badActor : BadActor) :
    Simulates (σ := σ) (badActorAt self badActor) (badActorDestroy self) (pure c)
      fun _ _ => 0 :=
  destroy_spec (fun _ => rfl) (fun _ => rfl) (by rintro (_ | _) <;> simp)

theorem sipMessageEventDestroy_spec {packetLen : ℕ}
    (texts : EventField → Option CStr) :
    Simulates (σ := σ) (recordAt (fun strings => .sipMessageEvent strings packetLen) .c self texts)
      (sipMessageEventDestroy self) (pure c) fun _ _ => 0 :=
  destroy_spec (fun _ => rfl) (fun _ => rfl) (by rintro (_ | _) <;> simp)

theorem stringsAt_badActor (strings : Strings BadActorField) (texts : BadActorField → Option CStr) :
    stringsAt allocator strings texts = ([.eventTimestamp, .eventUuid, .collectedMethod,
      .createdByNodeId, .sipMessage, .sourceIp, .destinationIp, .calledNumber, .method,
      .transportType, .userAgent, .seenLast, .seenCount].map fun field =>
        stringAt allocator (strings field) (texts field)).sum :=
  List.sum_toFinset _ (by decide)

theorem stringsAt_event (strings : Strings EventField) (texts : EventField → Option CStr) :
    stringsAt allocator strings texts = ([.packet, .transportType, .clientIpAddrStr,
      .destIpAddrStr].map fun field => stringAt allocator (strings field) (texts field)).sum :=
  List.sum_toFinset _ (by decide)

theorem badActorNew_spec {fresh : Fresh} {nodeId : CStr} {sipMessage sourceIp destinationIp
    calledNumber method transportType userAgent collectedMethod : Option ℕ} {badActor : BadActor}
    {message source destination called verb transport agent collected : Option CStr}
    (built : SentryPeer.badActorNew fresh message source destination called verb transport agent
      collected (some nodeId) = .ok badActor)
    (has : P = stringAt .c sipMessage message + (stringAt .c sourceIp source +
      (stringAt .c destinationIp destination + (stringAt .c calledNumber called +
        (stringAt .c method verb + (stringAt .c transportType transport +
          (stringAt .c userAgent agent + (stringAt .c collectedMethod collected + R)))))))) :
    Simulates (σ := σ) P (badActorNew fresh sipMessage sourceIp destinationIp calledNumber method
      transportType userAgent collectedMethod (.borrowed nodeId)) (pure c)
      fun self _ => badActorAt self badActor + R := by
  unfold badActorNew
  apply (Simulates.malloc P _ ()).bindPure
  intro self
  apply (Simulates.malloc _ _ ()).bindPure
  intro timeStr
  apply (Simulates.malloc _ _ ()).bindPure
  intro uuidString
  apply (Simulates.malloc _ _ ()).bindPure
  intro nodeIdPtr
  apply (Simulates.store (c := ()) (R := pointsTo nodeIdPtr (.string .c nodeId) +
    (pointsTo uuidString (.string .c fresh.uuid) +
      (pointsTo timeStr (.string .c fresh.timestamp) + P))) (by ac_rfl)).bindPure
  intro _
  apply Simulates.pure
  have made : pointsTo self (.badActor (badActorStrings timeStr uuidString sipMessage sourceIp
      destinationIp calledNumber method transportType userAgent collectedMethod nodeIdPtr)) +
      stringsAt .c _ badActor.string ⊆ badActorAt self badActor := recordAt_intro _ _
  refine Set.Subset.trans (Eq.subset ?_) (Set.add_subset_add_right made)
  cases built
  rw [has, stringsAt_badActor]
  simp only [List.map_cons, List.map_nil, List.sum_cons, List.sum_nil, badActorStrings,
    BadActor.string, stringAt, add_zero]
  ac_rfl

theorem setField_badActor (badActor after : BadActor) (field : BadActorField) (p : Option ℕ)
    (text : Option CStr) (unset : badActor.string field = none)
    (set : after.string = Function.update badActor.string field text) :
    Simulates (σ := σ) (stringAt .c p text + badActorAt self badActor)
      (setField badActorView self field p) (pure c) fun _ _ => badActorAt self after := by
  rw [badActorAt, badActorAt, set]
  exact setField_spec (fun _ => rfl) field p text unset

/-! ## `sip_parser.c` -/

theorem calledNumberOf_borrowed (message : OsipMessage) : ∃ text,
    calledNumberOf message = .borrowed text ∧ SentryPeer.calledNumberOf message = .ok text := by
  obtain ⟨method, _ | ⟨_ | ⟨_ | username⟩⟩, agent⟩ := message <;> exact ⟨_, rfl, rfl⟩

theorem userAgentOf_borrowed (message : OsipMessage) : ∃ text,
    userAgentOf message = .borrowed text ∧ SentryPeer.userAgentOf message = .ok text := by
  obtain ⟨method, header, _ | ⟨_ | hvalue⟩⟩ := message
  · exact ⟨_, rfl, rfl⟩
  · exact ⟨_, rfl, rfl⟩
  · by_cases empty : hvalue.bytes = []
    · exact ⟨_, if_pos empty, if_pos empty⟩
    · exact ⟨_, if_neg empty, if_neg empty⟩

theorem clearField_badActor (badActor : BadActor) (field : BadActorField)
    (unset : badActor.string field = none) :
    Simulates (σ := σ) (badActorAt self badActor) (setField badActorView self field none) (pure c)
      fun _ _ => badActorAt self badActor := by
  have same : badActor.string = Function.update badActor.string field none := by
    rw [← unset, Function.update_eq_self]
  rw [← zero_add (badActorAt self badActor)]
  apply (setField_badActor badActor badActor field none none unset same).post
  intro _ _
  rw [zero_add]


theorem reassign_spec (badActor : BadActor) (after : CStr → BadActor) {string : CharPtr} {value : Except Abort CStr}
    (duplicates : ∀ P : Assertion Block, Simulates (σ := σ) P (utilDuplicateString string)
      (fromExcept value) fun p text => pointsTo p (.string .c text) + P)
    (field : BadActorField) (unset : badActor.string field = none)
    (set : ∀ text, (after text).string = Function.update badActor.string field (some text)) :
    Simulates (σ := σ) (badActorAt self badActor + R) (reassign self field string)
      (fromExcept value) fun _ text => badActorAt self (after text) + R := by
  apply (clearField_badActor (c := ()) badActor field unset).callPure
  intro _
  rw [← bind_pure (fromExcept value)]
  apply (duplicates _).bind
  intro p text
  rw [← add_assoc, ← bind_pure (setField badActorView self field (some p))]
  apply (setField_badActor (c := ()) badActor (after text) field (some p) (some text) unset
    (set text)).callPure
  intro _
  exact Simulates.pure subset_rfl

theorem osipMessageFree_spec {p : ℕ} {message : Option OsipMessage}
    (has : P = pointsTo p (.osipMessage message) + R) :
    Simulates (σ := σ) P (osipMessageFree p) (pure c) fun _ _ => R :=
  Simulates.free has rfl

theorem osipMessageOf_bind {α δ : Type} {f : OsipMessage → Program σ α} {w : EStateM Abort σ δ}
    {Q : α → δ → Assertion Block} {p : ℕ} {message : OsipMessage}
    (has : P = pointsTo p (.osipMessage (some message)) + R) (rest : Simulates P (f message) w Q) :
    Simulates P (osipMessageOf p >>= f) w Q :=
  Simulates.load has rfl rest

theorem fields_of_message_spec {badActor : BadActor} {parsed : ℕ} (message : OsipMessage)
    (text : CStr) (sipMessage : badActor.sipMessage = none) (method : badActor.method = none)
    (calledNumber : badActor.calledNumber = none) (userAgent : badActor.userAgent = none) :
    Simulates (σ := σ) (badActorAt self badActor +
        (pointsTo parsed (.osipMessage (some message)) + R))
      (do
        setField badActorView self .sipMessage (some (← malloc (.string .c text)))
        let message ← osipMessageOf parsed
        reassign self .method (.ofPart message.sipMethod)
        reassign self .calledNumber (calledNumberOf message)
        reassign self .userAgent (userAgentOf message)
        osipMessageFree parsed
        return Exit.success)
      (do
        let method ← fromExcept (SentryPeer.utilDuplicateString message.sipMethod)
        let calledNumber ← fromExcept (SentryPeer.calledNumberOf message)
        let userAgent ← fromExcept (SentryPeer.userAgentOf message)
        return (Exit.success, { badActor with
          sipMessage := some text
          method := some method
          calledNumber := some calledNumber
          userAgent := some userAgent }))
      fun exit result => ⋃ _ : exit = result.1, badActorAt self result.2 + R := by
  apply (Simulates.malloc _ _ ()).bindPure
  intro textPtr
  rw [← add_assoc]
  apply (setField_badActor (c := ()) badActor { badActor with sipMessage := some text } .sipMessage
    (some textPtr) (some text) sipMessage (by funext f; cases f <;> rfl)).callPure
  intro _
  apply osipMessageOf_bind (add_left_comm _ _ _)
  apply (reassign_spec { badActor with sipMessage := some text }
    (fun verb => { badActor with sipMessage := some text, method := some verb })
    (fun _ => duplicatePart_spec _) .method method (fun _ => by funext f; cases f <;> rfl)).bind
  intro _ verb
  obtain ⟨called, borrowed, value⟩ := calledNumberOf_borrowed message
  rw [borrowed, value]
  apply (reassign_spec { badActor with sipMessage := some text, method := some verb }
    (fun called => { badActor with
      sipMessage := some text, method := some verb, calledNumber := some called })
    (fun _ => duplicatePart_spec (some called)) .calledNumber calledNumber
    (fun _ => by funext f; cases f <;> rfl)).bind
  intro _ called
  obtain ⟨agent, borrowed, value⟩ := userAgentOf_borrowed message
  rw [borrowed, value]
  apply (reassign_spec
    { badActor with sipMessage := some text, method := some verb, calledNumber := some called }
    (fun agent => { badActor with
      sipMessage := some text, method := some verb, calledNumber := some called
      userAgent := some agent })
    (fun _ => duplicatePart_spec (some agent)) .userAgent userAgent
    (fun _ => by funext f; cases f <;> rfl)).bind
  intro _ agent
  apply (osipMessageFree_spec (c := ()) (add_left_comm _ _ _)).bindPure
  intro _
  exact Simulates.pure (subset_given _ rfl)

theorem sipMessageParser_spec {φ : Type} [Fintype φ] [DecidableEq φ] {strings : Strings φ}
    (texts : φ → Option CStr) (osip : Osip) (field : φ) (packetSize : ℕ) {badActor : BadActor}
    (sipMessage : badActor.sipMessage = none) (method : badActor.method = none)
    (calledNumber : badActor.calledNumber = none) (userAgent : badActor.userAgent = none) :
    Simulates (σ := σ) (badActorAt self badActor + (stringsAt allocator strings texts + R))
      (sipMessageParser osip (strings field) packetSize self)
      (fromExcept (SentryPeer.sipMessageParser osip (texts field) packetSize badActor))
      fun exit result => ⋃ _ : exit = result.1,
        badActorAt self result.2 + (stringsAt allocator strings texts + R) := by
  unfold sipMessageParser SentryPeer.sipMessageParser
  cases osip.messageInit with
  | false => exact Simulates.pure (subset_given _ rfl)
  | true =>
      simp only [Bool.not_true, Bool.false_eq_true, if_false]
      apply (Simulates.malloc _ _ ()).bindPure
      intro parsed
      cases osip.parserInit with
      | false =>
          apply (osipMessageFree_spec (c := ()) rfl).bindPure
          intro _
          exact Simulates.pure (subset_given _ rfl)
      | true =>
          simp only [Bool.not_true, Bool.false_eq_true, if_false]
          apply readField (R := pointsTo parsed (.osipMessage none) + (badActorAt self badActor + R))
            (by ac_rfl)
          cases osip.messageParse (texts field) packetSize with
          | none =>
              apply (osipMessageFree_spec (c := ()) rfl).bindPure
              intro _
              exact Simulates.pure (subset_given _ rfl)
          | some message =>
              apply (Simulates.store (c := ()) rfl).bindPure
              intro _
              rw [add_left_comm]
              apply (clearField_badActor (c := ()) badActor .sipMessage sipMessage).callPure
              intro _
              cases printed : osip.messageToStr message with
              | none =>
                  apply (osipMessageFree_spec (c := ()) (add_left_comm _ _ _)).bindPure
                  intro _
                  simp only [printed]
                  apply Simulates.pure
                  rw [← sipMessage]
                  exact subset_given _ rfl
              | some text =>
                  simp only [printed, fromExcept_bind]
                  exact fields_of_message_spec message text sipMessage method calledNumber userAgent

/-! ## The codecs -/

theorem loadString_bind {α δ : Type} {f : CStr → Program σ α} {w : EStateM Abort σ δ}
    {Q : α → δ → Assertion Block} {p : ℕ} {text : CStr}
    (has : P = pointsTo p (.string allocator text) + R) (rest : Simulates P (f text) w Q) :
    Simulates P (loadString p >>= f) w Q :=
  Simulates.load has rfl rest

theorem badActorToJson_spec (jansson : Jansson) (badActor : BadActor) :
    Simulates (σ := σ) (badActorAt self badActor) (badActorToJson jansson self)
      (pure (SentryPeer.badActorToJson jansson badActor))
      fun p text => stringAt .c p text + badActorAt self badActor := by
  unfold badActorToJson SentryPeer.badActorToJson
  apply (readBadActor_spec (c := ()) badActor).bindPure
  intro read
  apply Simulates.iUnion
  rintro rfl
  cases badActorJson read with
  | none =>
      apply Simulates.pure
      exact (zero_add _).ge
  | some value =>
      apply (Simulates.malloc _ _ ()).bindPure
      intro json
      apply (Simulates.malloc _ _ ()).bindPure
      intro text
      apply (Simulates.free (c := ()) (add_left_comm _ _ _) rfl).bindPure
      intro _
      exact Simulates.pure subset_rfl

theorem badActorToJsonRs_spec (serde : Serde) (badActor : BadActor) :
    Simulates (σ := σ) (badActorAt self badActor) (badActorToJsonRs serde self)
      (fromExcept (SentryPeer.badActorToJsonRs serde badActor))
      fun p text => stringAt .rust p text + badActorAt self badActor := by
  unfold badActorToJsonRs
  apply (readBadActor_spec (c := ()) badActor).bindPure
  intro read
  apply Simulates.iUnion
  rintro rfl
  apply Simulates.onRestLast
  intro text
  cases text with
  | none =>
      apply Simulates.pure
      exact (zero_add _).ge
  | some text =>
      apply (Simulates.malloc _ _ ()).bindPure
      intro p
      exact Simulates.pure subset_rfl

theorem jsonOf_bind {α δ : Type} {f : Json → Program σ α} {w : EStateM Abort σ δ}
    {Q : α → δ → Assertion Block} {p : ℕ} {value : Json} (has : P = pointsTo p (.json value) + R)
    (rest : Simulates P (f value) w Q) : Simulates P (jsonOf p >>= f) w Q :=
  Simulates.load has rfl rest

theorem assignField_spec {json : ℕ} (value : Json) {texts : BadActorField → Option CStr}
    (assignment : BadActorField × String) (unset : texts assignment.1 = none) :
    Simulates (σ := σ) (recordAt .badActor .c self texts + (pointsTo json (.json value) + R))
      (assignField json self assignment) (fromExcept (jsonField value assignment.2))
      fun _ text => recordAt .badActor .c self (Function.update texts assignment.1 (some text)) +
        (pointsTo json (.json value) + R) := by
  unfold assignField jsonField
  apply jsonOf_bind (add_left_comm _ _ _)
  rw [← bind_pure (fromExcept _)]
  apply (duplicatePart_spec _).bind
  intro p text
  rw [← add_assoc, ← bind_pure (setField _ _ _ _)]
  apply (setField_spec (c := ()) (fun _ => rfl) assignment.1 (some p) (some text) unset).callPure
  intro _
  exact Simulates.pure subset_rfl

def badActorOrNullAt : Option ℕ → Option BadActor → Assertion Block
  | none, none => 0
  | some p, some badActor => badActorAt p badActor
  | _, _ => ∅

theorem jsonToBadActor_spec (jansson : Jansson) (config : Config) (fresh : Fresh) {p : ℕ}
    {text : CStr} (has : P = pointsTo p (.string .c text) + R) :
    Simulates (σ := σ) P (jsonToBadActor jansson config fresh p)
      (fromExcept (SentryPeer.jsonToBadActor jansson config fresh text))
      fun self badActor => badActorOrNullAt self badActor + P := by
  unfold jsonToBadActor SentryPeer.jsonToBadActor
  apply loadString_bind has
  cases jansson.loadb text.bytes with
  | none =>
      apply Simulates.pure
      exact (zero_add _).ge
  | some value =>
      apply (Simulates.malloc _ _ ()).bindPure
      intro json
      simp only [badActorOfJson]
      cases jsonValidates value badActorKeys with
      | false =>
          apply (Simulates.free (c := ()) rfl rfl).bindPure
          intro _
          apply Simulates.pure
          exact (zero_add _).ge
      | true =>
          simp only [Bool.not_true, Bool.false_eq_true, if_false, fromExcept_bind]
          have built : SentryPeer.badActorNew fresh none none none none none none none none
              (some config.nodeId) = .ok _ := rfl
          rw [built]
          apply (badActorNew_spec (c := ()) (R := pointsTo json (.json value) + P) built (by
            simp only [stringAt, zero_add])).bindPure
          intro self
          rw [fromExcept_ok, pure_bind, badActorAt]
          apply (freeField_spec (φ := BadActorField) (c := ()) (fun _ => rfl) .eventTimestamp).callPure
          intro _
          apply (freeField_spec (φ := BadActorField) (c := ()) (fun _ => rfl) .eventUuid).callPure
          intro _
          apply (freeField_spec (φ := BadActorField) (c := ()) (fun _ => rfl) .createdByNodeId).callPure
          intro _
          simp only [decodedFields, List.forM_cons, List.forM_nil, bind_assoc, pure_bind]
          apply (assignField_spec value (.eventTimestamp, "event_timestamp") rfl).bind
          intro _ timestamp
          apply (assignField_spec value (.eventUuid, "event_uuid") rfl).bind
          intro _ uuid
          apply (assignField_spec value (.createdByNodeId, "created_by_node_id") rfl).bind
          intro _ nodeId
          apply (assignField_spec value (.collectedMethod, "collected_method") rfl).bind
          intro _ collectedMethod
          apply (assignField_spec value (.transportType, "transport_type") rfl).bind
          intro _ transportType
          apply (assignField_spec value (.sourceIp, "source_ip") rfl).bind
          intro _ sourceIp
          apply (assignField_spec value (.destinationIp, "destination_ip") rfl).bind
          intro _ destinationIp
          apply (assignField_spec value (.calledNumber, "called_number") rfl).bind
          intro _ calledNumber
          apply (assignField_spec value (.method, "sip_method") rfl).bind
          intro _ method
          apply (assignField_spec value (.userAgent, "sip_user_agent") rfl).bind
          intro _ userAgent
          apply (assignField_spec value (.sipMessage, "sip_message") rfl).bind
          intro _ sipMessage
          apply (Simulates.free (c := ()) (add_left_comm _ _ _) rfl).bindPure
          intro _
          apply Simulates.pure
          apply Set.add_subset_add_right
          apply Eq.subset
          unfold badActorOrNullAt badActorAt
          congr 1
          funext field
          cases field <;> rfl

/-! ## The sinks -/

/-- A call that is lent an event and leaves something behind besides. -/
def Borrows (x : ℕ → Program σ Exit) (v : BadActor → EStateM Abort σ Exit)
    (leak : Assertion Block) : Prop :=
  ∀ p badActor, Simulates (badActorAt p badActor) (x p) (v badActor)
    fun e e' => ⋃ _ : e = e', badActorAt p badActor + leak

theorem dbInsertBadActor_borrows (answer : InsertCall → Bool) :
    Borrows (dbInsertBadActor answer) (fun badActor s =>
      let inserted := SentryPeer.dbInsertBadActor answer badActor s.honey
      .ok inserted.1 { s with honey := inserted.2 }) 0 := by
  intro p badActor
  unfold dbInsertBadActor
  apply (readBadActor_spec (c := ()) badActor).bindPure
  intro read
  apply Simulates.iUnion
  rintro rfl
  rw [add_zero]
  exact Simulates.onRestEnd

def lineWritten (io : LogIo) (text : CStr) : EStateM Abort Stores Unit := modify fun s =>
  { s with jsonLog := io.append s.jsonLog (text.bytes ++ [0x0A]) }

theorem jsonLogBadActor_statements {build : Build} (ofC : build.rust = false) (jansson : Jansson)
    (serde : Serde) (io : LogIo) (badActor : BadActor) :
    onJsonLog (SentryPeer.jsonLogBadActor build jansson serde io badActor) = (do
      if !io.opens then return .failure
      match SentryPeer.badActorToJson jansson badActor with
      | none => return .failure
      | some text =>
          lineWritten io text
          if !io.closes then return .failure
          return .success) := by
  funext s
  unfold onJsonLog SentryPeer.jsonLogBadActor logEncoder lineWritten
  rw [ofC]
  obtain ⟨opens, writes, arrived, closes⟩ := io
  cases opens <;> cases closes <;> cases SentryPeer.badActorToJson jansson badActor <;> rfl

theorem jsonLogBadActor_borrows {build : Build} (ofC : build.rust = false) (jansson : Jansson)
    (serde : Serde) (io : LogIo) :
    Borrows (jsonLogBadActor build jansson serde io)
      (fun badActor => onJsonLog (SentryPeer.jsonLogBadActor build jansson serde io badActor)) 0 := by
  intro p badActor
  beta_reduce
  rw [jsonLogBadActor_statements ofC, add_zero]
  unfold jsonLogBadActor
  rw [ofC]
  cases io.opens with
  | false => exact Simulates.pure (subset_given _ rfl)
  | true =>
      apply (badActorToJson_spec jansson badActor).bindPure
      intro string
      apply stringAt_cases rfl
      · rintro rfl unset
        rw [unset, stringAt, zero_add]
        exact Simulates.pure (subset_given _ rfl)
      · rintro p text rfl set -
        rw [set]
        apply loadString_bind rfl
        apply Simulates.onRest
        intro _
        apply (Simulates.free (c := ()) rfl rfl).bindPure
        intro _
        cases io.closes <;> exact Simulates.pure (subset_given _ rfl)

/-- The text of an encoded event that nothing frees. -/
def lostText : Assertion Block := ⋃ p, ⋃ text, pointsTo p (.string .rust text)

theorem lostText_intro (p : ℕ) (text : CStr) : pointsTo p (.string .rust text) ⊆ lostText :=
  Set.subset_iUnion₂ (s := fun p text => pointsTo p (Block.string .rust text)) p text

theorem jsonLogBadActorRs_statements (serde : Serde) (io : LogIo) (config : Config)
    (badActor : BadActor) :
    onJsonLog (SentryPeer.jsonLogBadActorRs serde io config badActor) = (do
      if !validUtf8 config.jsonLogFile.bytes then fromExcept (.error (.panic .jsonLogBadActorRs))
      match ← fromExcept (SentryPeer.badActorToJsonRs serde badActor) with
      | none => fromExcept (.error (.nullPointer .jsonLogBadActorRs))
      | some text =>
          if !io.opens then return .failure
          lineWritten io text
          if !io.writes then return .failure
          return .success) := by
  funext s
  unfold onJsonLog SentryPeer.jsonLogBadActorRs lineWritten
  obtain ⟨opens, writes, arrived, closes⟩ := io
  cases validUtf8 config.jsonLogFile.bytes <;>
    cases SentryPeer.badActorToJsonRs serde badActor with
    | error e => rfl
    | ok text => cases text <;> cases opens <;> cases writes <;> rfl

theorem jsonLogBadActorRs_borrows (serde : Serde) (io : LogIo) (config : Config) :
    Borrows (jsonLogBadActorRs serde io config)
      (fun badActor => onJsonLog (SentryPeer.jsonLogBadActorRs serde io config badActor))
      lostText := by
  intro p badActor
  beta_reduce
  rw [jsonLogBadActorRs_statements]
  unfold jsonLogBadActorRs
  cases validUtf8 config.jsonLogFile.bytes with
  | false => exact (abort_spec (P := badActorAt p badActor) _).bind fun _ _ => Simulates.vacuous rfl
  | true =>
      apply (badActorToJsonRs_spec serde badActor).bind
      intro string text
      apply stringAt_cases rfl
      · rintro rfl rfl
        exact abort_spec _
      · rintro json text rfl rfl -
        apply loadString_bind rfl
        have lost : pointsTo json (.string .rust text) + badActorAt p badActor ⊆
            badActorAt p badActor + lostText := by
          rw [add_comm]
          apply Set.add_subset_add_left
          exact lostText_intro json text
        cases io.opens with
        | false => exact Simulates.pure (lost.trans (subset_given _ rfl))
        | true =>
            apply Simulates.onRest
            intro _
            cases io.writes <;> exact Simulates.pure (lost.trans (subset_given _ rfl))

theorem peerToPeerDhtSave_borrows (jansson : Jansson) (put : CStr → EStateM Abort σ Unit)
    (started created : Bool) : Borrows (peerToPeerDhtSave jansson put started created)
      (SentryPeer.peerToPeerDhtSave jansson put started created) 0 := by
  intro self badActor
  unfold peerToPeerDhtSave SentryPeer.peerToPeerDhtSave
  rw [add_zero]
  apply (Simulates.malloc _ _ ()).bindPure
  intro ctx
  cases started with
  | false =>
      apply (abort_spec _).bind
      intro _ _
      exact Simulates.vacuous rfl
  | true =>
      rw [add_comm]
      apply (badActorToJson_spec jansson badActor).callPure
      intro string
      rw [add_assoc]
      apply stringAt_cases rfl
      · rintro rfl unset
        rw [unset, stringAt, zero_add]
        apply (Simulates.free (c := ()) (add_comm _ _) rfl).bindPure
        intro _
        exact Simulates.pure (subset_given _ rfl)
      · rintro p text rfl set -
        rw [set]
        cases created with
        | false =>
            apply (Simulates.free (c := ()) rfl rfl).bindPure
            intro _
            apply (Simulates.free (c := ()) (add_comm _ _) rfl).bindPure
            intro _
            exact Simulates.pure (subset_given _ rfl)
        | true =>
            apply loadString_bind rfl
            apply (Simulates.malloc _ _ ()).bindPure
            intro val
            apply Simulates.onRest
            intro _
            apply (Simulates.free (c := ()) (R := pointsTo val (.dhtValue text) +
              (pointsTo p (.string .c text) + badActorAt self badActor)) (by ac_rfl) rfl).bindPure
            intro _
            apply (Simulates.free (c := ()) rfl rfl).bindPure
            intro _
            apply (Simulates.free (c := ()) rfl rfl).bindPure
            intro _
            exact Simulates.pure (subset_given _ rfl)

end SentryPeer.OnHeap
