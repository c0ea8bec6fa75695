import SentryPeer.Proof.Replication
import Mathlib.Data.Nat.Digits.Defs

/-!
# The event UUID as an identity

`uuid_parse` reads the digits of either letter case, the duplicate check compares texts. Two texts of
one UUID differ in nothing but the case of their letters.
-/

namespace SentryPeer.Proof
open Lib

/-! ## Texts of a UUID -/

/-- The 16 bytes of `uuid_t`, as one number. -/
def uuidParse (uuid : CStr) : Option (BitVec 128) :=
  if isValidUuid uuid then
    some (.ofNat 128 (Nat.ofDigits 16 (uuid.bytes.filterMap hexValue).reverse))
  else none

def lowerCase (b : UInt8) : UInt8 := if 65 ≤ b ∧ b ≤ 90 then b + 32 else b

def SameLetters (a b : CStr) : Prop := a.bytes.map lowerCase = b.bytes.map lowerCase

instance (a b : CStr) : Decidable (SameLetters a b) := inferInstanceAs (Decidable (_ = _))

theorem hexValue_lt {b : UInt8} {digit : Nat} (isDigit : hexValue b = some digit) : digit < 16 := by
  unfold hexValue at isDigit
  simp only [UInt8.le_iff_toNat_le, UInt8.reduceToNat] at isDigit
  split_ifs at isDigit
  all_goals
    simp only [Option.some.injEq] at isDigit
    omega

theorem isSome_hexValue (b : UInt8) : (hexValue b).isSome = isHexDigit b := by
  unfold hexValue isHexDigit
  split_ifs with number upper lower <;> grind

theorem lowerCase_of_hexValue {b : UInt8} {digit : Nat} (isDigit : hexValue b = some digit) :
    lowerCase b = hexDigit false digit := by
  unfold hexValue at isDigit
  unfold lowerCase hexDigit
  apply UInt8.toNat_inj.mp
  simp only [UInt8.le_iff_toNat_le, UInt8.reduceToNat] at isDigit ⊢
  split_ifs at isDigit ⊢
  all_goals
    simp only [Option.some.injEq, UInt8.toNat_add, UInt8.reduceToNat, UInt8.toNat_ofNat'] at *
  all_goals omega

/-- With `none` at the same places, the values that are there and their places determine all. -/
theorem map_eq_of_filterMap_eq {α β : Type} (f : α → Option β) {a b : List α}
    (places : a.map (fun x => (f x).isSome) = b.map (fun x => (f x).isSome))
    (values : a.filterMap f = b.filterMap f) : a.map f = b.map f := by
  induction a generalizing b with
  | nil =>
      rw [List.map_nil, eq_comm, List.map_eq_nil_iff] at places
      rw [places]
  | cons x a ih =>
      cases b with
      | nil => cases places
      | cons y b =>
          rw [List.map_cons, List.map_cons, List.cons.injEq] at places
          obtain ⟨here, places⟩ := places
          rw [List.map_cons, List.map_cons]
          cases first : f x with
          | none =>
              cases second : f y with
              | none =>
                  rw [List.filterMap_cons_none first, List.filterMap_cons_none second] at values
                  rw [ih places values]
              | some _ => simp [first, second] at here
          | some _ =>
              cases second : f y with
              | none => simp [first, second] at here
              | some _ =>
                  rw [List.filterMap_cons_some first, List.filterMap_cons_some second,
                    List.cons.injEq] at values
                  rw [ih places values.2, values.1]

theorem isValidUuid_each {uuid : CStr} (valid : isValidUuid uuid = true) :
    uuid.bytes.length = 36 ∧ ∀ i (inside : i < uuid.bytes.length),
      if i ∈ [8, 13, 18, 23] then uuid.bytes[i] = 0x2D else isHexDigit uuid.bytes[i] = true := by
  simp only [isValidUuid, Bool.and_eq_true, beq_iff_eq, List.all_eq_true] at valid
  obtain ⟨long, each⟩ := valid
  refine ⟨long, fun i inside => ?_⟩
  have here := each (uuid.bytes[i], i)
    (List.mk_mem_zipIdx_iff_getElem?.mpr (List.getElem?_eq_getElem inside))
  simp only at here
  split
  · rw [if_pos ‹_›] at here
    exact beq_iff_eq.mp here
  · rwa [if_neg ‹_›] at here

theorem isValidUuid_places {uuid : CStr} (valid : isValidUuid uuid = true) :
    uuid.bytes.map (fun b => (hexValue b).isSome) =
      (List.range 36).map fun i => !decide (i ∈ [8, 13, 18, 23]) := by
  obtain ⟨long, each⟩ := isValidUuid_each valid
  apply List.ext_getElem
  · simp [long]
  intro i inside _
  have here := each i (by simpa using inside)
  simp only [List.getElem_map, List.getElem_range, isSome_hexValue]
  by_cases hyphen : i ∈ [8, 13, 18, 23]
  · rw [if_pos hyphen] at here
    rw [here, decide_eq_true hyphen]
    decide
  · rw [if_neg hyphen] at here
    rw [here, decide_eq_false hyphen]
    rfl

def uuidChar : Option Nat → UInt8
  | some digit => hexDigit false digit
  | none => 0x2D

theorem isValidUuid_lowerCase {uuid : CStr} (valid : isValidUuid uuid = true) :
    uuid.bytes.map lowerCase = (uuid.bytes.map hexValue).map uuidChar := by
  rw [List.map_map]
  apply List.ext_getElem
  · simp
  intro i inside _
  have here := (isValidUuid_each valid).2 i (by simpa using inside)
  simp only [List.getElem_map, Function.comp_apply]
  split at here
  · rw [here]
    decide
  · rw [← isSome_hexValue, Option.isSome_iff_exists] at here
    obtain ⟨digit, isDigit⟩ := here
    rw [lowerCase_of_hexValue isDigit, isDigit]
    rfl

theorem length_digits {uuid : CStr} (valid : isValidUuid uuid = true) :
    (uuid.bytes.filterMap hexValue).length = 32 := by
  have counted : (uuid.bytes.filterMap hexValue).length =
      (uuid.bytes.map fun b => (hexValue b).isSome).count true := by
    rw [List.length_filterMap_eq_countP, List.count, List.countP_map]
    congr 1
    funext b
    simp
  rw [counted, isValidUuid_places valid]
  decide

theorem digits_lt {uuid : CStr} {digit : Nat}
    (member : digit ∈ (uuid.bytes.filterMap hexValue).reverse) : digit < 16 := by
  obtain ⟨b, -, isDigit⟩ := List.mem_filterMap.mp (List.mem_reverse.mp member)
  exact hexValue_lt isDigit

theorem sameLetters_of_uuidParse {a b : CStr} {value : BitVec 128}
    (first : uuidParse a = some value) (second : uuidParse b = some value) : SameLetters a b := by
  unfold uuidParse at first second
  split_ifs at first second with validA validB
  have lengthA := length_digits validA
  have lengthB := length_digits validB
  have bound (uuid : CStr) (long : (uuid.bytes.filterMap hexValue).length = 32) :
      Nat.ofDigits 16 (uuid.bytes.filterMap hexValue).reverse < 2 ^ 128 := by
    have below := Nat.ofDigits_lt_base_pow_length (b := 16) (by norm_num)
      (l := (uuid.bytes.filterMap hexValue).reverse) fun _ => digits_lt
    rw [List.length_reverse, long] at below
    exact below.trans_eq (by norm_num)
  have sameNumber : Nat.ofDigits 16 (a.bytes.filterMap hexValue).reverse =
      Nat.ofDigits 16 (b.bytes.filterMap hexValue).reverse := by
    have sameWord := congrArg BitVec.toNat (Option.some.inj (first.trans second.symm))
    rwa [BitVec.toNat_ofNat, BitVec.toNat_ofNat, Nat.mod_eq_of_lt (bound a lengthA),
      Nat.mod_eq_of_lt (bound b lengthB)] at sameWord
  have sameDigits := Nat.ofDigits_inj_of_len_eq (by norm_num) (by simp [lengthA, lengthB])
    (fun _ => digits_lt) (fun _ => digits_lt) sameNumber
  rw [List.reverse_inj] at sameDigits
  have sameValues := map_eq_of_filterMap_eq hexValue
    ((isValidUuid_places validA).trans (isValidUuid_places validB).symm) sameDigits
  rw [SameLetters, isValidUuid_lowerCase validA, isValidUuid_lowerCase validB, sameValues]

/-! ## Runs of the callback -/

/-- One call of `dht_value_callback`, and how the calls that it makes end. -/
structure Delivery where
  config : Config
  fresh : Fresh
  data : List UInt8
  expired : Bool
  answers : SinkAnswers

def Delivery.after (build : Build) (jansson : Jansson) (delivery : Delivery)
    (honey : List HoneyRow) : List HoneyRow :=
  (finalState (dhtValueCallback build jansson (nodeSinks jansson delivery.answers) nodeExists
    delivery.config delivery.fresh delivery.data delivery.expired ⟨honey, []⟩)).honey

def SameEvent (a b : HoneyRow) : Prop :=
  ∃ u v value, a.eventUuid = some u ∧ b.eventUuid = some v ∧
    uuidParse u = some value ∧ uuidParse v = some value

def DistinctEvents (honey : List HoneyRow) : Prop := honey.Pairwise fun a b => ¬ SameEvent a b

/-- The UUID of the value is not in the table with other letter case. -/
def SpeltAlike (jansson : Jansson) (delivery : Delivery) (honey : List HoneyRow) : Prop :=
  ∀ uuid, dhtValueUuid jansson delivery.config (.ofMemory delivery.data) = some uuid →
    ∀ row ∈ honey, ∀ stored, row.eventUuid = some stored → SameLetters stored uuid → stored = uuid

section Runs
variable {build : Build} {jansson : Jansson}

variable (build jansson) in
theorem Delivery.after_cases (delivery : Delivery) (honey : List HoneyRow) :
    delivery.after build jansson honey = honey ∨ ∃ uuid row,
      dhtValueUuid jansson delivery.config (.ofMemory delivery.data) = some uuid ∧
      (∀ other ∈ honey, other.eventUuid ≠ some uuid) ∧ row.eventUuid = some uuid ∧
      delivery.after build jansson honey = honey ++ [row] := by
  unfold Delivery.after
  rcases dhtValueCallback_final build jansson delivery.answers delivery.config delivery.fresh
    ⟨honey, []⟩ delivery.data delivery.expired with
    same | ⟨uuid, badActor, looked, absent, decoded, row⟩
  · rw [same]
    exact .inl rfl
  · rw [row]
    exact .inr ⟨uuid, honeyRow badActor, looked, absent,
      (admitted_of_looked looked absent decoded).1, rfl⟩

theorem Delivery.after_distinct {delivery : Delivery} {honey : List HoneyRow}
    (alike : SpeltAlike jansson delivery honey) (distinct : DistinctEvents honey) :
    DistinctEvents (delivery.after build jansson honey) := by
  rcases delivery.after_cases build jansson honey with
    same | ⟨uuid, row, looked, absent, isUuid, appended⟩
  · rwa [same]
  · rw [appended, DistinctEvents, List.pairwise_append]
    refine ⟨distinct, List.pairwise_singleton _ _, ?_⟩
    intro other member new isNew same
    obtain ⟨u, v, value, first, second, parsedU, parsedV⟩ := same
    rw [List.mem_singleton.mp isNew, isUuid] at second
    cases second
    have equal := alike uuid looked other member u first (sameLetters_of_uuidParse parsedU parsedV)
    rw [equal] at first
    exact absent other member first

theorem deliveries_distinct {reached : List HoneyRow}
    (run : Relation.ReflTransGen (fun honey after => ∃ delivery : Delivery,
      SpeltAlike jansson delivery honey ∧ after = delivery.after build jansson honey) [] reached) :
    DistinctEvents reached := by
  apply invariant_of_step _ _ run
  · rintro honey _ ⟨delivery, alike, rfl⟩ distinct
    exact delivery.after_distinct alike distinct
  · exact List.Pairwise.nil

end Runs

/-! ## One event in two spellings -/

def eventText (badActor : BadActor) : CStr :=
  compactJansson.dumps (flatObject (badActorMembers badActor))

def peerDelivery (badActor : BadActor) : Delivery :=
  ⟨plainConfig, someFresh, (eventText badActor).bytes, false, willingAnswers⟩

theorem eventText_encodes {badActor : BadActor} (utf8 : Utf8Fields badActor) :
    badActorToJson compactJansson badActor = some (eventText badActor) := by
  rw [badActorToJson, badActorJson_eq, if_pos utf8]
  rfl

theorem peerDelivery_after {badActor : BadActor} {nodeId uuid : CStr} {honey : List HoneyRow}
    (utf8 : Utf8Fields badActor) (byNode : badActor.createdByNodeId = some nodeId)
    (validId : isValidUuid nodeId = true)
    (foreign : plainConfig.nodeId.bytes.isPrefixOf nodeId.bytes = false)
    (isUuid : badActor.eventUuid = some uuid) (valid : isValidUuid uuid = true)
    (absent : ∀ row ∈ honey, row.eventUuid ≠ some uuid) :
    (peerDelivery badActor).after cBuild compactJansson honey =
      honey ++ [honeyRow (readBack badActor)] := by
  have reads : ∀ uuid, nodeExists uuid ⟨honey, []⟩ =
      .ok (dbBadActorExists (fun _ => true) uuid honey) ⟨honey, []⟩ := fun _ => rfl
  have loaded := loadb_badActorToJson compactJansson_decodes (eventText_encodes utf8)
  simp only [Delivery.after, peerDelivery]
  rw [dhtValueCallback_event _ reads loaded (List.cons_ne_nil _ _) byNode validId foreign isUuid
    valid absent]
  rfl

def upperActor : BadActor :=
  { peerActor with eventUuid := some (.lit "460F30E4-3B3B-4B3B-8B3B-0123456789AB") }

theorem peerActor_delivered :
    (peerDelivery peerActor).after cBuild compactJansson [] = [honeyRow peerActor] :=
  peerDelivery_after peerActor_utf8 rfl (by decide) (by decide) rfl (by decide)
    (List.forall_mem_nil _)

/-- The second value is the same event with its UUID in capitals, and both are stored. -/
theorem deliveries_upper_case_stored :
    ¬ DistinctEvents ((peerDelivery upperActor).after cBuild compactJansson
      ((peerDelivery peerActor).after cBuild compactJansson [])) := by
  rw [peerActor_delivered,
    peerDelivery_after (by decide) rfl (by decide) (by decide) rfl (by decide) (by decide)]
  intro distinct
  have apart := List.rel_of_pairwise_cons distinct (List.mem_singleton_self _)
  exact apart ⟨_, _, _, rfl, rfl, rfl, by decide⟩

theorem deliveries_distinct_redelivered :
    DistinctEvents ((peerDelivery peerActor).after cBuild compactJansson
      ((peerDelivery peerActor).after cBuild compactJansson [])) := by
  have first : SpeltAlike compactJansson (peerDelivery peerActor) [] :=
    fun _ _ _ member => nomatch member
  have second : SpeltAlike compactJansson (peerDelivery peerActor)
      ((peerDelivery peerActor).after cBuild compactJansson []) := by
    rw [peerActor_delivered]
    intro uuid looked row member stored isStored _
    have encoded := eventText_encodes peerActor_utf8
    simp only [peerDelivery, CStr.ofMemory_bytes] at looked
    rw [dhtValueUuid_badActorToJson compactJansson_decodes encoded looked]
    rw [List.mem_singleton.mp member] at isStored
    exact (Option.some.inj isStored).symm
  exact deliveries_distinct (.tail (.single ⟨_, first, rfl⟩) ⟨_, second, rfl⟩)

end SentryPeer.Proof
