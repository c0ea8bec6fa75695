import SentryPeer.Proof.Collect
import SentryPeer.Proof.Numbers

/-!
# Listings after one more event

An event whose texts are UTF-8 leaves everything in the listings that was there. The parser of SIP
messages passes on whatever bytes a called number has, and one that starts with a plus and is not
UTF-8 empties the listing of the numbers.
-/

namespace SentryPeer.Proof
open Lib

/-! ## One more row -/

theorem maxText_append (texts : List (Option CStr)) (text : Option CStr) :
    maxText (texts ++ [text]) = maxText texts ∨ maxText (texts ++ [text]) = text := by
  simp only [maxText, greatest, List.foldl_append, List.foldl_cons, List.foldl_nil]
  split
  · exact .inr rfl
  · exact .inl rfl

section Append
variable {listing : Listing} {honey : List HoneyRow} {row : HoneyRow}

theorem rows_append (listing : Listing) (honey more : List HoneyRow) :
    listing.rows (honey ++ more) = listing.rows honey ++ listing.rows more :=
  List.filter_append ..

theorem keyRows_append (listing : Listing) (honey more : List HoneyRow) (key : Option CStr) :
    keyRows listing (honey ++ more) key =
      keyRows listing honey key ++ keyRows listing more key := by
  rw [keyRows, rows_append, List.filter_append]
  rfl

theorem keyRows_singleton (listing : Listing) (row : HoneyRow) (key : Option CStr) :
    keyRows listing [row] key = [] ∨ keyRows listing [row] key = [row] := by
  rw [keyRows, Listing.rows, List.filter_filter, List.filter_singleton, Bool.cond_eq_ite]
  split
  · exact .inr rfl
  · exact .inl rfl

theorem Packable.append (packable : Packable listing honey)
    (text : listing.condition (listing.column row) = true → Utf8Text (listing.column row))
    (stamp : Utf8Text row.eventTimestamp) : Packable listing (honey ++ [row]) := by
  have old (key : Option CStr) (some_ : keyRows listing honey key ≠ []) :
      Utf8Text (maxText ((keyRows listing honey key).map HoneyRow.eventTimestamp)) := by
    obtain ⟨first, isFirst⟩ := List.exists_mem_of_ne_nil _ some_
    obtain ⟨isRow, isKey⟩ := mem_keyRows.mp isFirst
    have before := (packable first isRow).2
    rwa [isKey] at before
  intro other isOther
  constructor
  · rw [rows_append] at isOther
    rcases List.mem_append.mp isOther with before | new
    · exact (packable other before).1
    · obtain ⟨isNew, admitted⟩ := List.mem_filter.mp new
      rw [List.mem_singleton.mp isNew] at admitted ⊢
      exact text admitted
  · have member : other ∈ keyRows listing (honey ++ [row]) (listing.column other) :=
      mem_keyRows.mpr ⟨isOther, rfl⟩
    rw [keyRows_append] at member ⊢
    rcases keyRows_singleton listing row (listing.column other) with none_ | one
    · rw [none_, List.append_nil] at member ⊢
      exact old _ (List.ne_nil_of_mem member)
    · rw [one, List.map_append, List.map_singleton]
      rcases maxText_append ((keyRows listing honey (listing.column other)).map
        HoneyRow.eventTimestamp) row.eventTimestamp with same | new
      · by_cases empty : keyRows listing honey (listing.column other) = []
        · rw [empty]
          exact stamp
        · rw [same]
          exact old _ empty
      · rwa [new]

end Append

/-! ## Events that a node logs -/

/-- The node logs an event and the row is added: a packet of one of its listeners, or a value from the
DHT. -/
inductive LoggedEvent (honey : List HoneyRow) (row : HoneyRow) : Prop
  | sip (packet : Collected) {event : SipMessageEvent} (received : packet.event = .ok (some event))
      (build : Build) (osip : Osip) (jansson : Jansson) (answers : SinkAnswers) (config : Config)
      (clock : Clock) (uuid : CStr) {put : List CStr}
      (logged : sipLogEvent build osip (nodeSinks jansson answers) config
        ⟨eventTimestamp clock, uuid⟩ event ⟨honey, []⟩ = .ok .success ⟨honey ++ [row], put⟩)
  | dht (build : Build) (jansson : Jansson) (strings : JanssonStrings jansson)
      (answers : SinkAnswers) (config : Config) (fresh : Fresh) (data : List UInt8) (expired : Bool)
      {put : List CStr}
      (logged : dhtValueCallback build jansson (nodeSinks jansson answers) nodeExists config fresh
        data expired ⟨honey, []⟩ = .ok () ⟨honey ++ [row], put⟩)

theorem Utf8Text.ofPlain {text : Option CStr} {t : CStr} (isText : text = some t)
    (plain : Plain t.bytes) : Utf8Text text :=
  ⟨t, isText, plain.validUtf8⟩

section Events
variable {honey : List HoneyRow} {row : HoneyRow}

theorem LoggedEvent.utf8 (logged : LoggedEvent honey row) :
    Utf8Text row.sourceIp ∧ Utf8Text row.eventTimestamp := by
  cases logged with
  | sip packet received build osip jansson answers config clock uuid logged =>
      obtain ⟨badActor, built, added⟩ := sipLogEvent_success logged
      have isRow : row = honeyRow badActor := by simpa using added
      rw [isRow]
      constructor
      · exact .ofPlain (built.sourceIp.trans (event_clientIpAddrStr received))
          (sourceText_plain packet)
      · exact .ofPlain built.eventTimestamp (eventTimestamp_plain clock)
  | dht build jansson strings answers config fresh data expired logged =>
      rcases dhtValueCallback_final build jansson answers config fresh ⟨honey, []⟩ data expired with
        same | ⟨uuid, badActor, looked, absent, decoded, added⟩
      · rw [logged] at same
        have honeys := congrArg Local.honey same
        simp [finalState] at honeys
      · rw [logged] at added
        have isRow : row = honeyRow badActor := by
          simpa [stored, finalState] using congrArg Local.honey added
        obtain ⟨-, json, admitted, rfl⟩ := admitted_of_looked looked absent decoded
        have field (key : String) (member : key ∈ badActorKeys) :
            Utf8Text (jsonStringValue (json.get? key)) := by
          obtain ⟨bytes, found⟩ := admitted.strings key member
          have read : jsonStringValue (json.get? key) = some (.ofMemory bytes) := by
            rw [found, jsonStringValue]
          exact ⟨_, read, (strings.value admitted.loaded read).2⟩
        rw [isRow]
        exact ⟨field "source_ip" (by decide), field "event_timestamp" (by decide)⟩

end Events

/-! ## What is still returned -/

def returnedIps (healthCheck : Except Abort Response) (honey : List HoneyRow) : List (List UInt8) :=
  returnedTexts "ip_address" "ip_addresses" (api healthCheck honey (.lit "/ip-addresses"))

def returnedNumbers (healthCheck : Except Abort Response) (honey : List HoneyRow) :
    List (List UInt8) :=
  returnedTexts "called_number" "called_numbers" (api healthCheck honey (.lit "/numbers"))

structure ListingsMonotone (healthCheck : Except Abort Response) (before after : List HoneyRow) :
    Prop where
  ipAddresses : returnedIps healthCheck before ⊆ returnedIps healthCheck after
  numbers : returnedNumbers healthCheck before ⊆ returnedNumbers healthCheck after

section Monotone
variable {listing : Listing} {honey : List HoneyRow} {row : HoneyRow}

theorem returnedTexts_subset {key total list : String} {notFound : CStr} (apart : list ≠ total)
    (keyed : Keyed listing honey) (keyedAfter : Keyed listing (honey ++ [row]))
    (packable : Packable listing honey → Packable listing (honey ++ [row])) :
    returnedTexts key list (answer listing key total list notFound honey) ⊆
      returnedTexts key list (answer listing key total list notFound (honey ++ [row])) := by
  intro text returned
  obtain ⟨packed, value, selected, same⟩ := (mem_returnedTexts keyed apart).mp returned
  refine (mem_returnedTexts keyedAfter apart).mpr ⟨packable packed, value, ?_, same⟩
  rw [rows_append, List.map_append]
  exact List.mem_append_left _ selected

/-- A printed integer is ASCII, so only a number with a plus can be something else. -/
theorem utf8_of_isPhoneNumber {n : CStr} (admitted : isPhoneNumber (some n) = true)
    (noPlus : n.bytes.head? ≠ some 0x2B) : validUtf8 n.bytes = true := by
  simp only [isPhoneNumber, Bool.or_eq_true, beq_iff_eq, noPlus, false_or] at admitted
  rw [← admitted, sqlitePrintfD]
  apply Plain.validUtf8
  split
  · exact .cons (by decide) (decimal_plain _)
  · exact decimal_plain _

theorem utf8Text_of_admitted {number : Option CStr} (admitted : isPhoneNumber number = true)
    (plus : ∀ n, number = some n → n.bytes.head? = some 0x2B → validUtf8 n.bytes = true) :
    Utf8Text number := by
  cases number with
  | none => cases admitted
  | some n =>
      refine ⟨n, rfl, ?_⟩
      by_cases hasPlus : n.bytes.head? = some 0x2B
      · exact plus n rfl hasPlus
      · exact utf8_of_isPhoneNumber admitted hasPlus

theorem returnedNumbers_ne_nil (healthCheck : Except Abort Response)
    (selected : ∃ stored ∈ honey, isPhoneNumber stored.calledNumber = true)
    (packable : Packable calledNumbers honey) :
    ∃ text, text ∈ returnedNumbers healthCheck honey := by
  obtain ⟨stored, isStored, admitted⟩ := selected
  have isRow : stored ∈ calledNumbers.rows honey := List.mem_filter.mpr ⟨isStored, admitted⟩
  obtain ⟨n, isN, -⟩ := (packable stored isRow).1
  refine ⟨n.bytes, ?_⟩
  rw [returnedNumbers, api_numbers, mem_returnedTexts (calledNumbers_keyed honey) (by decide)]
  exact ⟨packable, n, List.mem_map.mpr ⟨stored, isRow, isN⟩, rfl⟩

theorem ListingsMonotone.utf8 {healthCheck : Except Abort Response}
    (monotone : ListingsMonotone healthCheck honey (honey ++ [row]))
    (selected : ∃ stored ∈ honey, isPhoneNumber stored.calledNumber = true)
    (packable : Packable calledNumbers honey) {n : CStr} (isN : row.calledNumber = some n)
    (plus : n.bytes.head? = some 0x2B) : validUtf8 n.bytes = true := by
  obtain ⟨text, returned⟩ := returnedNumbers_ne_nil healthCheck selected packable
  have after := monotone.numbers returned
  rw [returnedNumbers, api_numbers] at after
  have packed := packable_of_returned (calledNumbers_keyed _) after
  have isRow : row ∈ calledNumbers.rows (honey ++ [row]) := by
    refine List.mem_filter.mpr ⟨List.mem_append_right _ (List.mem_singleton_self row), ?_⟩
    change isPhoneNumber row.calledNumber = true
    rw [isN, isPhoneNumber, plus]
    rfl
  obtain ⟨m, isM, utf8⟩ := (packed row isRow).1
  rw [show calledNumbers.column row = row.calledNumber from rfl, isN] at isM
  rwa [Option.some.inj isM]

end Monotone

/-! ## One packet -/

def osipCalling (username : CStr) : Osip where
  messageInit := true
  parserInit := true
  messageParse _ _ := some ⟨some (.lit "INVITE"), some ⟨some ⟨some username⟩⟩, none⟩
  messageToStr _ := some (.lit "INVITE sip:x SIP/2.0\r\n")

theorem udpProbe_calling (honey : List HoneyRow) (username : CStr) :
    ∃ row, LoggedEvent honey row ∧ row.calledNumber = some username :=
  ⟨_, .sip (udpProbe 5060) rfl cBuild (osipCalling username) compactJansson willingAnswers plainConfig
    ⟨2026, 7, 27, 10, 0, 0, 0⟩ someFresh.uuid rfl, rfl⟩

end SentryPeer.Proof
