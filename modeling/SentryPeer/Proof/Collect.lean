import SentryPeer.Source.Collect
import SentryPeer.Proof.Returned
import SentryPeer.Proof.Timestamp
import SentryPeer.Proof.Replication

/-!
# From a packet to the API

The API compares addresses with the stored text. The C daemon stores the numeric host, `log_sip_packet`
stores the socket address, port included, which no address is written like.
-/

namespace SentryPeer.Proof
open Lib

/-! ## The rows of the logged packets -/

section Rows
variable {build : Build} {jansson : Jansson} {osip : Osip} {answers : SinkAnswers} {config : Config}
  {fresh : Fresh}

theorem sipLogEvent_success {event : SipMessageEvent} {start after : Local}
    (ran : sipLogEvent build osip (nodeSinks jansson answers) config fresh event start =
      .ok .success after) :
    ∃ badActor, BuiltFor fresh event badActor ∧ after.honey = start.honey ++ [honeyRow badActor] := by
  obtain ⟨actor, s, first, ran⟩ := run_bind_eq_ok.mp ran
  obtain ⟨built, rfl⟩ := fromExcept_eq_ok.mp first
  cases actor with
  | none => cases ran
  | some badActor =>
      have built := sipLogEventActor_built built
      have sinks := sipLogEventSinks_effect build jansson answers config s built.eventUuid s rfl
      have ran' : sipLogEventSinks build (nodeSinks jansson answers) config badActor s =
        .ok .success after := ran
      rw [ran'] at sinks
      exact ⟨badActor, built, sinks.2 rfl⟩

/-- The text that the listener passes on as the address of the peer. -/
def sourceText : Collected → CStr
  | .rust _ _ _ peerAddr _ => peerAddr.text
  | .cUdp _ peer _ _ => (IpAddr.v4 peer).text

theorem event_clientIpAddrStr {packet : Collected} {event : SipMessageEvent}
    (received : packet.event = .ok (some event)) :
    event.clientIpAddrStr = some (sourceText packet) := by
  cases packet with
  | rust listener buf bytesRead peerAddr listenAddr =>
      simp only [Collected.event, logSipPacketEvent] at received
      split at received
      · cases received
      · cases received; rfl
  | cUdp recvmsg peer port destIp =>
      simp only [Collected.event, udpEvent] at received
      obtain ⟨dest, -, received⟩ := bind_eq_ok.mp received
      obtain ⟨copy, -, received⟩ := bind_eq_ok.mp received
      cases received; rfl

theorem loggedRun_rows {packets : List Collected} {honey : List HoneyRow}
    (run : LoggedRun packets honey) :
    honey.map HoneyRow.sourceIp = packets.map (fun packet => some (sourceText packet)) ∧
      ∀ row ∈ honey, ∃ clock, row.eventTimestamp = some (eventTimestamp clock) := by
  induction run with
  | nil => exact ⟨rfl, fun row member => by cases member⟩
  | log run packet received build osip jansson answers config clock uuid logged ih =>
      obtain ⟨badActor, built, added⟩ := sipLogEvent_success logged
      obtain ⟨sources, stamped⟩ := ih
      rw [added]
      constructor
      · rw [List.map_append, List.map_append, sources]
        have own : badActor.sourceIp = some (sourceText packet) := by
          rw [built.sourceIp, event_clientIpAddrStr received]
        simp [honeyRow, own]
      · intro row member
        rcases List.mem_append.mp member with old | new
        · exact stamped row old
        · rw [List.mem_singleton.mp new]
          exact ⟨clock, built.eventTimestamp⟩

end Rows

/-! ## The listing -/

section Listing
variable {honey : List HoneyRow}

def PlainRows (honey : List HoneyRow) : Prop :=
  ∀ row ∈ honey, (∃ text : CStr, row.sourceIp = some text ∧ Plain text.bytes) ∧
    ∃ text : CStr, row.eventTimestamp = some text ∧ Plain text.bytes

theorem PlainRows.group (plain : PlainRows honey) {group : SeenGroup}
    (member : group ∈ sourceIps.groups honey) :
    (∃ text : CStr, group.key = some text ∧ Plain text.bytes) ∧
      ∃ text : CStr, group.seenLast = some text ∧ Plain text.bytes := by
  obtain ⟨latest, isLatest, same⟩ := (groups_seenLast member).1
  obtain ⟨isRow, isKey⟩ := mem_keyRows.mp isLatest
  obtain ⟨⟨text, isText, plainText⟩, stamp, isStamp, plainStamp⟩ :=
    plain latest (List.mem_of_mem_filter isRow)
  constructor
  · exact ⟨text, isKey.symm.trans isText, plainText⟩
  · exact ⟨stamp, same.symm.trans isStamp, plainStamp⟩

theorem PlainRows.packable (plain : PlainRows honey) : Packable sourceIps honey := by
  rw [packable_iff_groups]
  intro group member
  obtain ⟨⟨ip, isIp, plainIp⟩, last, isLast, plainLast⟩ := plain.group member
  exact ⟨⟨ip, isIp, plainIp.validUtf8⟩, last, isLast, plainLast.validUtf8⟩

def groupJson (group : SeenGroup) : Json :=
  flatObject [("ip_address", (orEmpty group.key).bytes),
    ("seen_last", (orEmpty group.seenLast).bytes), ("seen_count", decimal group.seenTotal)]

def listing (honey : List HoneyRow) : Response :=
  ⟨200, contentTypeJson, .json (.object
    [("ip_addresses_total", .number (intText (sourceIps.groups honey).length)),
      ("ip_addresses", .array ((sourceIps.groups honey).map groupJson))])⟩

theorem ipAddressesResponse_eq (plain : PlainRows honey) (nonempty : honey ≠ []) :
    ipAddressesResponse (fun _ => true) honey = .ok (listing honey) := by
  have some_ : (sourceIps.groups honey).length ≠ 0 := by
    obtain ⟨row, isRow⟩ := List.exists_mem_of_ne_nil honey nonempty
    have isKey : row.sourceIp ∈ (sourceIps.groups honey).map SeenGroup.key := by
      rw [mem_groups_keys, sourceIps_rows]
      exact List.mem_map_of_mem isRow
    rw [← List.length_map SeenGroup.key]
    exact (List.length_pos_of_mem isKey).ne'
  show answer sourceIps "ip_address" "ip_addresses_total" "ip_addresses" notFoundBadActorsJson
    honey = _
  rw [answer_of_packable plain.packable, if_neg some_]
  rfl

theorem seenTotal_eq {group : SeenGroup} (member : group ∈ sourceIps.groups honey) {text : CStr}
    (isText : group.key = some text) :
    group.seenTotal = (honey.map HoneyRow.sourceIp).count (some text) := by
  rw [groups_seenTotal member isText, List.count, List.countP_map]
  apply List.countP_congr
  intro row _
  rw [decide_eq_true_eq, Function.comp_apply, beq_iff_eq]
  rfl

def OneEntry (entries : List Json) (ip : IpAddr) (n : Nat) : Prop :=
  ∃ before entry after, entries = before ++ entry :: after ∧
    entry.get? "ip_address" = some (.string ip.bytes) ∧
    entry.get? "seen_count" = some (.string (decimal n)) ∧
    ∀ other ∈ before ++ after, other.get? "ip_address" ≠ some (.string ip.bytes)

theorem groupJson_ip (group : SeenGroup) :
    (groupJson group).get? "ip_address" = some (.string (orEmpty group.key).bytes) := by
  rw [groupJson, flatObject_get?]
  rfl

theorem groupJson_count (group : SeenGroup) :
    (groupJson group).get? "seen_count" = some (.string (decimal group.seenTotal)) := by
  rw [groupJson, flatObject_get?]
  rfl

theorem PlainRows.oneEntry_count (plain : PlainRows honey) {ip : IpAddr} {n : Nat}
    (one : OneEntry ((sourceIps.groups honey).map groupJson) ip n) :
    n = (honey.map HoneyRow.sourceIp).count (some ip.text) := by
  obtain ⟨before, entry, after, entries, isIp, isCount, -⟩ := one
  have isEntry : entry ∈ (sourceIps.groups honey).map groupJson := by
    rw [entries]
    exact List.mem_append_right _ List.mem_cons_self
  obtain ⟨group, member, rfl⟩ := List.mem_map.mp isEntry
  obtain ⟨⟨text, isText, -⟩, -⟩ := plain.group member
  rw [groupJson_ip, isText] at isIp
  rw [groupJson_count] at isCount
  have same : text = ip.text := by
    apply CStr.ext_bytes
    injection isIp with isIp
    injection isIp
  have counts : group.seenTotal = n := by
    apply decimal_injective
    injection isCount with isCount
    injection isCount
  rw [← counts, seenTotal_eq member isText, same]

theorem PlainRows.oneEntry (plain : PlainRows honey) {ip : IpAddr}
    (listed : some ip.text ∈ honey.map HoneyRow.sourceIp) :
    OneEntry ((sourceIps.groups honey).map groupJson) ip
      ((honey.map HoneyRow.sourceIp).count (some ip.text)) := by
  have listed : some ip.text ∈ (sourceIps.groups honey).map SeenGroup.key := by
    rw [mem_groups_keys, sourceIps_rows]
    exact listed
  obtain ⟨group, member, isIp⟩ := List.mem_map.mp listed
  obtain ⟨before, after, groups⟩ := List.append_of_mem member
  have distinct := groups_nodup sourceIps honey
  refine ⟨before.map groupJson, groupJson group, after.map groupJson, ?_, ?_, ?_, ?_⟩
  · rw [groups, List.map_append, List.map_cons]
  · rw [groupJson_ip, isIp]
    rfl
  · rw [groupJson_count, seenTotal_eq member isIp]
  · intro entry isEntry same
    rw [← List.map_append] at isEntry
    obtain ⟨other, isOther, rfl⟩ := List.mem_map.mp isEntry
    have isGroup : other ∈ sourceIps.groups honey := by
      rw [groups]
      rcases List.mem_append.mp isOther with left | right
      · exact List.mem_append_left _ left
      · exact List.mem_append_right _ (List.mem_cons_of_mem _ right)
    obtain ⟨⟨text, isText, -⟩, -⟩ := plain.group isGroup
    rw [groupJson_ip, isText] at same
    have sameIp : text = ip.text := by
      apply CStr.ext_bytes
      injection same with same
      injection same
    -- the key of `other` occurs beside the same key of the chosen group
    rw [groups, List.map_append, List.map_cons] at distinct
    have apart := List.nodup_middle.mp distinct
    rw [List.nodup_cons, ← List.map_append] at apart
    apply apart.1
    rw [isIp, ← sameIp, ← isText]
    exact List.mem_map_of_mem isOther

end Listing

/-! ## One address -/

def ipUrl (ip : IpAddr) : CStr := .ofMemory ((CStr.lit "/ip-addresses/").bytes ++ ip.bytes)

theorem ipUrl_bytes (ip : IpAddr) : (ipUrl ip).bytes = (CStr.lit "/ip-addresses/").bytes ++ ip.bytes := by
  have literal : Plain (CStr.lit "/ip-addresses/").bytes := by decide
  exact CStr.bytes_ofMemory (literal.append (ipAddr_plain ip)).noNul

theorem ipv4_ne_nil (ip : Ipv4) : ip.bytes ≠ [] := by
  intro empty
  have parsed := inetPton4_bytes ip
  rw [empty] at parsed
  cases parsed

theorem anyGroup_ipv4 (ip : Ipv4) : anyGroup ip.bytes = true := by
  cases bytes : ip.bytes with
  | nil => exact absurd bytes (ipv4_ne_nil ip)
  | cons b rest =>
      have member : b ∈ ip.bytes := by
        rw [bytes]
        exact List.mem_cons_self
      have other : b ≠ 0x0A := by
        rintro rfl
        exact absurd (mem_ipv4_bytes member) (by decide)
      simpa [anyGroup] using other

theorem matchIpAddress_ipUrl (ip : Ipv4) :
    matchIpAddress (ipUrl (.v4 ip)) = some (IpAddr.v4 ip).text := by
  rw [matchIpAddress, regexMatch_whole (ipUrl_bytes (.v4 ip)) (anyGroup_ipv4 ip)]
  exact congrArg some (CStr.ofMemory_bytes (IpAddr.v4 ip).text)

theorem routeHandler_ipUrl (ip : Ipv4) :
    routeHandler (ipUrl (.v4 ip)) = .ipAddress (IpAddr.v4 ip).text := by
  have long : 14 < (ipUrl (.v4 ip)).bytes.length := by
    have positive := List.length_pos_of_ne_nil (ipv4_ne_nil ip)
    have literal : (CStr.lit "/ip-addresses/").bytes.length = 14 := by decide
    rw [ipUrl_bytes, List.length_append, literal]
    change _ < 14 + ip.bytes.length
    omega
  have other (route : CStr) (short : route.bytes.length ≤ 14) : ipUrl (.v4 ip) ≠ route := by
    rintro same
    rw [same] at long
    omega
  have valid : validIpAddressFormat (IpAddr.v4 ip).text = true := by
    rw [validIpAddressFormat]
    change ((inetPton4 ip.bytes).isSome || _) = true
    rw [inetPton4_bytes]
    rfl
  rw [routeHandler, if_neg (other _ (by decide)), if_neg (other _ (by decide)),
    if_neg (other _ (by decide)), matchIpAddress_ipUrl]
  dsimp only
  rw [if_pos valid]

theorem ipAddressResponse_found {honey : List HoneyRow} {ip : IpAddr}
    (listed : some ip.text ∈ honey.map HoneyRow.sourceIp) :
    ipAddressResponse (fun _ => true) honey ip.text =
      .ok ⟨200, contentTypeJson, .json (flatObject [("bad_actor_found", ip.bytes)])⟩ := by
  have selected : dbSelectBadActorByIp (fun _ => true) ip.text honey = some ip.text := by
    rw [dbSelectBadActorByIp, selectDistinct_eq, if_pos listed]
  rw [ipAddressResponse, selected]
  exact foundResponse_utf8 _ _ (ipAddr_plain ip).validUtf8

/-! ## Runs -/

section Runs
variable {packets : List Collected} {honey : List HoneyRow}

theorem sourceText_plain (packet : Collected) : Plain (sourceText packet).bytes := by
  cases packet with
  | rust listener buf bytesRead peerAddr listenAddr => exact socketAddr_plain peerAddr
  | cUdp recvmsg peer port destIp => exact ipv4_plain peer

theorem loggedRun_plain (run : LoggedRun packets honey) : PlainRows honey := by
  obtain ⟨sources, stamped⟩ := loggedRun_rows run
  intro row member
  constructor
  · have isSource : row.sourceIp ∈ honey.map HoneyRow.sourceIp := List.mem_map_of_mem member
    rw [sources] at isSource
    obtain ⟨packet, -, same⟩ := List.mem_map.mp isSource
    exact ⟨sourceText packet, same.symm, sourceText_plain packet⟩
  · obtain ⟨clock, isStamp⟩ := stamped row member
    exact ⟨eventTimestamp clock, isStamp, eventTimestamp_plain clock⟩

/-- The API knows the peer of every logged packet, and counts the packets of each peer. -/
structure Reported (others : Route → Except Abort Response) (packets : List Collected)
    (honey : List HoneyRow) : Prop where
  found : ∀ packet ∈ packets, httpGet (fun _ => true) others honey (ipUrl packet.peer) =
    .ok ⟨200, contentTypeJson, .json (flatObject [("bad_actor_found", packet.peer.bytes)])⟩
  listed : ∀ packet ∈ packets, ∃ total entries,
    httpGet (fun _ => true) others honey (.lit "/ip-addresses") = .ok ⟨200, contentTypeJson,
      .json (.object [("ip_addresses_total", total), ("ip_addresses", .array entries)])⟩ ∧
    OneEntry entries packet.peer (packets.countP fun other => other.peer = packet.peer)

def IsCUdp : Collected → Prop
  | .cUdp _ _ _ _ => True
  | .rust _ _ _ _ _ => False

theorem sourceText_ne_of_rust {packet : Collected} (isRust : ¬ IsCUdp packet) (ip : IpAddr) :
    sourceText packet ≠ ip.text := by
  cases packet with
  | rust listener buf bytesRead peerAddr listenAddr =>
      intro same
      exact socketAddr_bytes_ne peerAddr ip (congrArg CStr.bytes same)
  | cUdp recvmsg peer port destIp => exact absurd trivial isRust

theorem peer_of_sourceText {packet : Collected} {ip : IpAddr} (same : sourceText packet = ip.text) :
    packet.peer = ip := by
  cases packet with
  | rust listener buf bytesRead peerAddr listenAddr =>
      exact absurd same (sourceText_ne_of_rust id ip)
  | cUdp recvmsg peer port destIp => exact (eq_v4_of_bytes (congrArg CStr.bytes same)).symm

theorem count_sourceIp (run : LoggedRun packets honey) (ip : IpAddr) :
    (honey.map HoneyRow.sourceIp).count (some ip.text) =
      packets.countP fun packet => sourceText packet = ip.text := by
  rw [(loggedRun_rows run).1, List.count, List.countP_map]
  apply List.countP_congr
  intro packet _
  simp

theorem listing_of_run (run : LoggedRun packets honey) (others : Route → Except Abort Response)
    {packet : Collected} (member : packet ∈ packets) :
    httpGet (fun _ => true) others honey (.lit "/ip-addresses") = .ok (listing honey) := by
  have nonempty : honey ≠ [] := by
    rintro rfl
    have none_ := (loggedRun_rows run).1
    rw [List.map_nil, eq_comm, List.map_eq_nil_iff] at none_
    rw [none_] at member
    cases member
  change ipAddressesResponse (fun _ => true) honey = _
  exact ipAddressesResponse_eq (loggedRun_plain run) nonempty

theorem countP_sourceText_lt {packet : Collected} (member : packet ∈ packets)
    (isRust : ¬ IsCUdp packet) :
    (packets.countP fun other => sourceText other = packet.peer.text) <
      packets.countP fun other => other.peer = packet.peer := by
  obtain ⟨before, after, rfl⟩ := List.append_of_mem member
  have less (part : List Collected) :
      (part.countP fun other => sourceText other = packet.peer.text) ≤
        part.countP fun other => other.peer = packet.peer := by
    apply List.countP_mono_left
    intro other _ same
    rw [decide_eq_true_eq] at same ⊢
    exact peer_of_sourceText same
  have first := less before
  have last := less after
  simp only [List.countP_append, List.countP_cons, sourceText_ne_of_rust isRust, decide_false,
    Bool.false_eq_true, ↓reduceIte, decide_true]
  omega

theorem loggedRun_reported_iff (others : Route → Except Abort Response)
    (run : LoggedRun packets honey) :
    Reported others packets honey ↔ ∀ packet ∈ packets, IsCUdp packet := by
  have plain := loggedRun_plain run
  constructor
  · intro reported packet member
    by_contra isRust
    obtain ⟨total, entries, answer, one⟩ := reported.listed packet member
    rw [listing_of_run run others member] at answer
    cases answer
    have count := plain.oneEntry_count one
    rw [count_sourceIp run] at count
    have less := countP_sourceText_lt member isRust
    omega
  · intro allC
    have stored (packet : Collected) (member : packet ∈ packets) :
        some packet.peer.text ∈ honey.map HoneyRow.sourceIp := by
      rw [(loggedRun_rows run).1]
      cases packet with
      | rust listener buf bytesRead peerAddr listenAddr => exact (allC _ member).elim
      | cUdp recvmsg peer port destIp => exact List.mem_map_of_mem member
    constructor
    · intro packet member
      have listed := stored packet member
      cases packet with
      | rust listener buf bytesRead peerAddr listenAddr => exact (allC _ member).elim
      | cUdp recvmsg peer port destIp =>
          rw [httpGet, Collected.peer, routeHandler_ipUrl]
          exact ipAddressResponse_found listed
    · intro packet member
      refine ⟨_, _, listing_of_run run others member, ?_⟩
      have one := plain.oneEntry (stored packet member)
      rw [count_sourceIp run] at one
      have counts : (packets.countP fun other => sourceText other = packet.peer.text) =
          packets.countP fun other => other.peer = packet.peer := by
        apply List.countP_congr
        intro other isOther
        simp only [decide_eq_true_eq]
        constructor
        · exact peer_of_sourceText
        · intro same
          cases other with
          | rust listener buf bytesRead peerAddr listenAddr => exact (allC _ isOther).elim
          | cUdp recvmsg peer port destIp =>
              rw [← same]
              rfl
      rwa [counts] at one

end Runs

def noOthers (_ : Route) : Except Abort Response :=
  .ok ⟨404, contentTypeJson, .text notFoundErrorJson⟩

def optionsLine : List UInt8 := (CStr.lit "OPTIONS sip:100@192.0.2.9 SIP/2.0").bytes

def udpProbe (port : UInt16) : Collected :=
  .cUdp (some optionsLine) ⟨192, 0, 2, 1⟩ port (.ok (some (.lit "192.0.2.9")))

theorem udpProbe_logged {packets : List Collected} {honey : List HoneyRow}
    (run : LoggedRun packets honey) (port : UInt16) :
    ∃ after, LoggedRun (packets ++ [udpProbe port]) after :=
  ⟨_, .log run (udpProbe port) rfl cBuild (osipReading (some (.lit "OPTIONS"))) compactJansson
    willingAnswers plainConfig ⟨2026, 7, 27, 10, 0, 0, 0⟩ someFresh.uuid rfl⟩

theorem loggedRun_reported_two_ports :
    ∃ honey, LoggedRun [udpProbe 5060, udpProbe 40000] honey ∧
      Reported noOthers [udpProbe 5060, udpProbe 40000] honey := by
  obtain ⟨first, one⟩ := udpProbe_logged .nil 5060
  obtain ⟨second, two⟩ := udpProbe_logged one 40000
  exact ⟨second, two, (loggedRun_reported_iff noOthers two).mpr (by simp [udpProbe, IsCUdp])⟩

def tcpProbe : Collected :=
  .rust .tcp optionsLine optionsLine.length (.v4 ⟨192, 0, 2, 1⟩ 5060) (.v4 ⟨0, 0, 0, 0⟩ 5060)

def tcpRow : HoneyRow where
  eventTimestamp := some (.lit "2026-07-27 10:00:00.000000")
  eventUuid := some someFresh.uuid
  collectedMethod := some (.lit "passive")
  sourceIp := some (.lit "192.0.2.1:5060")
  calledNumber := some badActorNotFound
  transportType := some (.lit "TCP")
  method := some (.lit "OPTIONS")
  userAgent := some badActorNotFound
  sipMessage := some (.lit "SIP/2.0 200 OK")
  createdByNodeId := some (.lit "e1d4")

theorem logSipPacket_stores_port :
    LoggedRun [tcpProbe] [tcpRow] ∧
    httpGet (fun _ => true) noOthers [tcpRow] (.lit "/ip-addresses/192.0.2.1") =
      .ok ⟨404, contentTypeJson, .text notFoundBadActorJson⟩ ∧
    ¬ Reported noOthers [tcpProbe] [tcpRow] := by
  have run : LoggedRun [tcpProbe] [tcpRow] :=
    .log .nil tcpProbe rfl ⟨true, false⟩ (osipReading (some (.lit "OPTIONS"))) compactJansson
      willingAnswers { plainConfig with newMode := true } ⟨2026, 7, 27, 10, 0, 0, 0⟩ someFresh.uuid
      rfl
  refine ⟨run, ?_, ?_⟩
  · have url : ipUrl (.v4 ⟨192, 0, 2, 1⟩) = .lit "/ip-addresses/192.0.2.1" := by decide
    rw [← url, httpGet, routeHandler_ipUrl]
    rfl
  · intro reported
    have listed := reported.found tcpProbe List.mem_cons_self
    rw [tcpProbe, Collected.peer, SocketAddr.ip, httpGet, routeHandler_ipUrl] at listed
    cases listed

end SentryPeer.Proof
