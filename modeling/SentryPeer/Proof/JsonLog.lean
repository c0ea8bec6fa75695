import SentryPeer.Proof.JsonLogger
import SentryPeer.Proof.SipLog
import SentryPeer.Source.Stores

/-!
# The JSON log as a record

A line of the log is the encoding of one event. Its bytes are printable, so the newlines of the file
are the ends of its lines, and each line decodes to the event it was made from.
-/

namespace SentryPeer.Proof
open Lib

/-- Both libraries write flat objects as RFC 8259 has it, and jansson reads every such text. -/
structure Rfc8259 (jansson : Jansson) (serde : Serde) : Prop where
  dumps : ∀ members, FlatMembers members →
    EncodesFlat members (jansson.dumps (flatObject members)).bytes
  toText : ∀ members, FlatMembers members →
    EncodesFlat members (serde.toText (flatObject members)).bytes
  loadb : ∀ members text, FlatMembers members → EncodesFlat members text →
    jansson.loadb text = some (flatObject members)

/-! ## Lines -/

def logLines (file : List UInt8) : List (List UInt8) := (file.splitOn 0x0A).dropLast

theorem logLines_append {line : List UInt8} (oneLine : 0x0A ∉ line) (file : List UInt8) :
    logLines (line ++ 0x0A :: file) = line :: logLines file := by
  rw [logLines, List.splitOn_append_cons_self, List.splitOn_eq_singleton oneLine,
    List.singleton_append, List.dropLast_cons_of_ne_nil (List.splitOn_ne_nil _ _)]
  rfl

def logText (lines : List (List UInt8)) : List UInt8 := lines.flatMap fun line => line ++ [0x0A]

/-! ## One event -/

section Line
variable {jansson : Jansson} {serde : Serde} {badActor : BadActor}

/-- A text of the object of the event, by whichever encoder. -/
def LineOf (jansson : Jansson) (badActor : BadActor) (line : List UInt8) : Prop :=
  Printable line ∧ ∃ json, jansson.loadb line = some json ∧
    json.SameObject (flatObject (badActorMembers badActor))

theorem LineOf.oneLine {line : List UInt8} (isLine : LineOf jansson badActor line) :
    0x0A ∉ line :=
  fun newline => isLine.1 0x0A newline (by decide)

theorem LineOf.noNul {line : List UInt8} (isLine : LineOf jansson badActor line) : 0 ∉ line :=
  fun zero => isLine.1 0 zero (by decide)

theorem LineOf.decodes {line : List UInt8} (isLine : LineOf jansson badActor line)
    (config : Config) (fresh : Fresh) :
    jsonToBadActor jansson config fresh (.ofMemory line) = .ok (some (readBack badActor)) := by
  obtain ⟨json, loaded, same⟩ := isLine.2
  rw [← CStr.bytes_ofMemory isLine.noNul] at loaded
  exact jsonToBadActor_members config fresh loaded same

theorem lineOf_badActorToJson (rfc : Rfc8259 jansson serde) {text : CStr}
    (encoded : badActorToJson jansson badActor = some text) :
    LineOf jansson badActor text.bytes := by
  rw [badActorToJson, badActorJson_eq] at encoded
  split_ifs at encoded with utf8
  · cases encoded
    have flat := badActorMembers_flat utf8
    have encodes := rfc.dumps _ flat
    exact ⟨encodes.printable, _, rfc.loadb _ _ flat encodes, fun _ => rfl⟩
  · cases encoded

theorem lineOf_badActorToJsonRs (rfc : Rfc8259 jansson serde) {text : CStr}
    (encoded : badActorToJsonRs serde badActor = .ok (some text)) :
    LineOf jansson badActor text.bytes := by
  rw [badActorToJsonRs, badActorJsonRs_eq] at encoded
  split_ifs at encoded with utf8
  · cases encoded
    have sorted := List.perm_insertionSort (fun a b : String × List UInt8 => a.1 ≤ b.1)
      (badActorMembers badActor)
    have flat := (badActorMembers_flat utf8).perm sorted.symm
    have encodes := rfc.toText _ flat
    exact ⟨encodes.printable, _, rfc.loadb _ _ flat encodes,
      flatObject_same_of_perm sorted flat.distinct⟩
  · cases encoded

theorem jsonLogBadActor_adds (rfc : Rfc8259 jansson serde) {build : Build} {io : LogIo}
    (kept : io.arrived = none) {file after : List UInt8}
    (ran : jsonLogBadActor build jansson serde io badActor file = .ok (.success, after)) :
    ∃ line, LineOf jansson badActor line ∧ after = file ++ (line ++ [0x0A]) := by
  unfold jsonLogBadActor at ran
  split at ran
  · cases ran
  obtain ⟨json, encoded, ran⟩ := bind_eq_ok.mp ran
  cases json with
  | none => cases ran
  | some text =>
      simp only [LogIo.append, kept] at ran
      split at ran
      · cases ran
      cases ran
      refine ⟨text.bytes, ?_, rfl⟩
      unfold logEncoder at encoded
      split at encoded
      · exact lineOf_badActorToJsonRs rfc encoded
      · exact lineOf_badActorToJson rfc (Except.ok.inj encoded)

theorem jsonLogBadActorRs_adds (rfc : Rfc8259 jansson serde) {config : Config} {io : LogIo}
    (kept : io.arrived = none) {file after : List UInt8}
    (ran : jsonLogBadActorRs serde io config badActor file = .ok (.success, after)) :
    ∃ line, LineOf jansson badActor line ∧ after = file ++ (line ++ [0x0A]) := by
  unfold jsonLogBadActorRs at ran
  split at ran
  · cases ran
  obtain ⟨json, encoded, ran⟩ := bind_eq_ok.mp ran
  cases json with
  | none => cases ran
  | some text =>
      simp only [LogIo.append, kept] at ran
      split at ran
      · cases ran
      split at ran
      · cases ran
      cases ran
      exact ⟨text.bytes, lineOf_badActorToJsonRs rfc encoded, rfl⟩

end Line

/-! ## Runs -/

structure LogEntry where
  rs : Bool
  build : Build
  config : Config
  badActor : BadActor

def LogEntry.log (jansson : Jansson) (serde : Serde) (io : LogIo) (entry : LogEntry)
    (file : List UInt8) : Except Abort (Exit × List UInt8) :=
  if entry.rs then jsonLogBadActorRs serde io entry.config entry.badActor file
  else jsonLogBadActor entry.build jansson serde io entry.badActor file

def logEntries (jansson : Jansson) (serde : Serde) (io : LogIo) :
    List LogEntry → List UInt8 → Except Abort (List Exit × List UInt8)
  | [], file => .ok ([], file)
  | entry :: rest, file => do
      let (exit, file) ← entry.log jansson serde io file
      let (exits, file) ← logEntries jansson serde io rest file
      return (exit :: exits, file)

def readLog (jansson : Jansson) (config : Config) (fresh : Fresh) (file : List UInt8) :
    Except Abort (List (Option BadActor)) :=
  (logLines file).mapM fun line => jsonToBadActor jansson config fresh (.ofMemory line)

section Runs
variable {jansson : Jansson} {serde : Serde}

theorem LogEntry.log_adds (rfc : Rfc8259 jansson serde) {entry : LogEntry} {io : LogIo}
    (kept : io.arrived = none) {file after : List UInt8}
    (ran : entry.log jansson serde io file = .ok (.success, after)) :
    ∃ line, LineOf jansson entry.badActor line ∧ after = file ++ (line ++ [0x0A]) := by
  unfold LogEntry.log at ran
  split at ran
  · exact jsonLogBadActorRs_adds rfc kept ran
  · exact jsonLogBadActor_adds rfc kept ran

theorem badActorToJsonRs_utf8 {badActor : BadActor} (utf8 : Utf8Fields badActor) :
    badActorToJsonRs serde badActor =
      .ok (some (serde.toText (serdeMap (badActorMembers badActor)))) := by
  rw [badActorToJsonRs, badActorJsonRs_eq, if_pos utf8]
  rfl

variable (jansson serde) in
theorem logEncoder_utf8 {badActor : BadActor} (utf8 : Utf8Fields badActor) (build : Build) :
    ∃ text, logEncoder build jansson serde badActor = .ok (some text) := by
  unfold logEncoder
  split
  · exact ⟨_, badActorToJsonRs_utf8 utf8⟩
  · rw [badActorToJson, badActorJson_eq, if_pos utf8]
    exact ⟨_, rfl⟩

/-- On text, only a log file whose name is not UTF-8 keeps a call from succeeding. -/
theorem LogEntry.log_utf8 {entry : LogEntry} (utf8 : Utf8Fields entry.badActor)
    (file : List UInt8) :
    (∃ after, entry.log jansson serde faultlessIo file = .ok (.success, after)) ∨
      (entry.rs = true ∧ validUtf8 entry.config.jsonLogFile.bytes = false ∧
        ∃ abort, entry.log jansson serde faultlessIo file = .error abort) := by
  unfold LogEntry.log
  cases rs : entry.rs with
  | true =>
      simp only [jsonLogBadActorRs, badActorToJsonRs_utf8 utf8, ↓reduceIte]
      cases named : validUtf8 entry.config.jsonLogFile.bytes with
      | true => exact .inl ⟨_, rfl⟩
      | false => exact .inr ⟨trivial, rfl, _, rfl⟩
  | false =>
      obtain ⟨text, encoded⟩ := logEncoder_utf8 jansson serde utf8 entry.build
      simp only [jsonLogBadActor, encoded]
      exact .inl ⟨_, rfl⟩

theorem logEntries_adds (rfc : Rfc8259 jansson serde) {entries : List LogEntry}
    (utf8 : ∀ entry ∈ entries, Utf8Fields entry.badActor) {file after : List UInt8}
    {exits : List Exit} (ran : logEntries jansson serde faultlessIo entries file = .ok (exits, after)) :
    (∀ exit ∈ exits, exit = .success) ∧ ∃ lines, after = file ++ logText lines ∧
      List.Forall₂ (fun entry line => LineOf jansson entry.badActor line) entries lines := by
  induction entries generalizing file exits with
  | nil =>
      cases ran
      exact ⟨nofun, [], by simp [logText], .nil⟩
  | cons entry rest ih =>
      obtain ⟨⟨exit, middle⟩, first, ran⟩ := bind_eq_ok.mp ran
      obtain ⟨⟨more, last⟩, later, ran⟩ := bind_eq_ok.mp ran
      cases ran
      have success : exit = .success := by
        rcases entry.log_utf8 (utf8 entry List.mem_cons_self) file with ⟨_, ok⟩ | ⟨-, -, _, failed⟩
        · cases ok.symm.trans first
          rfl
        · cases failed.symm.trans first
      rw [success] at first
      obtain ⟨line, isLine, rfl⟩ := LogEntry.log_adds rfc rfl first
      obtain ⟨allSuccess, lines, rfl, areLines⟩ :=
        ih (fun other member => utf8 other (List.mem_cons_of_mem entry member)) later
      refine ⟨List.forall_mem_cons.mpr ⟨success, allSuccess⟩, line :: lines, ?_,
        .cons isLine areLines⟩
      rw [logText, logText, List.flatMap_cons, List.append_assoc]

theorem logEntries_returns {entries : List LogEntry}
    (utf8 : ∀ entry ∈ entries, Utf8Fields entry.badActor)
    (named : ∀ entry ∈ entries, entry.rs = true → validUtf8 entry.config.jsonLogFile.bytes = true)
    (file : List UInt8) :
    ∃ exits after, logEntries jansson serde faultlessIo entries file = .ok (exits, after) := by
  induction entries generalizing file with
  | nil => exact ⟨[], file, rfl⟩
  | cons entry rest ih =>
      have first : ∃ after, entry.log jansson serde faultlessIo file = .ok (.success, after) := by
        rcases entry.log_utf8 (utf8 entry List.mem_cons_self) file with ok | ⟨rs, unnamed, -⟩
        · exact ok
        · rw [named entry List.mem_cons_self rs] at unnamed
          cases unnamed
      obtain ⟨middle, logged⟩ := first
      obtain ⟨exits, after, ran⟩ :=
        ih (fun other member => utf8 other (List.mem_cons_of_mem entry member))
          (fun other member => named other (List.mem_cons_of_mem entry member)) middle
      refine ⟨.success :: exits, after, ?_⟩
      rw [logEntries, logged]
      show Except.bind (logEntries jansson serde faultlessIo rest middle) _ = _
      rw [ran]
      rfl

theorem readLog_logText (config : Config) (fresh : Fresh) {badActors : List BadActor}
    {lines : List (List UInt8)} (areLines : List.Forall₂ (LineOf jansson) badActors lines) :
    readLog jansson config fresh (logText lines) =
      .ok (badActors.map fun badActor => some (readBack badActor)) := by
  induction areLines with
  | nil => rfl
  | @cons badActor line badActors lines isLine _ ih =>
      have decoded := isLine.decodes config fresh
      rw [readLog] at ih ⊢
      rw [logText, List.flatMap_cons, List.append_assoc, List.singleton_append,
        logLines_append isLine.oneLine, List.mapM_cons, decoded]
      show Except.bind (List.mapM _ (logLines (logText lines))) _ = _
      rw [ih]
      rfl

theorem jsonLog_reads_back (rfc : Rfc8259 jansson serde) (entries : List LogEntry)
    (utf8 : ∀ entry ∈ entries, Utf8Fields entry.badActor) (config : Config) (fresh : Fresh) :
    (∀ exits file, logEntries jansson serde faultlessIo entries [] = .ok (exits, file) →
      (∀ exit ∈ exits, exit = .success) ∧ readLog jansson config fresh file =
        .ok (entries.map fun entry => some (readBack entry.badActor))) ∧
    ((∀ entry ∈ entries, entry.rs = true →
        validUtf8 entry.config.jsonLogFile.bytes = true) →
      ∃ exits file, logEntries jansson serde faultlessIo entries [] = .ok (exits, file)) := by
  constructor
  · intro exits file ran
    obtain ⟨success, lines, rfl, areLines⟩ := logEntries_adds rfc utf8 ran
    have decoded := readLog_logText config fresh (List.forall₂_map_left_iff.mpr areLines)
    rw [List.map_map] at decoded
    exact ⟨success, decoded⟩
  · exact fun named => logEntries_returns utf8 named []

end Runs

theorem compact_rfc8259 : Rfc8259 compactJansson compactSerde where
  dumps members flat := by
    simp only [compactJansson, stringMembers_flatObject]
    exact printFlat_encodes true flat
  toText members flat := by
    simp only [compactSerde, stringMembers_flatObject]
    exact printFlat_encodes false flat
  loadb members text flat encodes := readFlat_encodes flat encodes

def twoEntries : List LogEntry :=
  [⟨false, cBuild, plainConfig, inviteActor (.lit "100")⟩,
    ⟨true, cBuild, plainConfig, inviteActor (.lit "+44 \"1\"\t")⟩]

/-- Both messages end in CR LF. -/
theorem jsonLog_reads_back_two :
    ∃ exits file, logEntries compactJansson compactSerde faultlessIo twoEntries [] =
        .ok (exits, file) ∧
      readLog compactJansson plainConfig someFresh file =
        .ok [some (readBack (inviteActor (.lit "100"))),
          some (readBack (inviteActor (.lit "+44 \"1\"\t")))] := by
  have utf8 : ∀ entry ∈ twoEntries, Utf8Fields entry.badActor := by decide
  have both := jsonLog_reads_back compact_rfc8259 twoEntries utf8 plainConfig someFresh
  obtain ⟨exits, file, ran⟩ := both.2 (by decide)
  exact ⟨exits, file, ran, (both.1 exits file ran).2⟩

end SentryPeer.Proof
