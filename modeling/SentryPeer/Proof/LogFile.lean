import Mathlib.Data.List.TakeDrop
import SentryPeer.Proof.Redelivery
import SentryPeer.Source.LogFile

/-!
# A logged line is in the file

Both loggers look at one result only: `fclose`, which reports what it could not write itself but not
what `fprintf` could not, and `write_all`, which has nothing to report as long as `BufWriter` holds
the line.
-/

namespace SentryPeer.Proof
open Lib

section Writes
variable {writes : LogFile.Writes} {stdio : LogFile.Stdio} {capacity length : Nat}

theorem writeAll_le (writes : LogFile.Writes) (call left : Nat) :
    (LogFile.writeAll writes call left).1 ≤ left := by
  fun_induction LogFile.writeAll writes call left with
  | case1 => exact le_rfl
  | case2 => exact le_rfl
  | case3 call left more _ ih => omega

@[simp] theorem writeAll_nothing (call : Nat) : LogFile.writeAll writes call 0 = (0, call) := by
  rw [LogFile.writeAll]

/-- `fclose` sees the writes that it makes itself. -/
theorem fclose_fprintf_buffered {closes : Bool}
    (early : (LogFile.writeAll writes 0 (stdio.early length)).1 = 0)
    (closed : (LogFile.fclose writes closes (LogFile.fprintf stdio writes length)).2 = true) :
    (LogFile.fclose writes closes (LogFile.fprintf stdio writes length)).1 = length := by
  have bound := stdio.early_le length
  simp only [LogFile.fprintf, early, ↓reduceIte, LogFile.fclose, Bool.and_eq_true,
    decide_eq_true_eq] at closed ⊢
  rw [closed.1]
  omega

theorem fclose_fprintf_lost (closes : Bool)
    (early : (LogFile.writeAll writes 0 (stdio.early length)).1 ≠ 0) :
    (LogFile.fclose writes closes (LogFile.fprintf stdio writes length)).1 < length ∧
      (LogFile.fclose writes closes (LogFile.fprintf stdio writes length)).2 = closes := by
  have bound := stdio.early_le length
  have left := writeAll_le writes 0 (stdio.early length)
  simp only [LogFile.fprintf, early, ↓reduceIte, LogFile.fclose, writeAll_nothing, decide_true,
    Bool.true_and, and_true]
  omega

theorem bufWriterDrop_held (writes : LogFile.Writes) (short : length < capacity) :
    LogFile.bufWriterDrop writes (LogFile.bufWriterWriteAll capacity writes length).1 =
      length - (LogFile.writeAll writes 0 length).1 ∧
    (LogFile.bufWriterWriteAll capacity writes length).2 = true := by
  simp [LogFile.bufWriterWriteAll, short, LogFile.bufWriterDrop]

theorem bufWriterDrop_direct (long : ¬ length < capacity)
    (wrote : (LogFile.bufWriterWriteAll capacity writes length).2 = true) :
    LogFile.bufWriterDrop writes (LogFile.bufWriterWriteAll capacity writes length).1 = length := by
  simp only [LogFile.bufWriterWriteAll, if_neg long, decide_eq_true_eq] at wrote
  simp [LogFile.bufWriterWriteAll, long, LogFile.bufWriterDrop, wrote]

end Writes

/-! ## The loggers -/

/-- `EXIT_SUCCESS` is returned only with the whole line in the file. -/
def Recorded (encoded : Except Abort (Option CStr)) (logfile : List UInt8)
    (run : Except Abort (Exit × List UInt8)) : Prop :=
  ∀ after, run = .ok (.success, after) →
    ∃ text, encoded = .ok (some text) ∧ after = logfile ++ (text.bytes ++ [0x0A])

/-- The file opens and closes, and one of the writes that `fprintf` makes fails. -/
def LostByFprintf (encoded : Except Abort (Option CStr)) (stdio : LogFile.Stdio) (opens : Bool)
    (writes : LogFile.Writes) (closes : Bool) : Prop :=
  opens = true ∧ closes = true ∧ ∃ text, encoded = .ok (some text) ∧
    (LogFile.writeAll writes 0 (stdio.early (text.length + 1))).1 ≠ 0

/-- The file opens, `BufWriter` holds the line, and one of the writes of its last flush fails. -/
def LostByDrop (encoded : Except Abort (Option CStr)) (capacity : Nat) (opens : Bool)
    (writes : LogFile.Writes) (config : Config) : Prop :=
  validUtf8 config.jsonLogFile.bytes = true ∧ opens = true ∧ ∃ text, encoded = .ok (some text) ∧
    text.length + 1 < capacity ∧ (LogFile.writeAll writes 0 (text.length + 1)).1 ≠ 0

section Loggers
variable {build : Build} {jansson : Jansson} {serde : Serde} {stdio : LogFile.Stdio}
  {capacity : Nat} {opens closes : Bool} {writes : LogFile.Writes} {config : Config}
  {badActor : BadActor} {logfile after : List UInt8}

theorem line_length (text : CStr) : (text.bytes ++ [0x0A]).length = text.length + 1 := by
  rw [List.length_append]
  rfl

theorem recorded_cut_iff {encoded : Except Abort (Option CStr)} {text : CStr}
    (isText : encoded = .ok (some text)) (ok : Bool) (n : Nat) :
    Recorded encoded logfile
        (.ok (if ok then .success else .failure, logfile ++ (text.bytes ++ [0x0A]).take n)) ↔
      (ok = true → text.length + 1 ≤ n) := by
  have whole : logfile ++ (text.bytes ++ [0x0A]).take n = logfile ++ (text.bytes ++ [0x0A]) ↔
      text.length + 1 ≤ n := by
    rw [List.append_cancel_left_eq, List.take_eq_self_iff, line_length]
  cases ok with
  | false =>
      refine ⟨fun _ failed => ?_, fun _ after ran => ?_⟩
      · cases failed
      · cases ran
  | true =>
      constructor
      · intro recorded _
        obtain ⟨_, same, isWhole⟩ := recorded _ rfl
        cases isText.symm.trans same
        exact whole.mp isWhole
      · intro long after ran
        cases ran
        exact ⟨text, isText, whole.mpr (long rfl)⟩

theorem jsonLogBadActor_logged (opened : opens = true) {text : CStr}
    (encoded : logEncoder build jansson serde badActor = .ok (some text)) :
    let closed := LogFile.fclose writes closes (LogFile.fprintf stdio writes (text.length + 1))
    LogFile.jsonLogBadActor build jansson serde stdio opens writes closes badActor logfile =
      .ok (if closed.2 then .success else .failure,
        logfile ++ (text.bytes ++ [0x0A]).take closed.1) := by
  intro closed
  rw [LogFile.jsonLogBadActor, opened, encoded]
  change (if (!(LogFile.fclose writes closes (LogFile.fprintf stdio writes
    (text.bytes ++ [0x0A]).length)).2) = true then _ else _) = _
  rw [line_length]
  cases closed.2 <;> rfl

theorem jsonLogBadActor_success
    (ran : LogFile.jsonLogBadActor build jansson serde stdio opens writes closes badActor logfile =
      .ok (.success, after)) :
    opens = true ∧ ∃ text, logEncoder build jansson serde badActor = .ok (some text) := by
  rw [LogFile.jsonLogBadActor] at ran
  cases opens with
  | false => cases ran
  | true =>
      obtain ⟨json, encoded, ran⟩ := bind_eq_ok.mp ran
      cases json with
      | none => cases ran
      | some text => exact ⟨rfl, text, encoded⟩

theorem recorded_jsonLogBadActor_iff :
    Recorded (logEncoder build jansson serde badActor) logfile
        (LogFile.jsonLogBadActor build jansson serde stdio opens writes closes badActor logfile) ↔
      ¬ LostByFprintf (logEncoder build jansson serde badActor) stdio opens writes closes := by
  by_cases tried : opens = true ∧ ∃ text, logEncoder build jansson serde badActor = .ok (some text)
  · obtain ⟨opened, text, encoded⟩ := tried
    rw [jsonLogBadActor_logged opened encoded, recorded_cut_iff encoded]
    constructor
    · rintro whole ⟨-, closed, _, same, early⟩
      cases encoded.symm.trans same
      obtain ⟨short, isClosed⟩ := fclose_fprintf_lost closes early
      exact absurd (whole (isClosed.trans closed)) (Nat.not_le.mpr short)
    · intro kept closed
      by_cases early : (LogFile.writeAll writes 0 (stdio.early (text.length + 1))).1 = 0
      · exact (fclose_fprintf_buffered early closed).ge
      · have isClosed := (fclose_fprintf_lost closes early).2
        exact absurd ⟨opened, isClosed.symm.trans closed, text, encoded, early⟩ kept
  · refine iff_of_true (fun after ran => absurd (jsonLogBadActor_success ran) tried) ?_
    rintro ⟨opened, -, text, encoded, -⟩
    exact tried ⟨opened, text, encoded⟩

theorem jsonLogBadActorRs_logged (named : validUtf8 config.jsonLogFile.bytes = true)
    (opened : opens = true) {text : CStr} (encoded : badActorToJsonRs serde badActor = .ok (some text)) :
    let buf := LogFile.bufWriterWriteAll capacity writes (text.length + 1)
    LogFile.jsonLogBadActorRs serde capacity opens writes config badActor logfile =
      .ok (if buf.2 then .success else .failure,
        logfile ++ (text.bytes ++ [0x0A]).take (LogFile.bufWriterDrop writes buf.1)) := by
  intro buf
  rw [LogFile.jsonLogBadActorRs, opened, encoded, named]
  change (if (!(LogFile.bufWriterWriteAll capacity writes
    (text.bytes ++ [0x0A]).length).2) = true then _ else _) = _
  rw [line_length]
  cases buf.2 <;> rfl

theorem jsonLogBadActorRs_success
    (ran : LogFile.jsonLogBadActorRs serde capacity opens writes config badActor logfile =
      .ok (.success, after)) :
    validUtf8 config.jsonLogFile.bytes = true ∧ opens = true ∧
      ∃ text, badActorToJsonRs serde badActor = .ok (some text) := by
  rw [LogFile.jsonLogBadActorRs] at ran
  cases named : validUtf8 config.jsonLogFile.bytes with
  | false =>
      rw [named] at ran
      cases ran
  | true =>
      rw [named] at ran
      obtain ⟨json, encoded, ran⟩ := bind_eq_ok.mp ran
      cases json with
      | none => cases ran
      | some text =>
          cases opens with
          | false => cases ran
          | true => exact ⟨rfl, rfl, text, encoded⟩

theorem recorded_jsonLogBadActorRs_iff :
    Recorded (badActorToJsonRs serde badActor) logfile
        (LogFile.jsonLogBadActorRs serde capacity opens writes config badActor logfile) ↔
      ¬ LostByDrop (badActorToJsonRs serde badActor) capacity opens writes config := by
  by_cases tried : validUtf8 config.jsonLogFile.bytes = true ∧ opens = true ∧
      ∃ text, badActorToJsonRs serde badActor = .ok (some text)
  · obtain ⟨named, opened, text, encoded⟩ := tried
    rw [jsonLogBadActorRs_logged named opened encoded, recorded_cut_iff encoded]
    by_cases short : text.length + 1 < capacity
    · obtain ⟨dropped, ok⟩ := bufWriterDrop_held writes short
      have left := writeAll_le writes 0 (text.length + 1)
      rw [dropped, ok]
      constructor
      · rintro whole ⟨-, -, _, same, -, fails⟩
        cases encoded.symm.trans same
        have := whole rfl
        omega
      · intro kept _
        by_contra cut
        exact kept ⟨named, opened, text, encoded, short, by omega⟩
    · refine iff_of_true (fun ok => (bufWriterDrop_direct short ok).ge) ?_
      rintro ⟨-, -, _, same, held, -⟩
      cases encoded.symm.trans same
      exact short held
  · refine iff_of_true (fun after ran => absurd (jsonLogBadActorRs_success ran) tried) ?_
    rintro ⟨named, opened, text, encoded, -⟩
    exact tried ⟨named, opened, text, encoded⟩

/-! ## The model of the log without its writes -/

/-- Whatever the writes do, the call is one of the model that only knows how much has arrived. -/
theorem jsonLogBadActor_io : ∃ io : LogIo, io.opens = opens ∧
    LogFile.jsonLogBadActor build jansson serde stdio opens writes closes badActor logfile =
      jsonLogBadActor build jansson serde io badActor logfile := by
  cases encoded : logEncoder build jansson serde badActor with
  | error abort =>
      refine ⟨⟨opens, true, none, true⟩, rfl, ?_⟩
      rw [LogFile.jsonLogBadActor, jsonLogBadActor, encoded]
      rfl
  | ok json =>
      cases json with
      | none =>
          refine ⟨⟨opens, true, none, true⟩, rfl, ?_⟩
          rw [LogFile.jsonLogBadActor, jsonLogBadActor, encoded]
          rfl
      | some text =>
          let closed := LogFile.fclose writes closes
            (LogFile.fprintf stdio writes (text.bytes ++ [0x0A]).length)
          refine ⟨⟨opens, true, some closed.1, closed.2⟩, rfl, ?_⟩
          rw [LogFile.jsonLogBadActor, jsonLogBadActor, encoded]
          rfl

theorem jsonLogBadActorRs_io : ∃ io : LogIo, io.opens = opens ∧
    LogFile.jsonLogBadActorRs serde capacity opens writes config badActor logfile =
      jsonLogBadActorRs serde io config badActor logfile := by
  cases encoded : badActorToJsonRs serde badActor with
  | error abort =>
      refine ⟨⟨opens, true, none, true⟩, rfl, ?_⟩
      rw [LogFile.jsonLogBadActorRs, jsonLogBadActorRs, encoded]
      rfl
  | ok json =>
      cases json with
      | none =>
          refine ⟨⟨opens, true, none, true⟩, rfl, ?_⟩
          rw [LogFile.jsonLogBadActorRs, jsonLogBadActorRs, encoded]
          rfl
      | some text =>
          let buf := LogFile.bufWriterWriteAll capacity writes (text.bytes ++ [0x0A]).length
          refine ⟨⟨opens, buf.2, some (LogFile.bufWriterDrop writes buf.1), true⟩, rfl, ?_⟩
          rw [LogFile.jsonLogBadActorRs, jsonLogBadActorRs, encoded]
          rfl

end Loggers

theorem json_log_recorded_iff (build : Build) (jansson : Jansson) (serde : Serde)
    (stdio : LogFile.Stdio) (capacity : Nat) (opens : Bool) (writes : LogFile.Writes)
    (closes : Bool) (config : Config) (badActor : BadActor) (logfile : List UInt8) :
    (Recorded (logEncoder build jansson serde badActor) logfile
        (LogFile.jsonLogBadActor build jansson serde stdio opens writes closes badActor logfile) ↔
      ¬ LostByFprintf (logEncoder build jansson serde badActor) stdio opens writes closes) ∧
    (Recorded (badActorToJsonRs serde badActor) logfile
        (LogFile.jsonLogBadActorRs serde capacity opens writes config badActor logfile) ↔
      ¬ LostByDrop (badActorToJsonRs serde badActor) capacity opens writes config) :=
  ⟨recorded_jsonLogBadActor_iff, recorded_jsonLogBadActorRs_iff⟩

/-! ## A full disk -/

def fullDisk : LogFile.Writes := fun _ => none

theorem writeAll_fullDisk (call left : Nat) : (LogFile.writeAll fullDisk call left).1 = left := by
  cases left with
  | zero => rw [LogFile.writeAll]
  | succ left => rw [LogFile.writeAll]; rfl

theorem fclose_fullDisk {stdio : LogFile.Stdio} {length : Nat} (closes : Bool)
    (early : stdio.early length ≠ 0) :
    LogFile.fclose fullDisk closes (LogFile.fprintf stdio fullDisk length) = (0, closes) := by
  simp [LogFile.fprintf, LogFile.fclose, writeAll_fullDisk, early]

/-- Whole pages go out with `fprintf`. -/
def pagedStdio : LogFile.Stdio where
  bufsiz := 4096
  early length := if length ≤ 4096 then 0 else length / 4096 * 4096
  early_le length := by
    split_ifs
    · exact Nat.zero_le length
    · exact Nat.div_mul_le_self length 4096
  buffered length small := if_pos small

def longActor : BadActor := { inviteActor (.lit "100") with
  sipMessage := some ⟨List.replicate 4096 0x61,
    fun member => absurd (List.eq_of_mem_replicate member) (by decide)⟩ }

theorem length_le_eventText {badActor : BadActor} {field : String × Option CStr}
    (member : field ∈ badActorFields badActor) :
    (orEmpty field.2).length ≤ (eventText badActor).length := by
  have printed : (keyBytes field.1, (orEmpty field.2).bytes) ∈
      (badActorMembers badActor).map fun member => (keyBytes member.1, member.2) := by
    apply List.mem_map_of_mem (f := fun member => (keyBytes member.1, member.2))
      (a := (field.1, (orEmpty field.2).bytes))
    apply List.mem_cons_of_mem
    apply List.mem_cons_of_mem
    exact List.mem_map_of_mem (f := fun field => (field.1, (orEmpty field.2).bytes)) member
  have length := length_le_printMembers true printed
  simp only [eventText, compactJansson, stringMembers_flatObject, printFlat, CStr.length,
    List.length_cons] at length ⊢
  omega

theorem longActor_utf8 : Utf8Fields longActor := by
  have fields : badActorFields longActor = (badActorFields (inviteActor (.lit "100"))).dropLast ++
      [("sip_message", longActor.sipMessage)] := rfl
  intro field member
  rw [fields] at member
  rcases List.mem_append.mp member with short | last
  · exact inviteActor_utf8 field (List.dropLast_subset _ short)
  · rw [List.mem_singleton.mp last]
    apply Plain.validUtf8
    intro b letter
    rw [List.eq_of_mem_replicate letter]
    decide

theorem jsonLogBadActorRs_full_disk :
    LogFile.jsonLogBadActorRs compactSerde 8192 true fullDisk plainConfig (inviteActor (.lit "100"))
      [] = .ok (.success, []) := by
  have encoded : badActorToJsonRs compactSerde (inviteActor (.lit "100")) = .ok (some
      (compactSerde.toText (serdeMap (badActorMembers (inviteActor (.lit "100")))))) := by
    rw [badActorToJsonRs, badActorJsonRs_eq, if_pos inviteActor_utf8]
    rfl
  have short : (compactSerde.toText (serdeMap (badActorMembers
      (inviteActor (.lit "100"))))).length + 1 < 8192 := by decide +kernel
  obtain ⟨dropped, ok⟩ := bufWriterDrop_held fullDisk short
  rw [jsonLogBadActorRs_logged (by decide) rfl encoded, dropped, ok, writeAll_fullDisk, Nat.sub_self]
  rfl

theorem jsonLogBadActor_full_disk :
    LogFile.jsonLogBadActor cBuild compactJansson compactSerde pagedStdio true fullDisk true
      longActor [] = .ok (.success, []) := by
  have encoded : logEncoder cBuild compactJansson compactSerde longActor =
      .ok (some (eventText longActor)) := by
    rw [logEncoder, eventText_encodes longActor_utf8]
    rfl
  have inside : ("sip_message", longActor.sipMessage) ∈ badActorFields longActor := by
    simp [badActorFields]
  have message : (orEmpty longActor.sipMessage).length = 4096 := List.length_replicate
  have long := length_le_eventText inside
  have early : pagedStdio.early ((eventText longActor).length + 1) ≠ 0 := by
    rw [message] at long
    simp only [pagedStdio]
    split_ifs <;> omega
  rw [jsonLogBadActor_logged rfl encoded, fclose_fullDisk true early]
  rfl

/-- Both loggers report success, and the file is still empty. -/
theorem json_log_full_disk :
    LogFile.jsonLogBadActorRs compactSerde 8192 true fullDisk plainConfig (inviteActor (.lit "100"))
        [] = .ok (.success, []) ∧
    LogFile.jsonLogBadActor cBuild compactJansson compactSerde pagedStdio true fullDisk true
        longActor [] = .ok (.success, []) ∧
    ¬ Recorded (badActorToJsonRs compactSerde (inviteActor (.lit "100"))) []
      (LogFile.jsonLogBadActorRs compactSerde 8192 true fullDisk plainConfig
        (inviteActor (.lit "100")) []) ∧
    ¬ Recorded (logEncoder cBuild compactJansson compactSerde longActor) []
      (LogFile.jsonLogBadActor cBuild compactJansson compactSerde pagedStdio true fullDisk true
        longActor []) := by
  refine ⟨jsonLogBadActorRs_full_disk, jsonLogBadActor_full_disk, fun recorded => ?_,
    fun recorded => ?_⟩
  · obtain ⟨text, -, empty⟩ := recorded [] jsonLogBadActorRs_full_disk
    simp at empty
  · obtain ⟨text, -, empty⟩ := recorded [] jsonLogBadActor_full_disk
    simp at empty

end SentryPeer.Proof
