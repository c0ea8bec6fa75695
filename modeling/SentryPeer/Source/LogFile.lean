import SentryPeer.Source.Stores

/-!
# The log file, write by write

`json_log_bad_actor` and `json_log_bad_actor_rs` over the `write` calls that stdio and `BufWriter`
make for them. Both libraries go on after a short write and stop at one that fails; what they have not
written by then is lost.
-/

namespace SentryPeer.LogFile
open Lib

/-- How the `write` calls end, in order: a call fails, or it takes one byte and this many more of
those that it is given. -/
abbrev Writes := Nat → Option Nat

/-- The loop over `write`, from a call on: how many bytes it leaves, and the call that is next. -/
def writeAll (writes : Writes) (call : Nat) : (left : Nat) → Nat × Nat
  | 0 => (0, call)
  | left + 1 =>
      match writes call with
      | none => (left + 1, call + 1)
      | some more => writeAll writes (call + 1) (left - more)
termination_by left => left

/-! ## stdio -/

/-- How many bytes of a line stdio writes before `fclose`: none as long as its buffer holds the
line. -/
structure Stdio where
  bufsiz : Nat
  early : Nat → Nat
  early_le : ∀ length, early length ≤ length
  buffered : ∀ length ≤ bufsiz, early length = 0

/-- A stream after the line: what has reached the file, what the buffer holds, and the next call. -/
structure Stream where
  written : Nat
  held : Nat
  call : Nat

def fprintf (stdio : Stdio) (writes : Writes) (length : Nat) : Stream :=
  let done := writeAll writes 0 (stdio.early length)
  if done.1 = 0 then ⟨stdio.early length, length - stdio.early length, done.2⟩
  else ⟨stdio.early length - done.1, 0, done.2⟩

/-- What has reached the file in the end, and whether `fclose` succeeds. -/
def fclose (writes : Writes) (closes : Bool) (stream : Stream) : Nat × Bool :=
  let done := writeAll writes stream.call stream.held
  (stream.written + (stream.held - done.1), done.1 = 0 && closes)

def jsonLogBadActor (build : Build) (jansson : Jansson) (serde : Serde) (stdio : Stdio)
    (opens : Bool) (writes : Writes) (closes : Bool) (badActor : BadActor) (logfile : List UInt8) :
    Except Abort (Exit × List UInt8) := do
  if !opens then return (.failure, logfile)
  match ← logEncoder build jansson serde badActor with
  | none => return (.failure, logfile)
  | some jsonString =>
      let line := jsonString.bytes ++ [0x0A]
      let closed := fclose writes closes (fprintf stdio writes line.length)
      let logfile := logfile ++ line.take closed.1
      if !closed.2 then return (.failure, logfile)
      return (.success, logfile)

/-! ## `BufWriter` -/

-- A line as long as the buffer goes out at once, with `write_all` of the file.
def bufWriterWriteAll (capacity : Nat) (writes : Writes) (length : Nat) : Stream × Bool :=
  if length < capacity then (⟨0, length, 0⟩, true)
  else
    let done := writeAll writes 0 length
    (⟨length - done.1, 0, done.2⟩, done.1 = 0)

-- The error of this flush is not reported.
def bufWriterDrop (writes : Writes) (buf : Stream) : Nat :=
  buf.written + (buf.held - (writeAll writes buf.call buf.held).1)

def jsonLogBadActorRs (serde : Serde) (capacity : Nat) (opens : Bool) (writes : Writes)
    (config : Config) (badActor : BadActor) (logfile : List UInt8) :
    Except Abort (Exit × List UInt8) :=
  if !validUtf8 config.jsonLogFile.bytes then .error (.panic .jsonLogBadActorRs)
  else do
    match ← badActorToJsonRs serde badActor with
    | none => .error (.nullPointer .jsonLogBadActorRs)
    | some json =>
        if !opens then return (.failure, logfile)
        let line := json.bytes ++ [0x0A]
        let buf := bufWriterWriteAll capacity writes line.length
        let logfile := logfile ++ line.take (bufWriterDrop writes buf.1)
        if !buf.2 then return (.failure, logfile)
        return (.success, logfile)

end SentryPeer.LogFile
