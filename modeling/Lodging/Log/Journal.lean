import Lodging.Log.Frame
import Lodging.Log.Output

/-!
# The journal

The open log. Events are appended through a buffer and become durable together when the journal is
flushed. If an append or a flush fails, everything since the last good flush is thrown away, in
memory and in the file, so that a batch reported as failed does not come back later. A journal whose
file could not be cut back is poisoned and takes nothing any more.
-/

namespace Lodging.Log

/-- The open log. -/
structure Journal where
  output : Output
  /-- The length of the file after the last good flush. -/
  durableLength : Nat
  /-- Bytes and events appended since then. -/
  pendingLength : Nat
  pendingEvents : Nat
  /-- Events appended since the last compaction. -/
  appends : Nat
  /-- Whether a failed batch could not be cut off the file. -/
  poisoned : Bool
deriving DecidableEq

namespace Journal

def file (j : Journal) : Bytes := j.output.file

/-- Opens a log of which the first `validLength` bytes are sound, and cuts off the rest. -/
def openAt (file : Bytes) (validLength : Nat) : Journal where
  output := ⟨file.take validLength, []⟩
  durableLength := (file.take validLength).length
  pendingLength := 0
  pendingEvents := 0
  appends := 0
  poisoned := false

/-- Opens a log at the end of its sound part. -/
def recover (file : Bytes) : Journal := Journal.openAt file (Log.recover file).validLength

/-- Cuts the file back to its durable part and empties the buffer. When a step fails the journal is
poisoned, and without a second handle on the file the old buffer stays in place. -/
def cutBack (c : Conditions) (j : Journal) : Journal :=
  let emptied := { j with output := ⟨j.file, []⟩ }
  let cut := { j with output := ⟨j.file.take j.durableLength, []⟩ }
  match c.rollbackFault with
  | none => cut
  | some .handle => { j with poisoned := true }
  | some .length => { emptied with poisoned := true }
  | some .cut => if j.durableLength < j.file.length then { emptied with poisoned := true } else cut
  | some .sync => if j.durableLength < j.file.length then { cut with poisoned := true } else cut

/-- Throws away all that was appended since the last good flush. -/
def discardPending (c : Conditions) (j : Journal) : Journal :=
  { j with
    appends := j.appends - j.pendingEvents
    pendingLength := 0
    pendingEvents := 0 }.cutBack c

/-- Appends an event to the batch that the next flush makes durable. If this fails, the batch is
thrown away. -/
def append (c : Conditions) (e : Event) (j : Journal) : Except IoError Unit × Journal :=
  if j.poisoned then (.error .logUnusable, j)
  else if payloadBound ≤ e.payload.length then (.error .eventTooLarge, j.discardPending c)
  else
    let pieces := [littleEndian 4 e.payload.length, e.payload,
      littleEndian 4 (Checksum.crc32 e.payload).toNat]
    match j.output.writeAll c pieces with
    | (true, output) =>
      (.ok (), { j with
        output
        pendingLength := j.pendingLength + e.frame.length
        pendingEvents := j.pendingEvents + 1
        appends := j.appends + 1 })
    | (false, output) => (.error c.writeError, { j with output }.discardPending c)

/-- Makes the batch durable. If this fails, the batch is thrown away. -/
def flush (c : Conditions) (j : Journal) : Except IoError Unit × Journal :=
  if j.poisoned then (.error .logUnusable, j)
  else
    let j := { j with output := j.output.drain c }
    if j.output.unwritten ≠ [] then (.error c.writeError, j.discardPending c)
    else match c.syncError with
      | some e => (.error e, j.discardPending c)
      | none =>
        (.ok (), { j with
          durableLength := j.durableLength + j.pendingLength
          pendingLength := 0
          pendingEvents := 0 })

/-- The file that holds the given events, if it can be written. -/
def writeSnapshot (c : Conditions) (events : List Event) : Except IoError Bytes :=
  match c.snapshotError with
  | some e => .error e
  | none =>
    if events.any fun e => payloadBound ≤ e.payload.length then .error .eventTooLarge
    else
      let log := encode events
      if c.fitting 0 log.length < log.length then .error c.writeError else .ok log

/-- Replaces the log by the given events: a file that holds them takes the place of the log file.
Events that wait for a flush are flushed first. If a step fails, the log stays as it is. -/
def compact (c : Conditions) (events : List Event) (j : Journal) : Except IoError Unit × Journal :=
  if j.poisoned then (.error .logUnusable, j)
  else
    match if j.pendingEvents = 0 then (.ok (), j) else j.flush c with
    | (.error e, j) => (.error e, j)
    | (.ok (), j) =>
      match writeSnapshot c events, c.renameError with
      | .error e, _ => (.error e, j)
      | .ok _, some e => (.error e, j)
      | .ok log, none =>
        (.ok (), { j with
          output := ⟨log, []⟩
          durableLength := log.length
          pendingLength := 0
          appends := 0 })

/-- The file that is left when the journal is closed. A buffer that still holds bytes is written out
as far as the disk allows. -/
def close (c : Conditions) (j : Journal) : Bytes := (j.output.drain c).file

end Journal

end Lodging.Log
