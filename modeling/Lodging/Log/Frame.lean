import Lodging.Log.Checksum
import Lodging.Log.Payload

/-!
# Frames

Each event of the log stands in a frame: the length of its payload, the payload, and the checksum of
the payload. Recovery reads frame after frame and stops at the first that is cut short, damaged or
without a meaning; what stands from there on is the torn tail of the log.
-/

namespace Lodging

open Log

/-- Payloads as long as this do not fit a frame. -/
def Log.payloadBound : Nat := 0x1_0000_0000

def Event.frame (e : Event) : Bytes :=
  littleEndian 4 e.payload.length ++ e.payload ++
    littleEndian 4 (Checksum.crc32 e.payload).toNat

namespace Log

/-- The log of some events. -/
def encode (events : List Event) : Bytes := events.flatMap Event.frame

namespace Reader

/-- Takes nothing, and goes on with what was already found, if anything. -/
def found {α : Type} (a? : Option α) : Reader α := fun bytes => a?.map (·, bytes)

def frame : Reader Event := do
  let payload ← take (← number 4)
  let checksum ← number 4
  found (if checksum = (Checksum.crc32 payload).toNat then Event.ofPayload? payload else none)

theorem length_take_lt {count : Nat} {bytes front rest : Bytes} (hcount : 0 < count)
    (h : take count bytes = some (front, rest)) : rest.length < bytes.length := by
  simp only [take] at h
  split at h
  · rename_i hlength
    obtain ⟨rfl, rfl⟩ := Prod.mk.inj (Option.some.inj h)
    rw [List.length_take] at hlength
    rw [List.length_drop]
    omega
  · simp at h

theorem length_take_le {count : Nat} {bytes front rest : Bytes}
    (h : take count bytes = some (front, rest)) : rest.length ≤ bytes.length := by
  simp only [take] at h
  split at h
  · obtain ⟨rfl, rfl⟩ := Prod.mk.inj (Option.some.inj h)
    rw [List.length_drop]
    omega
  · simp at h

theorem length_frame_lt {bytes rest : Bytes} {e : Event} (h : frame bytes = some (e, rest)) :
    rest.length < bytes.length := by
  change frame.run bytes = some (e, rest) at h
  simp only [frame, number, StateT.run_bind, StateT.run_pure, Option.bind_eq_bind, Option.pure_def,
    Option.bind_eq_some_iff, Option.some.injEq, Prod.exists, Prod.mk.injEq] at h
  obtain ⟨_, _, ⟨_, _, hlength, rfl, rfl⟩, payload, _, hpayload, _, _, ⟨_, _, hchecksum, rfl, rfl⟩,
    hfound⟩ := h
  obtain ⟨_, _, heq⟩ := Option.map_eq_some_iff.mp hfound
  have h1 := length_take_lt (by decide) hlength
  have h2 := length_take_le hpayload
  have h3 := length_take_le hchecksum
  rw [← (Prod.mk.inj heq).2]
  omega

end Reader

/-- Reads frames from the front of some bytes, as many as are sound, and keeps what follows. -/
def scan (bytes : Bytes) : List Event × Bytes :=
  match _h : Reader.frame bytes with
  | some (event, rest) =>
    let (events, tail) := scan rest
    (event :: events, tail)
  | none => ([], bytes)
termination_by bytes.length
decreasing_by exact Reader.length_frame_lt _h

structure Recovery where
  events : List Event
  /-- The length of the sound frames together. -/
  validLength : Nat
  discardedTail : Bool
deriving DecidableEq

/-- Reads a log. -/
def recover (bytes : Bytes) : Recovery :=
  let (events, tail) := scan bytes
  { events
    validLength := bytes.length - tail.length
    discardedTail := !tail.isEmpty }

end Log

end Lodging
