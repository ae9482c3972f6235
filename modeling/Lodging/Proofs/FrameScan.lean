import Lodging.Proofs.EventCodec

/-!
# Scanning a log

A frame is read from the front of the log alone, so a log that is followed by more bytes is read
piece by piece. Hence the log of some events reads back as these events, a log cut at any byte reads
back as some of its first events, and the sound part of any file stands on its own.
-/

namespace Lodging.Log

namespace Reader

/-- What the reader gives depends only on bytes at the front of its input. -/
def ReadsFront {α : Type} (read : Reader α) : Prop :=
  ∀ bytes a rest, read bytes = some (a, rest) →
    ∃ front, bytes = front ++ rest ∧ Reads read front a

namespace ReadsFront

variable {α β : Type} {read : Reader α}

theorem bind {next : α → Reader β} (hread : ReadsFront read)
    (hnext : ∀ a, ReadsFront (next a)) : ReadsFront (read >>= next) := by
  intro bytes b rest h
  obtain ⟨⟨a, middle⟩, hfirst, hsecond⟩ := Option.bind_eq_some_iff.mp h
  obtain ⟨front, rfl, hfront⟩ := hread _ _ _ hfirst
  obtain ⟨back, rfl, hback⟩ := hnext a _ _ _ hsecond
  exact ⟨front ++ back, (List.append_assoc ..).symm, hfront.bind hback⟩

theorem map {f : α → β} (hread : ReadsFront read) : ReadsFront (do return f (← read)) := by
  refine bind hread fun a => ?_
  intro bytes b rest h
  obtain ⟨rfl, rfl⟩ := Prod.mk.inj (Option.some.inj h)
  exact ⟨[], rfl, fun _ => rfl⟩

theorem take (count : Nat) : ReadsFront (Reader.take count) := by
  intro bytes front rest h
  simp only [Reader.take] at h
  split at h
  · next hlength =>
      obtain ⟨rfl, rfl⟩ := Prod.mk.inj (Option.some.inj h)
      refine ⟨bytes.take count, (List.take_append_drop count bytes).symm, ?_⟩
      have htake := Reads.take (bytes.take count)
      rwa [hlength] at htake
  · cases h

theorem found (a? : Option α) : ReadsFront (Reader.found a?) := by
  intro bytes a rest h
  obtain ⟨a, rfl, heq⟩ := Option.map_eq_some_iff.mp h
  obtain ⟨rfl, rfl⟩ := Prod.mk.inj heq
  exact ⟨[], rfl, fun _ => rfl⟩

theorem frame : ReadsFront Reader.frame := by
  refine bind (map (take 4)) fun length => bind (take length) fun payload => ?_
  exact bind (map (take 4)) fun checksum => found _

end ReadsFront

/-- Reading a frame undoes writing it. -/
theorem Reads.frame {e : Event} (he : e.payload.length < payloadBound) :
    Reads Reader.frame e.frame e := by
  have hpayload : Event.ofPayload? e.payload = some e := by
    have h := Reads.event he []
    rw [List.append_nil] at h
    change (Reader.event e.payload).map (·.1) = some e
    rw [h, Option.map_some]
  have hchecksum : (Checksum.crc32 e.payload).toNat < 256 ^ 4 :=
    (Checksum.crc32 e.payload).toNat_lt
  simp only [Reader.frame, Event.frame, List.append_assoc]
  refine bind (number he) (bind (Reads.take _) (bind_lift (number hchecksum) fun rest => ?_))
  rw [if_pos rfl, hpayload]
  rfl

end Reader

/-! ## Scanning -/

theorem scan_of_frame {bytes rest : Bytes} {e : Event} (h : Reader.frame bytes = some (e, rest)) :
    scan bytes = (e :: (scan rest).1, (scan rest).2) := by
  rw [scan]
  split
  · next e' rest' h' =>
      obtain ⟨rfl, rfl⟩ := Prod.mk.inj (Option.some.inj (h.symm.trans h'))
      rfl
  · next h' => cases h.symm.trans h'

theorem scan_of_no_frame {bytes : Bytes} (h : Reader.frame bytes = none) :
    scan bytes = ([], bytes) := by
  rw [scan]
  split
  · next h' => cases h.symm.trans h'
  · rfl

@[simp] theorem scan_nil : scan [] = ([], []) := scan_of_no_frame rfl

/-- Bytes are scanned piece by piece: what the first piece leaves over goes to the second. -/
theorem scan_append (front back : Bytes) :
    scan (front ++ back) =
      ((scan front).1 ++ (scan ((scan front).2 ++ back)).1,
        (scan ((scan front).2 ++ back)).2) := by
  induction front using scan.induct with
  | case1 bytes e rest h events tail htail ih =>
      obtain ⟨first, rfl, hfirst⟩ := Reader.ReadsFront.frame _ _ _ h
      -- The frame at the front of the first piece is the one at the front of both.
      have hwhole : Reader.frame (first ++ rest ++ back) = some (e, rest ++ back) := by
        rw [List.append_assoc]
        exact hfirst _
      rw [scan_of_frame hwhole, scan_of_frame h, ih]
      rfl
  | case2 bytes h => rw [scan_of_no_frame h]; rfl

/-- The bytes are sound frames of the events, one after the other. -/
def Holds (bytes : Bytes) (events : List Event) : Prop := scan bytes = (events, [])

namespace Holds

variable {bytes more : Bytes} {events later : List Event}

theorem nil : Holds [] [] := scan_nil

theorem append (h : Holds bytes events) (hmore : Holds more later) :
    Holds (bytes ++ more) (events ++ later) := by
  unfold Holds at *
  rw [scan_append, h, List.nil_append, hmore]

theorem frame {e : Event} (he : e.payload.length < payloadBound) : Holds e.frame [e] := by
  have h := Reader.Reads.frame he []
  rw [List.append_nil] at h
  rw [Holds, scan_of_frame h, scan_nil]

theorem encode (h : ∀ e ∈ events, e.payload.length < payloadBound) :
    Holds (Log.encode events) events := by
  induction events with
  | nil => exact nil
  | cons e rest ih =>
      exact (frame (h e List.mem_cons_self)).append
        (ih fun e' he' => h e' (List.mem_cons_of_mem _ he'))

theorem recover (h : Holds bytes events) :
    Log.recover bytes = { events, validLength := bytes.length, discardedTail := false } := by
  have hscan : scan bytes = (events, []) := h
  simp only [Log.recover, hscan, List.length_nil, Nat.sub_zero, List.isEmpty_nil, Bool.not_true]

end Holds

/-- Bytes are sound frames and a tail. -/
theorem exists_holds_append_tail (bytes : Bytes) :
    ∃ sound, bytes = sound ++ (scan bytes).2 ∧ Holds sound (scan bytes).1 := by
  induction bytes using scan.induct with
  | case1 bytes e rest h events tail htail ih =>
      obtain ⟨first, rfl, hfirst⟩ := Reader.ReadsFront.frame _ _ _ h
      obtain ⟨sound, hrest, hsound⟩ := ih
      refine ⟨first ++ sound, ?_, ?_⟩
      · rw [scan_of_frame h, List.append_assoc, ← hrest]
      · rw [scan_of_frame h, Holds, scan_of_frame (hfirst sound), hsound]
  | case2 bytes h =>
      rw [scan_of_no_frame h]
      exact ⟨[], rfl, .nil⟩

/-- The part of a file that recovery keeps holds the events that recovery finds. -/
theorem holds_take_validLength (file : Bytes) :
    Holds (file.take (recover file).validLength) (recover file).events := by
  obtain ⟨sound, hfile, hsound⟩ := exists_holds_append_tail file
  -- The valid length is what the scan has not left over.
  have hlength : (recover file).validLength = sound.length := by
    change file.length - (scan file).2.length = sound.length
    have h := congrArg List.length hfile
    rw [List.length_append] at h
    omega
  have htake : file.take sound.length = sound := by
    conv => lhs; rw [hfile]
    exact List.take_left
  rw [hlength, htake]
  exact hsound

/-- The front of a file holds some of the first events of the file. -/
theorem recover_events_of_isPrefix {front file : Bytes} (h : front <+: file) :
    (recover front).events <+: (recover file).events := by
  obtain ⟨back, rfl⟩ := h
  change (scan front).1 <+: (scan (front ++ back)).1
  rw [scan_append]
  exact ⟨_, rfl⟩

end Lodging.Log
