import Lodging.Proofs.FrameScan

/-!
# Logs that end anywhere

A log may be cut inside the length, the payload or the checksum of a frame. What is left of that
frame reads as no frame at all, so exactly the events whose frames end before the cut are read back,
and a tail is discarded exactly if the cut is not at a place where a frame ends.
-/

namespace Lodging.Log

/-! ## Where frames end -/

/-- The events of a log, each with the place where its frame ends if the log begins at `start`. -/
def framesFrom (start : Nat) : List Event → List (Event × Nat)
  | [] => []
  | e :: rest => (e, start + e.frame.length) :: framesFrom (start + e.frame.length) rest

/-- The events of a log whose frames end at or before the given place. -/
def eventsWithin (start place : Nat) (events : List Event) : List Event :=
  ((framesFrom start events).filter fun frame => decide (frame.2 ≤ place)).map (·.1)

/-- At the place a frame ends, or the log begins. -/
def IsBoundary (start place : Nat) (events : List Event) : Prop :=
  place = start ∨ ∃ frame ∈ framesFrom start events, frame.2 = place

variable {e : Event} {rest : List Event} {start place : Nat}

theorem length_frame (e : Event) : e.frame.length = e.payload.length + 8 := by
  simp only [Event.frame, List.length_append, length_littleEndian]
  omega

theorem length_encode (events : List Event) :
    (encode events).length = (events.map fun e => e.frame.length).sum :=
  List.length_flatMap

theorem encode_cons (e : Event) (rest : List Event) : encode (e :: rest) = e.frame ++ encode rest :=
  List.flatMap_cons

theorem le_of_mem_framesFrom {events : List Event} {frame : Event × Nat}
    (h : frame ∈ framesFrom start events) : start ≤ frame.2 := by
  induction events generalizing start with
  | nil => simp [framesFrom] at h
  | cons e rest ih =>
      rcases List.mem_cons.mp h with rfl | h
      · exact Nat.le_add_right _ _
      · exact Nat.le_trans (Nat.le_add_right _ _) (ih h)

theorem end_le_of_mem_framesFrom {frame : Event × Nat} (h : frame ∈ framesFrom start (e :: rest)) :
    start + e.frame.length ≤ frame.2 := by
  rcases List.mem_cons.mp h with rfl | h
  · exact Nat.le_refl _
  · exact le_of_mem_framesFrom h

theorem eventsWithin_cons_of_le (h : start + e.frame.length ≤ place) :
    eventsWithin start place (e :: rest) =
      e :: eventsWithin (start + e.frame.length) place rest := by
  simp [eventsWithin, framesFrom, h]

theorem eventsWithin_cons_of_lt (h : place < start + e.frame.length) :
    eventsWithin start place (e :: rest) = [] := by
  refine List.map_eq_nil_iff.mpr (List.filter_eq_nil_iff.mpr fun frame hframe => ?_)
  have hend := end_le_of_mem_framesFrom hframe
  simp only [decide_eq_true_eq]
  omega

theorem isBoundary_cons_of_le (h : start + e.frame.length ≤ place) :
    IsBoundary start place (e :: rest) ↔ IsBoundary (start + e.frame.length) place rest := by
  have hlength := length_frame e
  have hne : place ≠ start := by omega
  simp only [IsBoundary, framesFrom, List.mem_cons, exists_eq_or_imp, hne, false_or, eq_comm]

theorem isBoundary_cons_of_lt (h : place < start + e.frame.length) :
    IsBoundary start place (e :: rest) ↔ place = start := by
  refine or_iff_left ?_
  rintro ⟨frame, hframe, rfl⟩
  have hend := end_le_of_mem_framesFrom hframe
  omega

/-! ## Scanning the front of a log -/

/-- The front of a frame is no frame. -/
theorem frame_take_eq_none (he : e.payload.length < payloadBound) {k : Nat}
    (hk : k < e.frame.length) : Reader.frame (e.frame.take k) = none := by
  cases hread : Reader.frame (e.frame.take k) with
  | none => rfl
  | some read =>
      obtain ⟨e', left⟩ := read
      obtain ⟨front, hfront, hreads⟩ := Reader.ReadsFront.frame _ _ _ hread
      -- What is read from the front is read from the frame as well, and leaves something over.
      have hwhole : e.frame = front ++ (left ++ e.frame.drop k) := by
        rw [← List.append_assoc, ← hfront, List.take_append_drop]
      have hframe := Reader.Reads.frame he []
      rw [List.append_nil, hwhole, hreads] at hframe
      have hnothing := (Prod.mk.inj (Option.some.inj hframe)).2
      have hdrop := List.drop_eq_nil_iff.mp (List.append_eq_nil_iff.mp hnothing).2
      omega

/-- What is read from the front of a log up to a cut, what is left over, and how long both are. -/
theorem scan_take_encode {events : List Event} (h : ∀ e ∈ events, e.payload.length < payloadBound)
    (start : Nat) {k : Nat} (hk : k ≤ (encode events).length) :
    ∃ tail, scan ((encode events).take k) = (eventsWithin start (start + k) events, tail) ∧
      (encode (eventsWithin start (start + k) events)).length + tail.length = k ∧
      (tail = [] ↔ IsBoundary start (start + k) events) := by
  induction events generalizing start k with
  | nil =>
      obtain rfl : k = 0 := Nat.le_zero.mp hk
      exact ⟨[], scan_nil, rfl, by simp [IsBoundary]⟩
  | cons e rest ih =>
      have he := h e List.mem_cons_self
      rw [encode_cons, List.length_append] at hk
      by_cases hwhole : e.frame.length ≤ k
      · -- The cut falls behind the first frame.
        have hend : start + e.frame.length ≤ start + k := Nat.add_le_add_left hwhole start
        have hplace : start + e.frame.length + (k - e.frame.length) = start + k := by omega
        obtain ⟨tail, hscan, hlength, hboundary⟩ := ih
          (fun e' he' => h e' (List.mem_cons_of_mem _ he')) (start + e.frame.length)
          (k := k - e.frame.length) (by omega)
        rw [hplace] at hscan hlength hboundary
        refine ⟨tail, ?_, ?_, ?_⟩
        · rw [encode_cons, List.take_append, List.take_of_length_le hwhole, scan_append,
            Holds.frame he, List.nil_append, hscan, eventsWithin_cons_of_le hend]
          rfl
        · rw [eventsWithin_cons_of_le hend, encode_cons, List.length_append]
          omega
        · rw [hboundary, isBoundary_cons_of_le hend]
      · -- The cut falls into the first frame.
        have hcut : k < e.frame.length := Nat.lt_of_not_le hwhole
        have hend : start + k < start + e.frame.length := Nat.add_lt_add_left hcut start
        have htail : (e.frame.take k).length = k := List.length_take_of_le (Nat.le_of_lt hcut)
        refine ⟨e.frame.take k, ?_, ?_, ?_⟩
        · rw [encode_cons, List.take_append_of_le_length (Nat.le_of_lt hcut),
            scan_of_no_frame (frame_take_eq_none he hcut), eventsWithin_cons_of_lt hend]
        · rw [eventsWithin_cons_of_lt hend, htail]
          exact Nat.zero_add k
        · rw [isBoundary_cons_of_lt hend, ← List.length_eq_zero_iff, htail]
          omega

/-- A log that is cut at any byte reads back as the events whose frames end at or before the cut.
What is kept of it are their frames, and a tail is discarded exactly if no frame ends at the cut. A
log that is not cut reads back whole. -/
theorem recover_take_encode {events : List Event}
    (h : ∀ e ∈ events, e.payload.length < payloadBound) {k : Nat}
    (hk : k ≤ (encode events).length) :
    let r := recover ((encode events).take k)
    r.events = eventsWithin 0 k events ∧
      r.validLength = ((eventsWithin 0 k events).map fun e => e.frame.length).sum ∧
      (r.discardedTail = true ↔ ¬ IsBoundary 0 k events) ∧
      recover (encode events) = ⟨events, (encode events).length, false⟩ := by
  intro r
  obtain ⟨tail, hscan, hlength, hboundary⟩ := scan_take_encode h 0 hk
  rw [Nat.zero_add] at hscan hlength hboundary
  have hk : ((encode events).take k).length = k := List.length_take_of_le hk
  refine ⟨?_, ?_, ?_, (Holds.encode h).recover⟩
  · simp only [r, recover, hscan]
  · simp only [r, recover, hscan, hk, ← length_encode]
    omega
  · simp only [r, recover, hscan, ← hboundary]
    cases tail <;> simp

/-- Of two frames, with 52 and 92 bytes, the second one is cut off in its payload. -/
theorem recover_take_encode_of_torn_payload :
    let events : List Event := [.userDeleted .zero, .bookingCanceled .zero .zero]
    let r := recover ((encode events).take 60)
    (∀ e ∈ events, e.payload.length < payloadBound) ∧ 60 ≤ (encode events).length ∧
      r.events = [.userDeleted .zero] ∧ r.validLength = 52 ∧ r.discardedTail = true := by
  intro events r
  have hsmall : ∀ e ∈ events, e.payload.length < payloadBound := by
    have hlengths : events.map (fun e => e.payload.length) = [44, 84] := by decide
    intro e he
    have hmem := List.mem_map_of_mem (f := fun e : Event => e.payload.length) he
    simp only [hlengths, List.mem_cons, List.not_mem_nil, or_false] at hmem
    simp only [payloadBound]
    omega
  have hlong : 60 ≤ (encode events).length := by decide +kernel
  have hkept : eventsWithin 0 60 events = [.userDeleted .zero] := by decide
  obtain ⟨hevents, hlength, htail, -⟩ := recover_take_encode hsmall hlong
  rw [hkept] at hevents hlength
  refine ⟨hsmall, hlong, hevents, hlength, htail.mpr ?_⟩
  simp only [IsBoundary, events, framesFrom]
  decide

end Lodging.Log
