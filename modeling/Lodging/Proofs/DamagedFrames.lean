import Lodging.Proofs.Checksums
import Lodging.Proofs.RecoveredLogs
import Lodging.Proofs.TornLogs

/-!
# Logs with a damaged frame

Up to four neighbouring bytes of a frame are overwritten, in its payload, in its checksum or across
both. The length in front still says where the frame ends, its checksum does not fit, and recovery
stops at the frame.
-/

namespace Lodging.Log

/-- The bytes are those of `log`, as many and in all places but `width` ones from `place` on, where
at least one is another. -/
structure Damages (place width : Nat) (log damaged : Bytes) : Prop where
  length_eq : damaged.length = log.length
  take_eq : damaged.take place = log.take place
  drop_eq : damaged.drop (place + width) = log.drop (place + width)
  ne : damaged ≠ log

namespace Damages

variable {place width : Nat} {log damaged : Bytes}

/-- What stands in front of the damage stays in front. -/
theorem exists_eq_append {front rest : Bytes} (h : Damages place width (front ++ rest) damaged)
    (hfrom : front.length ≤ place) :
    ∃ rest', damaged = front ++ rest' ∧ Damages (place - front.length) width rest rest' := by
  obtain ⟨more, rfl⟩ := Nat.exists_eq_add_of_le hfrom
  have hfront : damaged.take front.length = front := by
    have htake := congrArg (List.take front.length) h.take_eq
    rwa [List.take_take, List.take_take, Nat.min_eq_left hfrom, List.take_left] at htake
  obtain ⟨rest', rfl⟩ : ∃ rest', damaged = front ++ rest' := by
    refine ⟨damaged.drop front.length, ?_⟩
    conv => lhs; rw [← List.take_append_drop front.length damaged, hfront]
  have htake := h.take_eq
  rw [List.take_length_add_append, List.take_length_add_append] at htake
  have hdrop := h.drop_eq
  rw [Nat.add_assoc, List.drop_length_add_append, List.drop_length_add_append] at hdrop
  have hlength := h.length_eq
  rw [List.length_append, List.length_append] at hlength
  refine ⟨rest', rfl, ?_⟩
  rw [Nat.add_sub_cancel_left]
  exact ⟨Nat.add_left_cancel hlength, List.append_cancel_left htake, hdrop,
    fun heq => h.ne (by rw [heq])⟩

/-- What stands behind the damage stays behind. -/
theorem exists_append_eq {front rest : Bytes} (h : Damages place width (front ++ rest) damaged)
    (hend : place + width ≤ front.length) :
    ∃ front', damaged = front' ++ rest ∧ Damages place width front front' := by
  have hrest : damaged.drop front.length = rest := by
    have hdrop := congrArg (List.drop (front.length - (place + width))) h.drop_eq
    rwa [List.drop_drop, List.drop_drop, Nat.add_sub_cancel' hend, List.drop_left] at hdrop
  obtain ⟨front', rfl⟩ : ∃ front', damaged = front' ++ rest := by
    refine ⟨damaged.take front.length, ?_⟩
    conv => lhs; rw [← List.take_append_drop front.length damaged, hrest]
  have hlength : front'.length = front.length := by
    have h := h.length_eq
    rwa [List.length_append, List.length_append, Nat.add_right_cancel_iff] at h
  have htake := h.take_eq
  rw [List.take_append_of_le_length (by omega), List.take_append_of_le_length (by omega)] at htake
  have hdrop := h.drop_eq
  rw [List.drop_append_of_le_length (by omega), List.drop_append_of_le_length hend] at hdrop
  exact ⟨front', rfl, hlength, htake, List.append_cancel_right hdrop,
    fun heq => h.ne (by rw [heq])⟩

/-- The damage puts a word in the place of another of the same length. -/
theorem exists_words (h : Damages place width log damaged) (hend : place + width ≤ log.length) :
    ∃ before word word' after, log = before ++ word ++ after ∧
      damaged = before ++ word' ++ after ∧ word.length = width ∧ word'.length = width ∧
      word ≠ word' := by
  have hsplit (bytes : Bytes) : bytes =
      bytes.take place ++ (bytes.drop place).take width ++ bytes.drop (place + width) := by
    rw [List.append_assoc, ← List.drop_drop, List.take_append_drop, List.take_append_drop]
  have hword (bytes : Bytes) (hlength : bytes.length = log.length) :
      ((bytes.drop place).take width).length = width := by
    rw [List.length_take, List.length_drop]
    omega
  have hdamaged := hsplit damaged
  rw [h.take_eq, h.drop_eq] at hdamaged
  refine ⟨_, _, _, _, hsplit log, hdamaged, hword log rfl, hword damaged h.length_eq, ?_⟩
  intro heq
  rw [← heq, ← hsplit log] at hdamaged
  exact h.ne hdamaged

end Damages

/-! ## The damaged frame -/

/-- A stored checksum that is not the one of the payload stops the reader. -/
theorem frame_eq_none_of_checksum_ne {payload stored rest : Bytes}
    (hpayload : payload.length < payloadBound) (hstored : stored.length = 4)
    (hne : ofLittleEndian stored ≠ (Checksum.crc32 payload).toNat) :
    Reader.frame (littleEndian 4 payload.length ++ (payload ++ (stored ++ rest))) = none := by
  have hlength : payload.length < 256 ^ 4 := hpayload
  have hsize := Reader.Reads.number hlength (payload ++ (stored ++ rest))
  have hchecksum := (Reader.Reads.take stored).map (f := ofLittleEndian) rest
  rw [hstored] at hchecksum
  refine Option.eq_none_iff_forall_ne_some.mpr ?_
  rintro ⟨e, left⟩ h
  obtain ⟨size, body, hsize', h⟩ := Reader.frame_eq_some_iff.mp h
  cases hsize.symm.trans hsize'
  obtain ⟨payload', body', hpayload', h⟩ := Reader.bind_eq_some_iff.mp h
  cases (Reader.Reads.take payload _).symm.trans hpayload'
  obtain ⟨checksum, left', hchecksum', h⟩ := Reader.bind_eq_some_iff.mp h
  cases hchecksum.symm.trans hchecksum'
  rw [if_neg hne] at h
  cases (Reader.found_eq_some_iff.mp h).1

/-- A frame whose payload or checksum is damaged within four bytes is not read as a frame. -/
theorem frame_eq_none_of_damages {e : Event} (he : e.payload.length < payloadBound)
    {place width : Nat} {rest damaged : Bytes} (hwidth : width ≤ 4) (hfrom : 4 ≤ place)
    (hend : place + width ≤ e.frame.length) (h : Damages place width (e.frame ++ rest) damaged) :
    Reader.frame damaged = none := by
  obtain ⟨payload, stored, hpayload, hstored, hsum, hframe⟩ : ∃ payload stored : Bytes,
      payload.length < payloadBound ∧ stored.length = 4 ∧
        ofLittleEndian stored = (Checksum.crc32 payload).toNat ∧
        e.frame = littleEndian 4 payload.length ++ (payload ++ stored) := by
    refine ⟨e.payload, _, he, length_littleEndian .., ?_, List.append_assoc ..⟩
    rw [ofLittleEndian_littleEndian]
    exact Nat.mod_eq_of_lt (Checksum.crc32 e.payload).toNat_lt
  -- The length in front of the frame stands.
  rw [hframe, List.append_assoc] at h
  obtain ⟨body, rfl, hbody⟩ := h.exists_eq_append (by rwa [length_littleEndian])
  rw [hframe, List.length_append, length_littleEndian] at hend
  rw [length_littleEndian] at hbody
  have hfits : place - 4 + width ≤ (payload ++ stored).length := by omega
  obtain ⟨front, rfl, hfront⟩ := hbody.exists_append_eq hfits
  -- What follows is again a payload and a checksum, with another word between.
  obtain ⟨payload', stored', hpayload', hstored', rfl⟩ : ∃ payload' stored' : Bytes,
      payload'.length = payload.length ∧ stored'.length = 4 ∧ front = payload' ++ stored' := by
    have hlength := hfront.length_eq
    rw [List.length_append, hstored] at hlength
    refine ⟨front.take payload.length, front.drop payload.length, ?_, ?_,
      (List.take_append_drop ..).symm⟩
    · rw [List.length_take]; omega
    · rw [List.length_drop]; omega
  obtain ⟨before, word, word', after, heq, heq', hword, hword', hne⟩ := hfront.exists_words hfits
  have hsum' := Checksum.ne_crc32_of_burst hstored hstored' hsum heq heq'
    (hword.trans hword'.symm) (hword ▸ hwidth) hne
  rw [← hpayload'] at hpayload ⊢
  rw [List.append_assoc]
  exact frame_eq_none_of_checksum_ne hpayload hstored' hsum'

/-- Every event of a log in which up to four neighbouring bytes of a frame are damaged, behind the
length in its front, is recovered up to this frame; the frame and all that follows is discarded. -/
theorem recover_of_damages {events : List Event}
    (hfits : ∀ e ∈ events, e.payload.length < payloadBound) {i : Nat} (hi : i < events.length)
    {place width : Nat} {damaged : Bytes} (hwidth : width ≤ 4)
    (hfrom : (encode (events.take i)).length + 4 ≤ place)
    (hend : place + width ≤ (encode (events.take i)).length + events[i].frame.length)
    (h : Damages place width (encode events) damaged) :
    recover damaged =
      { events := events.take i
        validLength := (encode (events.take i)).length
        discardedTail := true } := by
  have hsplit : encode events =
      encode (events.take i) ++ (events[i].frame ++ encode (events.drop (i + 1))) := by
    conv => lhs; rw [← List.take_append_drop i events, List.drop_eq_getElem_cons hi]
    rw [encode, List.flatMap_append]
    rfl
  rw [hsplit] at h
  obtain ⟨tail, rfl, htail⟩ := h.exists_eq_append (Nat.le_of_add_right_le hfrom)
  have hnone : Reader.frame tail = none :=
    frame_eq_none_of_damages (hfits _ (List.getElem_mem hi)) hwidth (by omega) (by omega) htail
  have hsound : Holds (encode (events.take i)) (events.take i) :=
    Holds.encode fun e he => hfits e (List.mem_of_mem_take he)
  have hscan : scan (encode (events.take i) ++ tail) = (events.take i, tail) := by
    rw [scan_append, hsound, List.nil_append, scan_of_no_frame hnone, List.append_nil]
  have hlength := htail.length_eq
  have hframe := length_frame events[i]
  rw [List.length_append] at hlength
  have hne : tail ≠ [] := by
    rintro rfl
    rw [List.length_nil] at hlength
    omega
  rw [recover, hscan]
  simp [hne]

/-- The last two bytes of a payload and the first two of its checksum are overwritten. -/
theorem recover_of_damages_across_payload_end :
    let events : List Event := [.userDeleted .zero, .hotelUpdated .zero {}, .userDeleted .zero]
    let damaged := (encode events).take 100 ++ [0, 0, 0, 0] ++ (encode events).drop 104
    Damages 100 4 (encode events) damaged ∧
      (encode (events.take 1)).length + 4 + events[1].payload.length = 102 ∧
      recover damaged = ⟨[.userDeleted .zero], 52, true⟩ := by
  intro events damaged
  have hfits : ∀ e ∈ events, e.payload.length < payloadBound := by decide +kernel
  have hdamages : Damages 100 4 (encode events) damaged :=
    ⟨by decide +kernel, by decide +kernel, by decide +kernel, by decide +kernel⟩
  refine ⟨hdamages, by decide +kernel, ?_⟩
  have hrecover := recover_of_damages hfits (i := 1) (by decide) (Nat.le_refl 4)
    (by decide +kernel) (by decide +kernel) hdamages
  rw [hrecover]
  decide +kernel

end Lodging.Log
