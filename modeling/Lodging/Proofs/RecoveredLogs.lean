import Mathlib.Data.Nat.PSub
import Lodging.Proofs.AllOrNothing

/-!
# Recovered logs

Whatever a file holds, recovery can be done with a count: the length of the sound frames is counted
up, and a frame that claims more bytes than the count leaves over is not read. The count never
passes the length of the file. A journal that is opened at the sound part has nothing behind it, so
what is committed from then on is read back behind what was found.
-/

namespace Lodging.Log

/-! ## Readers taken apart -/

namespace Reader

variable {α β : Type} {bytes rest : Bytes}

theorem bind_eq_some_iff {read : Reader α} {next : α → Reader β} {b : β} :
    (read >>= next) bytes = some (b, rest) ↔
      ∃ a middle, read bytes = some (a, middle) ∧ next a middle = some (b, rest) := by
  change (read bytes).bind (fun (a, middle) => next a middle) = some (b, rest) ↔ _
  simp only [Option.bind_eq_some_iff, Prod.exists]

theorem take_eq_some_iff {count : Nat} {front : Bytes} :
    take count bytes = some (front, rest) ↔ front.length = count ∧ bytes = front ++ rest := by
  constructor
  · intro h
    simp only [take] at h
    split at h
    · next hlength =>
        obtain ⟨rfl, rfl⟩ := Prod.mk.inj (Option.some.inj h)
        exact ⟨hlength, (List.take_append_drop count bytes).symm⟩
    · cases h
  · rintro ⟨rfl, rfl⟩
    exact Reads.take front rest

theorem length_of_number {width n : Nat} (h : number width bytes = some (n, rest)) :
    bytes.length = width + rest.length := by
  obtain ⟨front, middle, htake, hpure⟩ := bind_eq_some_iff.mp h
  obtain ⟨-, rfl⟩ := Prod.mk.inj (Option.some.inj hpure)
  obtain ⟨rfl, rfl⟩ := take_eq_some_iff.mp htake
  exact List.length_append

theorem found_eq_some_iff {a? : Option α} {a : α} :
    found a? bytes = some (a, rest) ↔ a? = some a ∧ bytes = rest := by
  simp [found]

/-! ## Reading with a count -/

/-- The bytes of a frame that are not its payload. -/
def frameOverhead : Nat := 8

/-- Reads what follows the length of a frame. -/
def frameBody (size : Nat) : Reader Event := do
  let payload ← take size
  let checksum ← number 4
  found (if checksum = (Checksum.crc32 payload).toNat then Event.ofPayload? payload else none)

/-- Reads a frame of a file of which `left` bytes are left, and tells its length. A frame that
claims to be longer than that is not read. -/
def countedFrame (left : Nat) : Reader (Event × Nat) := do
  let size ← number 4
  if left < size + frameOverhead then failure
  else return (← frameBody size, size + frameOverhead)

theorem frame_eq_some_iff {e : Event} :
    frame bytes = some (e, rest) ↔
      ∃ size body, number 4 bytes = some (size, body) ∧ frameBody size body = some (e, rest) :=
  bind_eq_some_iff

theorem length_of_frameBody {size : Nat} {e : Event} (h : frameBody size bytes = some (e, rest)) :
    bytes.length = size + 4 + rest.length := by
  obtain ⟨payload, afterPayload, hpayload, h⟩ := bind_eq_some_iff.mp h
  obtain ⟨checksum, afterChecksum, hchecksum, h⟩ := bind_eq_some_iff.mp h
  obtain ⟨-, rfl⟩ := found_eq_some_iff.mp h
  obtain ⟨rfl, rfl⟩ := take_eq_some_iff.mp hpayload
  rw [List.length_append, length_of_number hchecksum, Nat.add_assoc]

theorem length_of_frame_parts {size : Nat} {body : Bytes} {e : Event}
    (hsize : number 4 bytes = some (size, body)) (hbody : frameBody size body = some (e, rest)) :
    bytes.length = size + frameOverhead + rest.length := by
  have hbytes := length_of_number hsize
  have hrest := length_of_frameBody hbody
  simp only [frameOverhead]
  omega

/-- A counted frame is a frame, with its length, that is not longer than what is left. -/
theorem countedFrame_eq_some_iff {left length : Nat} {e : Event} :
    countedFrame left bytes = some ((e, length), rest) ↔
      frame bytes = some (e, rest) ∧ bytes.length = length + rest.length ∧ length ≤ left := by
  constructor
  · intro h
    obtain ⟨size, body, hsize, h⟩ := bind_eq_some_iff.mp h
    split at h
    · cases h
    · next hfits =>
        obtain ⟨e', rest', hbody, heq⟩ := bind_eq_some_iff.mp h
        cases heq
        exact ⟨frame_eq_some_iff.mpr ⟨size, body, hsize, hbody⟩,
          length_of_frame_parts hsize hbody, Nat.le_of_not_lt hfits⟩
  · rintro ⟨h, hlength, hleft⟩
    obtain ⟨size, body, hsize, hbody⟩ := frame_eq_some_iff.mp h
    obtain rfl : length = size + frameOverhead :=
      Nat.add_right_cancel (hlength.symm.trans (length_of_frame_parts hsize hbody))
    refine bind_eq_some_iff.mpr ⟨size, body, hsize, ?_⟩
    rw [if_neg (Nat.not_lt_of_le hleft)]
    exact bind_eq_some_iff.mpr ⟨e, rest, hbody, rfl⟩

end Reader

/-- What a reading with a count has found, how long the frames of that were, and what follows. -/
structure Reading where
  events : List Event
  validLength : Nat
  unread : Bytes

/-- Reads on to the end of the sound frames of a file. There is no result if the count passes the
length of the file. -/
def readOn (fileLength : Nat) (r : Reading) : Option Reading :=
  match fileLength.psub r.validLength with
  | none => none
  | some left =>
    match _h : Reader.countedFrame left r.unread with
    | some ((event, length), rest) =>
      readOn fileLength ⟨r.events ++ [event], r.validLength + length, rest⟩
    | none => some r
termination_by r.unread.length
decreasing_by exact Reader.length_frame_lt (Reader.countedFrame_eq_some_iff.mp _h).1

/-- Reads a log with a count. -/
def recoverByCount (file : Bytes) : Option Recovery :=
  (readOn file.length ⟨[], 0, file⟩).map fun r =>
    { events := r.events
      validLength := r.validLength
      discardedTail := r.validLength < file.length }

section

variable {fileLength count : Nat} {unread rest : Bytes} {e : Event} {found : List Event}
variable (h : count + unread.length = fileLength)
include h

/-- The count leaves over what is not read yet. -/
theorem psub_eq_unread : fileLength.psub count = some unread.length := by
  rw [Nat.psub_eq_some]
  omega

theorem readOn_of_frame (hframe : Reader.frame unread = some (e, rest)) :
    readOn fileLength ⟨found, count, unread⟩ =
      readOn fileLength ⟨found ++ [e], count + (unread.length - rest.length), rest⟩ := by
  have hlength := Reader.length_frame_lt hframe
  have hcounted : Reader.countedFrame unread.length unread =
      some ((e, unread.length - rest.length), rest) := by
    refine Reader.countedFrame_eq_some_iff.mpr ⟨hframe, ?_, Nat.sub_le _ _⟩
    omega
  rw [readOn]
  simp only [psub_eq_unread h]
  split
  · next hcounted' => cases hcounted.symm.trans hcounted'; rfl
  · next hcounted' => cases hcounted.symm.trans hcounted'

theorem readOn_of_no_frame (hframe : Reader.frame unread = none) :
    readOn fileLength ⟨found, count, unread⟩ = some ⟨found, count, unread⟩ := by
  rw [readOn]
  simp only [psub_eq_unread h]
  split
  · next hcounted => cases hframe.symm.trans (Reader.countedFrame_eq_some_iff.mp hcounted).1
  · rfl

/-- As long as the count and what is not read make up the file, reading on goes as far as a scan. -/
theorem readOn_eq_scan :
    readOn fileLength ⟨found, count, unread⟩ =
      some ⟨found ++ (scan unread).1, fileLength - (scan unread).2.length, (scan unread).2⟩ := by
  induction unread using scan.induct generalizing found count with
  | case1 unread e rest hframe events tail htail ih =>
      have hlength := Reader.length_frame_lt hframe
      -- What was read is counted, so the count and the rest make up the file again.
      have hrest : count + (unread.length - rest.length) + rest.length = fileLength := by omega
      rw [readOn_of_frame h hframe, ih hrest, scan_of_frame hframe, List.append_assoc]
      rfl
  | case2 unread hframe =>
      rw [readOn_of_no_frame h hframe, scan_of_no_frame hframe, List.append_nil,
        Nat.eq_sub_of_add_eq h]

end

theorem length_scan_le (bytes : Bytes) : (scan bytes).2.length ≤ bytes.length := by
  obtain ⟨sound, hbytes, -⟩ := exists_holds_append_tail bytes
  rw [congrArg List.length hbytes, List.length_append]
  exact Nat.le_add_left _ _

theorem recover_discardedTail_iff (file : Bytes) :
    (recover file).discardedTail = true ↔ (recover file).validLength < file.length := by
  have hle := length_scan_le file
  simp only [recover, Bool.not_eq_true', List.isEmpty_eq_false_iff, ne_eq,
    ← List.length_eq_zero_iff]
  omega

theorem recoverByCount_eq (file : Bytes) : recoverByCount file = some (recover file) := by
  have htail := recover_discardedTail_iff file
  rw [recoverByCount, readOn_eq_scan (Nat.zero_add _), Option.map_some, Option.some.injEq]
  simp only [recover, List.nil_append, Recovery.mk.injEq, true_and] at htail ⊢
  exact Bool.eq_iff_iff.mpr (by rw [htail, decide_eq_true_iff])

/-! ## Commits behind what was found -/

namespace Journal

variable {j j' : Journal} {kept : List Event} {batches : List (Conditions × List Event)}

/-- Commits batch after batch, each under its own conditions, up to the first that fails. -/
def commitAll : List (Conditions × List Event) → Journal → Except IoError Unit × Journal
  | [], j => (.ok (), j)
  | (c, events) :: rest, j =>
    match j.commit c events with
    | (.ok (), j) => j.commitAll rest
    | (.error error, j) => (.error error, j)

/-- Good commits leave their events behind those that were kept before. -/
theorem Carries.commitAll (h : j.Carries kept []) (hcommits : j.commitAll batches = (.ok (), j')) :
    j'.Carries (kept ++ batches.flatMap (·.2)) [] := by
  induction batches generalizing j kept with
  | nil =>
      obtain ⟨-, rfl⟩ := Prod.mk.inj hcommits
      rwa [List.flatMap_nil, List.append_nil]
  | cons batch rest ih =>
      obtain ⟨c, events⟩ := batch
      rw [Journal.commitAll] at hcommits
      rcases h.commit_cases c events with ⟨j'', heq, hj''⟩ | ⟨error, j'', heq, -⟩
      · rw [heq] at hcommits
        rw [List.flatMap_cons, ← List.append_assoc]
        exact ih hj'' hcommits
      · rw [heq] at hcommits
        cases hcommits

/-- While the disk accepts everything, batch after batch is committed. -/
theorem Carries.commitAll_of_accepts (h : j.Carries kept [])
    (hbatches : ∀ batch ∈ batches,
      batch.1.Accepts ∧ ∀ e ∈ batch.2, e.payload.length < payloadBound) :
    ∃ j', j.commitAll batches = (.ok (), j') := by
  induction batches generalizing j kept with
  | nil => exact ⟨j, rfl⟩
  | cons batch rest ih =>
      obtain ⟨c, events⟩ := batch
      obtain ⟨hc, hevents⟩ := hbatches _ List.mem_cons_self
      obtain ⟨j', heq⟩ := commit_of_accepts hc h.trusted hevents
      rw [Journal.commitAll, heq]
      rcases h.commit_cases c events with ⟨j'', heq', hj''⟩ | ⟨error, j'', heq', -⟩
      · cases heq.symm.trans heq'
        exact ih hj'' fun batch hbatch => hbatches batch (List.mem_cons_of_mem _ hbatch)
      · cases heq.symm.trans heq'

theorem Carries.recover_file (h : j.Carries kept []) :
    Log.recover j.file = ⟨kept, j.file.length, false⟩ :=
  h.output_eq_of_settled.1.recover

/-- Opening a file that was already cut back at its sound part changes nothing. -/
theorem recover_recover_file (file : Bytes) :
    Journal.recover (Journal.recover file).file = Journal.recover file := by
  have hsound := (carries_recover file).recover_file
  rw [Journal.recover, hsound]
  simp only [Journal.recover, Journal.openAt, Journal.file, List.take_length]

/-- Any file is read back up to its sound part, counting never passes its end, and a tail is
discarded exactly if the sound part is shorter. A journal that is opened there reads back the same
from then on, and after batches that were all committed their events behind it, with nothing
discarded; on a disk that accepts everything, batches that fit are all committed. -/
theorem recover_commitAll (file : Bytes) (batches : List (Conditions × List Event)) :
    let r := Log.recover file
    let j := Journal.recover file
    recoverByCount file = some r ∧ r.validLength ≤ file.length ∧
      (r.discardedTail = true ↔ r.validLength < file.length) ∧
      Log.recover j.file = ⟨r.events, r.validLength, false⟩ ∧ Journal.recover j.file = j ∧
      (∀ j', j.commitAll batches = (.ok (), j') →
        Log.recover j'.file = ⟨r.events ++ batches.flatMap (·.2), j'.file.length, false⟩) ∧
      ((∀ batch ∈ batches, batch.1.Accepts ∧ ∀ e ∈ batch.2, e.payload.length < payloadBound) →
        ∃ j', j.commitAll batches = (.ok (), j')) := by
  intro r j
  have hcarries : j.Carries r.events [] := carries_recover file
  have hle : r.validLength ≤ file.length := Nat.sub_le _ _
  have hlength : j.file.length = r.validLength := List.length_take_of_le hle
  refine ⟨recoverByCount_eq file, hle, recover_discardedTail_iff file, ?_,
    recover_recover_file file, ?_, hcarries.commitAll_of_accepts⟩
  · rw [hcarries.recover_file, hlength]
  · exact fun j' hcommits => (hcarries.commitAll hcommits).recover_file

/-- Behind one sound frame there are bytes that claim to be the beginning of a huge one. -/
theorem recover_commitAll_of_huge_length :
    let file := Event.frame (.userDeleted .zero) ++ [255, 255, 255, 255, 1, 2]
    let batches : List (Conditions × List Event) :=
      [(.good, [.bookingCanceled .zero .zero]),
        (.good, [.hotelUpdated .zero {}, .userDeleted .zero])]
    Log.recover file = ⟨[.userDeleted .zero], 52, true⟩ ∧
      ∃ j', (Journal.recover file).commitAll batches = (.ok (), j') ∧
        Log.recover j'.file = ⟨[.userDeleted .zero, .bookingCanceled .zero .zero,
          .hotelUpdated .zero {}, .userDeleted .zero], j'.file.length, false⟩ := by
  intro file batches
  have hscan : scan file = ([.userDeleted .zero], [255, 255, 255, 255, 1, 2]) := by
    have hsmall : (Event.userDeleted .zero).payload.length < payloadBound := by decide +kernel
    have hjunk : Reader.frame [255, 255, 255, 255, 1, 2] = none := by decide
    rw [scan_append, Holds.frame hsmall, List.nil_append, scan_of_no_frame hjunk]
    rfl
  have hrecover : Log.recover file = ⟨[.userDeleted .zero], 52, true⟩ := by
    simp only [Log.recover, hscan]
    decide
  have hgood : ∀ batch ∈ batches, batch.1.Accepts := by
    simp [batches, Conditions.accepts_good]
  have hsmall : ∀ batch ∈ batches, ∀ e ∈ batch.2, e.payload.length < payloadBound := by
    decide +kernel
  obtain ⟨-, -, -, -, -, hcommitted, hcommits⟩ := recover_commitAll file batches
  obtain ⟨j', heq⟩ := hcommits fun batch hbatch => ⟨hgood batch hbatch, hsmall batch hbatch⟩
  refine ⟨hrecover, j', heq, ?_⟩
  rw [hcommitted j' heq, hrecover]
  rfl

end Journal

end Lodging.Log
