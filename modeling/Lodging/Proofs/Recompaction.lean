import Mathlib.Data.List.Sort
import Lodging.Proofs.Batching
import Lodging.Proofs.Continuity
import Lodging.Proofs.RecoveredLogs

/-!
# Compacting again

A snapshot leaves out who holds which email address, which rooms a hotel lists, and in which order
bookings were entered. So a store is not always what its snapshot rebuilds, but both have the same
snapshot, as long as no two bookings have the same identifier. Hence the first compaction of a log
already gives the file that every later one gives.
-/

namespace Lodging

open Log (Bytes Conditions Journal encode payloadBound)

instance : Std.Asymm Event.Precedes where
  asymm e e' h h' := by
    rcases h with hlt | ⟨heq, hlt⟩
    · rcases h' with hgt | ⟨heq', -⟩
      · exact Nat.lt_asymm hlt hgt
      · exact Nat.ne_of_lt hlt heq'.symm
    · rcases h' with hgt | ⟨-, hgt⟩
      · exact Nat.ne_of_lt hgt heq.symm
      · exact Nat.lt_asymm hlt hgt

namespace Store

variable {s t : Store} {events other log : List Event} {e : Event}

/-! ## The snapshot of a rebuilt store -/

/-- Logs of creations that list the same store have the same events. -/
theorem Lists.mem_iff (h : s.Lists events) (h' : s.Lists other) (he : e.isCreation = true) :
    e ∈ events ↔ e ∈ other := by
  cases e with
  | hotelCreated id name location rating =>
      exact (h.hotel_iff id name location rating).symm.trans (h'.hotel_iff id name location rating)
  | userCreated user => exact (h.user_iff user).symm.trans (h'.user_iff user)
  | roomCreated room => exact (h.room_iff room).symm.trans (h'.room_iff room)
  | bookingCreated b => exact (h.booking_iff b).symm.trans (h'.booking_iff b)
  | _ => cases he

/-- A snapshot enters the bookings of the ledger. -/
theorem filterMap_entered?_snapshot (s : Store) :
    s.snapshot.filterMap Event.entered? = s.allBookings := by
  simp [snapshot, List.filterMap_map, Event.entered?, Function.comp_def]

theorem Keyed.entersOnce_snapshot (h : s.Keyed) (hdistinct : s.Distinct) :
    EntersOnce s.snapshot := by
  rw [EntersOnce, filterMap_entered?_snapshot]
  exact List.pairwise_map.mpr ((h.pairwise_allBookings hdistinct).imp RecordId.ne_of_lt)

/-- The store that is rebuilt from a snapshot has the same snapshot. -/
theorem Keyed.snapshot_replay_snapshot (h : s.Keyed) (hdistinct : s.Distinct) :
    (replay s.snapshot).snapshot = s.snapshot := by
  have hrebuilt := keyed_replay s.snapshot
  have hrebuilt' := (h.entersOnce_snapshot hdistinct).distinct
  refine (hrebuilt.pairwise_snapshot hrebuilt').eq_of_mem_iff (h.pairwise_snapshot hdistinct) ?_
  -- Both list the rebuilt store, and neither has anything but creations.
  have hlists := h.lists_replay_snapshot hdistinct
  intro e
  constructor
  · intro he
    exact (hrebuilt.lists_snapshot.mem_iff hlists (isCreation_of_mem_snapshot he)).mp he
  · intro he
    exact (hrebuilt.lists_snapshot.mem_iff hlists (isCreation_of_mem_snapshot he)).mpr he

/-- Stores with the same snapshot have hotels or do not have them together. -/
theorem allHotels_ne_nil_iff_snapshot (s : Store) : s.allHotels ≠ [] ↔
    ∃ id name location rating, .hotelCreated id name location rating ∈ s.snapshot := by
  simp only [hotelCreated_mem_snapshot]
  constructor
  · intro h
    obtain ⟨⟨id, name, location, rooms, rating⟩, hmem⟩ := List.exists_mem_of_ne_nil _ h
    exact ⟨id, name, location, rating, rooms, hmem⟩
  · rintro ⟨id, name, location, rating, rooms, hmem⟩
    exact List.ne_nil_of_mem hmem

/-- The snapshot of the store can be written. -/
def Fits (s : Store) : Prop := ∀ e ∈ s.snapshot, e.payload.length < payloadBound

instance : Decidable s.Fits :=
  inferInstanceAs (Decidable (∀ e ∈ s.snapshot, e.payload.length < payloadBound))

end Store

namespace Engine

variable {e : Engine} {log : List Event}

/-! ## Engines and their logs -/

/-- All of the log is durable, and the store is the one that it leaves. -/
structure Mirrors (e : Engine) (log : List Event) : Prop where
  carries : e.journal.Carries log []
  store_eq : e.store = Store.replay log

theorem mirrors_openOn (file : Bytes) : (openOn file).Mirrors (Log.recover file).events :=
  ⟨Journal.carries_recover file, rfl⟩

/-- All of the log is durable, it enters no two bookings with the same identifier, and the store
that it leaves has the same snapshot as that of the engine. -/
structure Matches (e : Engine) (log : List Event) : Prop where
  carries : e.journal.Carries log []
  entersOnce : Store.EntersOnce log
  snapshot_eq : (Store.replay log).snapshot = e.store.snapshot

theorem Mirrors.matches (h : e.Mirrors log) (hlog : Store.EntersOnce log) : e.Matches log :=
  ⟨h.carries, hlog, h.store_eq ▸ rfl⟩

@[simp] theorem store_compact (e : Engine) (c : Conditions) : (e.compact c).2.store = e.store :=
  (e.compact_cases c).1

/-- On a disk without faults a compaction writes the snapshot if it can be written, and nothing
otherwise. -/
theorem journal_compact (h : e.journal.AtRest) :
    (e.compact .good).2.journal =
      if e.store.Fits then e.journal.replacedBy e.store.snapshot else e.journal := by
  obtain ⟨-, -, hcompact | ⟨error, hcompact⟩⟩ := e.compact_cases .good
  · obtain ⟨heq, hfits⟩ := h.eq_replacedBy_of_compact_ok hcompact
    rw [heq, if_pos (show e.store.Fits from hfits)]
  · rw [h.eq_of_compact_error hcompact, if_neg]
    intro hfits
    cases hcompact.symm.trans (h.compact_of_faultless Conditions.faultless_good hfits)

theorem file_compact (h : e.journal.AtRest) :
    (e.compact .good).2.journal.file =
      if e.store.Fits then encode e.store.snapshot else e.journal.file := by
  rw [journal_compact h]
  split
  · rfl
  · rfl

namespace Matches

/-- The tally is no part of what matches. -/
theorem congr {e' : Engine} (h : e.Matches log) (hstore : e'.store = e.store)
    (hjournal : e'.journal = e.journal) : e'.Matches log :=
  ⟨hjournal ▸ h.carries, h.entersOnce, hstore ▸ h.snapshot_eq⟩

theorem entersOnce_snapshot (h : e.Matches log) : Store.EntersOnce e.store.snapshot :=
  h.snapshot_eq ▸ (Store.keyed_replay log).entersOnce_snapshot h.entersOnce.distinct

theorem snapshot_replay_snapshot (h : e.Matches log) :
    (Store.replay e.store.snapshot).snapshot = e.store.snapshot :=
  h.snapshot_eq ▸ (Store.keyed_replay log).snapshot_replay_snapshot h.entersOnce.distinct

/-- A compaction puts the snapshot in the place of the log, or leaves the log as it is. -/
theorem compact (h : e.Matches log) : ∃ log', (e.compact .good).2.Matches log' := by
  have hstore := store_compact e .good
  have hjournal := journal_compact h.carries.atRest
  by_cases hfits : e.store.Fits
  · refine ⟨e.store.snapshot, ?_, h.entersOnce_snapshot, ?_⟩
    · rw [hjournal, if_pos hfits]
      exact Journal.carries_emptied h.carries.trusted rfl (.encode hfits) rfl
        h.carries.pendingLength_eq h.carries.pendingEvents_eq
    · rw [hstore, h.snapshot_replay_snapshot]
  · rw [if_neg hfits] at hjournal
    exact ⟨log, h.congr hstore hjournal⟩

/-- An engine that is opened anew on the file has the same log, file and snapshot. -/
theorem reopen (h : e.Matches log) :
    (openOn e.journal.file).Matches log ∧
      (openOn e.journal.file).journal.file = e.journal.file ∧
      (openOn e.journal.file).store.snapshot = e.store.snapshot := by
  have hrecover := h.carries.recover_file
  have hstore : (openOn e.journal.file).store = Store.replay log := by
    rw [openOn, hrecover]
  have hevents : (Log.recover e.journal.file).events = log := by rw [hrecover]
  have hmirrors := mirrors_openOn e.journal.file
  rw [hevents] at hmirrors
  refine ⟨hmirrors.matches h.entersOnce, ?_, ?_⟩
  · change (e.journal.file.take (Log.recover e.journal.file).validLength) = e.journal.file
    rw [hrecover, List.take_length]
  · rw [hstore, h.snapshot_eq]

end Matches

/-! ## Fixed files -/

/-- The engine has the given file, and compactions and restarts leave it so. -/
structure Fixed (e : Engine) (file : Bytes) : Prop where
  matches_log : ∃ log, e.Matches log
  compacted : e.store.Fits → file = encode e.store.snapshot
  file_eq : e.journal.file = file

variable {file : Bytes}

/-- The first compaction fixes the file. -/
theorem Matches.fixed_compact (h : e.Matches log) :
    (e.compact .good).2.Fixed (e.compact .good).2.journal.file where
  matches_log := h.compact
  compacted hfits := by
    rw [store_compact] at hfits ⊢
    rw [file_compact h.carries.atRest, if_pos hfits]
  file_eq := rfl

namespace Fixed

theorem congr {e' : Engine} (h : e.Fixed file) (hstore : e'.store = e.store)
    (hjournal : e'.journal = e.journal) : e'.Fixed file where
  matches_log := h.matches_log.imp fun _ hlog => hlog.congr hstore hjournal
  compacted := hstore ▸ h.compacted
  file_eq := hjournal ▸ h.file_eq

theorem compact (h : e.Fixed file) : (e.compact .good).2.Fixed file := by
  obtain ⟨log, hlog⟩ := h.matches_log
  have hstore := store_compact e .good
  refine ⟨hlog.compact, hstore ▸ h.compacted, ?_⟩
  rw [file_compact hlog.carries.atRest]
  split
  · next hfits => exact (h.compacted hfits).symm
  · exact h.file_eq

theorem snapshot_reopen (h : e.Fixed file) :
    (openOn file).store.snapshot = e.store.snapshot := by
  obtain ⟨log, hlog⟩ := h.matches_log
  exact h.file_eq ▸ hlog.reopen.2.2

theorem reopen (h : e.Fixed file) : (openOn file).Fixed file := by
  obtain ⟨log, hlog⟩ := h.matches_log
  obtain ⟨hreopened, hfile, -⟩ := hlog.reopen
  rw [h.file_eq] at hreopened hfile
  refine ⟨⟨log, hreopened⟩, fun hfits => ?_, hfile⟩
  rw [h.snapshot_reopen]
  exact h.compacted fun x hx => hfits x (h.snapshot_reopen ▸ hx)

theorem close_eq (h : e.Fixed file) (c : Conditions) : e.close c = file := by
  obtain ⟨log, hlog⟩ := h.matches_log
  exact (hlog.carries.close_eq c).trans h.file_eq

end Fixed

/-- What the first compaction leaves, with a snapshot that can be written if there is one, a restart
and another compaction leave as it is. -/
theorem file_compact_reopen (h : Store.EntersOnce (Log.recover file).events) :
    let first := ((openOn file).compact .good).2
    (first.store.Fits → first.journal.file = encode first.store.snapshot) ∧
      (∀ c, first.close c = first.journal.file) ∧
      ((openOn first.journal.file).compact .good).2.journal.file = first.journal.file := by
  have hfixed := ((mirrors_openOn file).matches h).fixed_compact
  exact ⟨hfixed.compacted, hfixed.close_eq, hfixed.reopen.compact.file_eq⟩

end Engine

end Lodging
