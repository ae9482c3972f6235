import Lodging.Proofs.Seeding
import Lodging.Service

/-!
# Runs one after the other

A run that ends normally ends with a compaction, and that fixes the log: the next run finds the
hotels of the first one, so it adds nothing, its compactions write what is there already, and in the
end the file is what it was, byte for byte.
-/

namespace Lodging.Service

open Engine
open Log (Bytes Conditions encode)

variable {settings : Settings} {c : Conditions} {clock : Nat → Moment} {course : Course}
variable {e : Engine} {log : List Event} {file : Bytes} {notices : List Notice}

/-! ## Parts of a run -/

theorem allHotels_ne_nil_iff (s : Store) : s.allHotels ≠ [] ↔ ∃ id, id ∈ s.hotels := by
  constructor
  · intro h
    obtain ⟨hotel, hmem⟩ := List.exists_mem_of_ne_nil _ h
    obtain ⟨id, hhotel⟩ := mem_values.mp hmem
    exact ⟨id, mem_iff_lookup.mpr ⟨hotel, hhotel⟩⟩
  · rintro ⟨id, hid⟩
    obtain ⟨hotel, hhotel⟩ := mem_iff_lookup.mp hid
    exact List.ne_nil_of_mem (mem_values.mpr ⟨id, hhotel⟩)

/-- What is said about a ledger that has hotels. -/
def skippingNotices (settings : Settings) (e : Engine) : List Notice :=
  if settings.seeds then
    [say "ledger not empty, skipping seed"
      [("hotels", toString (e.listHotels none ⟨1, 1⟩).total)]]
  else []

theorem total_listHotels (e : Engine) (page : NumberedPage) :
    (e.listHotels none page).total = e.store.allHotels.length := by
  simp [listHotels, NumberedPage.apply]

/-- A ledger that has hotels is not filled. -/
theorem seedIfEmpty_of_hotels (h : settings.seeds = true → e.store.allHotels ≠ [])
    (c : Conditions) (clock : Nat → Moment) :
    seedIfEmpty settings c clock e = (skippingNotices settings e, none, e) := by
  unfold seedIfEmpty skippingNotices
  split
  · next hseeds =>
      have htotal : (e.listHotels none ⟨1, 1⟩).total ≠ 0 := by
        rw [total_listHotels]
        exact fun hnone => h hseeds (List.length_eq_zero_iff.mp hnone)
      rw [if_neg htotal]
  · rfl

theorem seedIfEmpty_of_no_hotels (hseeds : settings.seeds = true) (h : e.store.allHotels = []) :
    (seedIfEmpty settings c clock e).2 = match Demo.seedOver c clock e with
      | (.ok _, e') => (none, e')
      | (.error error, e') => (some (.ledger error), e') := by
  have htotal : (e.listHotels none ⟨1, 1⟩).total = 0 := by rw [total_listHotels, h]; rfl
  rw [seedIfEmpty, if_pos hseeds, if_pos htotal]
  rcases Demo.seedOver c clock e with ⟨error | summary, e'⟩
  · rfl
  · rfl

/-- To fill a ledger, if that is called for, grows its log by hotels and rooms alone, and fails only
where there is no identifier left. Unless it fails, a ledger that is to be filled has hotels. -/
theorem mirrors_seedIfEmpty (h : e.Mirrors log) (settings : Settings) (clock : Nat → Moment) :
    let r := (seedIfEmpty settings .good clock e).2
    (∃ later, later.filterMap Event.entered? = log.filterMap Event.entered? ∧ r.2.Mirrors later) ∧
      (r.1 = none ∨ r.1 = some (.ledger (.transactionFailed .idsExhausted))) ∧
      (r.1 = none → settings.seeds = true → r.2.store.allHotels ≠ []) := by
  by_cases hfilled : settings.seeds = true → e.store.allHotels ≠ []
  · rw [seedIfEmpty_of_hotels hfilled .good clock]
    exact ⟨⟨log, rfl, h⟩, .inl rfl, fun _ => hfilled⟩
  · obtain ⟨hseeds, hnone⟩ := Classical.not_imp.mp hfilled
    rw [seedIfEmpty_of_no_hotels hseeds (not_not.mp hnone)]
    obtain ⟨⟨⟨later, -, hentered, hmirrors⟩, hrefused⟩, hhotels⟩ := h.seedOver clock
    rcases hseeded : Demo.seedOver .good clock e with ⟨error | summary, e'⟩
    · rw [hseeded] at hmirrors hrefused
      refine ⟨⟨later, hentered, hmirrors⟩, .inr ?_, nofun⟩
      rw [hrefused error rfl]
    · rw [hseeded] at hmirrors hhotels
      refine ⟨⟨later, hentered, hmirrors⟩, .inl rfl, fun _ _ hempty => ?_⟩
      exact (allHotels_ne_nil_iff e'.store).mpr (hhotels summary rfl) hempty

theorem countRooms_eq (today : Day) (statuses : List RoomStatus) (e : Engine) :
    ∃ tally, (countRooms today statuses e).2 = { e with tally } := by
  induction statuses generalizing e with
  | nil => exact ⟨e.tally, rfl⟩
  | cons status rest ih =>
      obtain ⟨tally, heq⟩ := ih (e.listRooms today [status] ⟨1, 1⟩).2
      exact ⟨tally, heq⟩

theorem upkeep_snd (settings : Settings) (c : Conditions) (e : Engine) :
    (upkeep settings c e).2 = (e.compactIfDue c settings.compactThreshold).2 := by
  unfold upkeep
  rcases e.compactIfDue c settings.compactThreshold with ⟨_ | _ | error, e'⟩
  · rfl
  · rfl
  · rfl

/-- What compactions keep, upkeep keeps, however often it is done. -/
theorem upkeeps_of_compact {P : Engine → Prop} (hcompact : ∀ e, P e → P (e.compact c).2)
    (looks : Nat) (h : P e) : P (upkeeps settings c looks e).2 := by
  induction looks generalizing e with
  | zero => exact h
  | succ looks ih =>
      refine ih (e := (upkeep settings c e).2) ?_
      rw [upkeep_snd]
      rcases compactIfDue_cases e c settings.compactThreshold with heq | heq
      · rwa [heq]
      · rw [heq]
        exact hcompact e h

/-! ## Whole runs -/

/-- The engine that is asked to stop, from the one that was opened and perhaps filled. -/
def running (settings : Settings) (c : Conditions) (course : Course) (e : Engine) : Engine :=
  (upkeeps settings c course.looks (countRooms course.today RoomStatus.all e).2).2

/-- What compactions keep and the tally is no part of, the work before the stop keeps. -/
theorem running_of_compact {P : Engine → Prop} (hcompact : ∀ e, P e → P (e.compact c).2)
    (htally : ∀ e tally, P e → P { e with tally }) (h : P e) :
    P (running settings c course e) := by
  obtain ⟨tally, heq⟩ := countRooms_eq course.today RoomStatus.all e
  refine upkeeps_of_compact hcompact course.looks ?_
  rw [heq]
  exact htally e tally h

theorem store_running (settings : Settings) (c : Conditions) (course : Course) (e : Engine) :
    (running settings c course e).store = e.store :=
  running_of_compact (P := fun e' => e'.store = e.store)
    (fun e' hsame => (store_compact e' c).trans hsame) (fun _ _ hsame => hsame) rfl

theorem matches_running (h : e.Matches log) (settings : Settings) (course : Course) :
    ∃ log', (running settings .good course e).Matches log' :=
  running_of_compact (P := fun e => ∃ log, e.Matches log) (fun _ ⟨_, he⟩ => he.compact)
    (fun _ _ ⟨log, he⟩ => ⟨log, he.congr rfl rfl⟩) ⟨log, h⟩

theorem fixed_running (h : e.Fixed file) (settings : Settings) (course : Course) :
    (running settings .good course e).Fixed file :=
  running_of_compact (P := (·.Fixed file)) (fun _ => Fixed.compact)
    (fun _ _ hfixed => hfixed.congr rfl rfl) h

theorem stop_snd (c : Conditions) (e : Engine) : (stop c e).2 = (e.compact c).2 := by
  unfold stop
  rcases e.compact c with ⟨error | ⟨⟩, e'⟩
  · rfl
  · rfl

/-- A run fails if its ledger could not be filled, and else it ends with a compaction. -/
theorem runThrough_cases (settings : Settings) (c : Conditions) (course : Course) (file : Bytes) :
    let r := (seedIfEmpty settings c course.clock (.openOn file)).2
    let o := runThrough settings c course file
    o.failure = r.1 ∧
      (r.1 = none → o.log = ((running settings c course r.2).compact c).2.close c) := by
  simp only [runThrough, startThrough]
  rcases seedIfEmpty settings c course.clock (.openOn file) with ⟨notices, _ | failure, e⟩
  · refine ⟨rfl, fun _ => ?_⟩
    simp only [stop_snd]
    rfl
  · exact ⟨rfl, nofun⟩

/-- A run leaves a fixed file as it is, if it finds hotels there or is not to add any. -/
theorem runThrough_of_fixed (h : e.Fixed file)
    (hhotels : settings.seeds = true → e.store.allHotels ≠ []) (course : Course) :
    (runThrough settings .good course file).failure = none ∧
      (runThrough settings .good course file).log = file := by
  have hopened : settings.seeds = true → (openOn file).store.allHotels ≠ [] := by
    intro hseeds
    have hcreated := (Store.allHotels_ne_nil_iff_snapshot e.store).mp (hhotels hseeds)
    rw [← h.snapshot_reopen] at hcreated
    exact (Store.allHotels_ne_nil_iff_snapshot _).mpr hcreated
  obtain ⟨hfailure, hlog⟩ := runThrough_cases settings .good course file
  rw [seedIfEmpty_of_hotels hopened .good course.clock] at hfailure hlog
  have hfixed := (fixed_running h.reopen settings course).compact
  exact ⟨hfailure, (hlog rfl).trans (hfixed.close_eq .good)⟩

/-- The first run fixes the file, unless it fails for want of an identifier. -/
theorem exists_fixed_of_runThrough (h : Store.EntersOnce (Log.recover file).events)
    (settings : Settings) (course : Course) :
    let first := runThrough settings .good course file
    (first.failure = none ∧ ∃ e : Engine, e.Fixed first.log ∧
        (settings.seeds = true → e.store.allHotels ≠ [])) ∨
      first.failure = some (.ledger (.transactionFailed .idsExhausted)) := by
  obtain ⟨hfailure, hlog⟩ := runThrough_cases settings .good course file
  obtain ⟨⟨later, hentered, hmirrors⟩, hnone | hexhausted, hhotels⟩ :=
    mirrors_seedIfEmpty (mirrors_openOn file) settings course.clock
  · -- The events that were added enter no bookings.
    have hlater : Store.EntersOnce later := by rwa [Store.EntersOnce, hentered]
    obtain ⟨log, hrunning⟩ := matches_running (hmirrors.matches hlater) settings course
    have hfixed := hrunning.fixed_compact
    rw [← hfixed.close_eq .good, ← hlog hnone] at hfixed
    refine .inl ⟨hfailure.trans hnone, _, hfixed, fun hseeds => ?_⟩
    rw [store_compact, store_running]
    exact hhotels hnone hseeds
  · exact .inr (hfailure.trans hexhausted)

/-- On a disk without faults and a log that enters no two bookings with the same identifier, the
first compaction leaves the file that the next one leaves too, with the snapshot in it if that can
be written. The same goes for whole runs: the first run fails only if the identifiers run out while
it fills the ledger, and if it does not fail, a second one with the same settings leaves the file
as it is. A ledger that has a hotel is never filled, on whatever disk. -/
theorem log_fixed_by_first_run (file : Bytes) (h : Store.EntersOnce (Log.recover file).events) :
    (let first := ((openOn file).compact .good).2
     (first.store.Fits → first.journal.file = encode first.store.snapshot) ∧
      (∀ c, first.close c = first.journal.file) ∧
      ((openOn first.journal.file).compact .good).2.journal.file = first.journal.file) ∧
    (∀ settings course,
      let first := runThrough settings .good course file
      (first.failure = none ∨
        first.failure = some (.ledger (.transactionFailed .idsExhausted))) ∧
      (first.failure = none → ∀ course',
        let second := runThrough settings .good course' first.log
        second.failure = none ∧ second.log = first.log)) ∧
    ∀ other : Bytes, (∃ id name location rating,
        .hotelCreated id name location rating ∈ (Log.recover other).events) →
      ∀ settings c course,
        seedIfEmpty settings c course.clock (openOn other) =
          (skippingNotices settings (openOn other), none, openOn other) ∧
        (runThrough settings c course other).failure = none := by
  refine ⟨file_compact_reopen h, fun settings course => ?_,
    fun other hhotel settings c course => ?_⟩
  · rcases exists_fixed_of_runThrough h settings course with
      ⟨hnone, e, hfixed, hhotels⟩ | hexhausted
    · exact ⟨.inl hnone, fun _ course' => runThrough_of_fixed hfixed hhotels course'⟩
    · exact ⟨.inr hexhausted, fun hnone => nomatch hnone.symm.trans hexhausted⟩
  · obtain ⟨id, hid⟩ := hhotel
    have hlisted : (openOn other).store.allHotels ≠ [] :=
      (allHotels_ne_nil_iff _).mpr ⟨id, Store.mem_hotels_replay.mpr hid⟩
    have hskipped := seedIfEmpty_of_hotels (fun _ : settings.seeds = true => hlisted) c course.clock
    exact ⟨hskipped, by rw [(runThrough_cases settings c course other).1, hskipped]⟩

/-- Two users share an address, a hotel is created twice, a room is created anew over its booking
and for a hotel that is not there, and other events are about nothing that is there. -/
theorem log_fixed_by_first_run_of_ill_formed :
    let id (n : Nat) : RecordId := .ofParts 0 n
    let night : Stay := ⟨⟨2024, 1, 1, by decide, by decide, by decide⟩,
      ⟨2024, 1, 2, by decide, by decide, by decide⟩⟩
    let file := encode
      [.userCreated ⟨id 1, "Ada", "L", "ada@host", false⟩,
        .userCreated ⟨id 2, "Bob", "L", "ADA@host", false⟩,
        .bookingCreated ⟨id 3, id 8, id 2, 1, night, false⟩,
        .hotelCreated (id 9) "Inn" "Hill" 3, .roomCreated ⟨id 8, .king, ⟨0⟩, ⟨0⟩, id 9⟩,
        .bookingCreated ⟨id 5, id 8, id 7, 1, night, false⟩, .hotelUpdated (id 6) {},
        .roomCreated ⟨id 8, .suite, ⟨0⟩, ⟨0⟩, id 6⟩, .hotelCreated (id 9) "Inn" "Dale" 4,
        .bookingCreated ⟨id 4, id 8, id 2, 1, night, false⟩, .bookingCanceled (id 5) (id 8)]
    Store.EntersOnce (Log.recover file).events ∧
      (let first := ((openOn file).compact .good).2
       ((openOn first.journal.file).compact .good).2.journal.file = first.journal.file) ∧
      ∀ settings course course',
        let first := runThrough settings .good course file
        first.failure = none ∧ (runThrough settings .good course' first.log).log = first.log := by
  intro id night file
  have hrecover : (Log.recover file).events = _ := congrArg Log.Recovery.events
    (Log.Holds.encode (by decide +kernel)).recover
  have honce : Store.EntersOnce (Log.recover file).events := by
    rw [hrecover]
    decide
  obtain ⟨⟨-, -, hcompacted⟩, hruns, hskips⟩ := log_fixed_by_first_run file honce
  refine ⟨honce, hcompacted, fun settings course course' => ?_⟩
  have hhotel : .hotelCreated (id 9) "Inn" "Hill" 3 ∈ (Log.recover file).events := by
    rw [hrecover]
    simp
  have hnone := (hskips file ⟨id 9, "Inn", "Hill", 3, hhotel⟩ settings .good course).2
  exact ⟨hnone, ((hruns settings course).2 hnone course').2⟩

end Lodging.Service
