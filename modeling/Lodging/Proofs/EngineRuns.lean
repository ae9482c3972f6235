import Lodging.Proofs.EngineSteps

/-!
# Runs of the engine

An engine works on its log under any conditions of the disk, and is closed and opened again on what
is left of the log. As long as failed batches can be cut off the file, memory and log agree after
each step. Otherwise some of the last batch may come back when the log is opened again, but even
then no room is booked twice.
-/

namespace Lodging

open Log (Bytes Conditions Journal)

namespace Engine

/-- Something that happens to an engine: a change, a compaction, or that it is closed and opened
again on the first bytes of its log. -/
inductive Action
  | change (c : Conditions) (m : Moment) (change : Change)
  | compact (c : Conditions)
  | reopen (c : Conditions) (bytes : Nat)

/-- How the disk behaves meanwhile. -/
def Action.conditions : Action → Conditions
  | change c _ _ => c
  | compact c => c
  | reopen c _ => c

/-- What becomes of the engine. -/
def after (e : Engine) : Action → Engine
  | .change c m change => (e.perform c m change).2
  | .compact c => (e.compact c).2
  | .reopen c bytes => reopenOn ((e.close c).take bytes) e

/-- What becomes of the engine when one thing happens after the other. -/
def run (e : Engine) (actions : List Action) : Engine := actions.foldl after e

theorem run_append (e : Engine) (earlier later : List Action) :
    e.run (earlier ++ later) = (e.run earlier).run later := List.foldl_append

/-! ## Steps -/

/-- The journal carries the log of the engine. -/
structure Settled (e : Engine) (log : List Event) : Prop where
  describes : e.Describes log
  carries : e.journal.Carries log []

/-- The journal takes nothing any more, and behind the log there may be some of a batch that would
have been allowed. -/
structure Broken (e : Engine) (log : List Event) : Prop where
  describes : e.Describes log
  spoiled : ∃ lost, e.journal.Spoiled log lost ∧ Store.History Store.Allows (log ++ lost)

variable {e : Engine} {log : List Event}

theorem settled_reopenOn {file : Bytes} (h : Store.History Store.Allows (Log.recover file).events) :
    (reopenOn file e).Settled (Log.recover file).events where
  describes := (describes_openOn h).congr rfl (RecordId.le_refl _)
  carries := Journal.carries_recover file

/-- Whatever is left of a log of allowed events, an engine can be opened on it. -/
theorem exists_settled_reopenOn {file front : Bytes} (hlog : Store.History Store.Allows log)
    (hfile : (Log.recover file).events <+: log) (hfront : front <+: file) :
    ∃ log', (reopenOn front e).Settled log' :=
  ⟨_, settled_reopenOn (hlog.of_isPrefix ((Log.recover_events_of_isPrefix hfront).trans hfile))⟩

/-- A failed batch that might have followed the log is gone, or it breaks the engine. -/
theorem Describes.settled_or_broken {c : Conditions} {batch : List Event} (h : e.Describes log)
    (hrecovers : e.journal.Recovers c log batch)
    (hbatch : Store.History Store.Allows (log ++ batch)) :
    e.Settled log ∨ c.rollbackFault ≠ none ∧ e.Broken log := by
  rcases hrecovers with hcarries | ⟨hfault, lost, hlost, hspoiled⟩
  · exact .inl ⟨h, hcarries⟩
  · have hleft := hbatch.of_isPrefix ((List.prefix_append_right_inj log).mpr hlost)
    exact .inr ⟨hfault, h, lost, hspoiled, hleft⟩

namespace Settled

theorem perform (h : e.Settled log) (c : Conditions) (m : Moment) (change : Change) :
    ∃ log', (e.perform c m change).2.Settled log' ∨
      c.rollbackFault ≠ none ∧ (e.perform c m change).2.Broken log' := by
  rcases h.describes.perform_cases c m change with
    ⟨hdescribes, hjournal⟩ | ⟨event, hallowed, ⟨hcommit, hdescribes⟩ | ⟨error, hcommit, hdescribes⟩⟩
  · exact ⟨log, .inl ⟨hdescribes, hjournal ▸ h.carries⟩⟩
  · rcases h.carries.commit_cases c [event] with ⟨j', heq, hcarries⟩ | ⟨error, j', heq, -⟩
    · cases hcommit.symm.trans heq
      exact ⟨_, .inl ⟨hdescribes, hcarries⟩⟩
    · cases hcommit.symm.trans heq
  · rcases h.carries.commit_cases c [event] with ⟨j', heq, -⟩ | ⟨error', j', heq, hrecovers⟩
    · cases hcommit.symm.trans heq
    · cases hcommit.symm.trans heq
      exact ⟨log, hdescribes.settled_or_broken hrecovers hallowed⟩

theorem compact (h : e.Settled log) (c : Conditions) :
    ∃ log', (e.compact c).2.Settled log' ∨
      c.rollbackFault ≠ none ∧ (e.compact c).2.Broken log' := by
  -- The journal and the engine tell the same story, so of each pair of cases only one is possible.
  rcases h.carries.compact_cases c e.store.snapshot with
    ⟨j', -, hcarries, ⟨error, heq⟩ | ⟨j'', heq, hcarries'⟩⟩ | ⟨error, j', -, heq, hrecovers⟩
  · rcases h.describes.compact_cases c with ⟨hcompact, -⟩ | ⟨error', hcompact, hdescribes⟩
    · cases hcompact.symm.trans heq
    · cases hcompact.symm.trans heq
      exact ⟨log, .inl ⟨hdescribes, by rwa [List.append_nil] at hcarries⟩⟩
  · rcases h.describes.compact_cases c with ⟨hcompact, hdescribes⟩ | ⟨error', hcompact, -⟩
    · cases hcompact.symm.trans heq
      exact ⟨_, .inl ⟨hdescribes, hcarries'⟩⟩
    · cases hcompact.symm.trans heq
  · rcases h.describes.compact_cases c with ⟨hcompact, -⟩ | ⟨error', hcompact, hdescribes⟩
    · cases hcompact.symm.trans heq
    · cases hcompact.symm.trans heq
      refine ⟨log, hdescribes.settled_or_broken hrecovers ?_⟩
      rw [List.append_nil]
      exact h.describes.history

theorem recover_close (h : e.Settled log) (c : Conditions) :
    (Log.recover (e.close c)).events = log := by
  obtain ⟨hholds, -, -⟩ := h.carries.output_eq_of_settled
  rw [Engine.close, h.carries.close_eq c, hholds.recover]

/-- After a step memory and log agree again, unless a failed batch could not be cut off. -/
theorem after (h : e.Settled log) (action : Action) :
    ∃ log', (e.after action).Settled log' ∨
      action.conditions.rollbackFault ≠ none ∧ (e.after action).Broken log' := by
  cases action with
  | change c m change => exact h.perform c m change
  | compact c => exact h.compact c
  | reopen c bytes =>
      obtain ⟨log', hsettled⟩ := exists_settled_reopenOn h.describes.history
        (h.recover_close c ▸ List.prefix_rfl) (List.take_prefix bytes (e.close c))
      exact ⟨log', .inl hsettled⟩

end Settled

theorem Broken.of_journal_eq {e' : Engine} (h : e.Broken log) (hdescribes : e'.Describes log)
    (hjournal : e'.journal = e.journal) : e'.Broken log :=
  ⟨hdescribes, hjournal ▸ h.spoiled⟩

/-- A broken engine changes nothing any more, until it is opened again. -/
theorem Broken.after (h : e.Broken log) (action : Action) :
    ∃ log', (e.after action).Settled log' ∨ (e.after action).Broken log' := by
  obtain ⟨lost, hspoiled, hhistory⟩ := h.spoiled
  cases action with
  | change c m change =>
      rcases h.describes.perform_cases c m change with
        ⟨hdescribes, hjournal⟩ | ⟨event, -, ⟨hcommit, -⟩ | ⟨error, hcommit, hdescribes⟩⟩
      · exact ⟨log, .inr (h.of_journal_eq hdescribes hjournal)⟩
      · cases hcommit.symm.trans (Journal.commit_of_poisoned hspoiled.poisoned c [event])
      · -- The commit was refused before anything was written.
        have hjournal := hcommit.symm.trans
          (Journal.commit_of_poisoned hspoiled.poisoned c [event])
        exact ⟨log, .inr (h.of_journal_eq hdescribes (congrArg Prod.snd hjournal))⟩
  | compact c =>
      have hpoisoned := Journal.compact_of_poisoned hspoiled.poisoned c e.store.snapshot
      rcases h.describes.compact_cases c with ⟨hcompact, -⟩ | ⟨error, hcompact, hdescribes⟩
      · cases hcompact.symm.trans hpoisoned
      · have hjournal := hcompact.symm.trans hpoisoned
        exact ⟨log, .inr (h.of_journal_eq hdescribes (congrArg Prod.snd hjournal))⟩
  | reopen c bytes =>
      obtain ⟨log', hsettled⟩ := exists_settled_reopenOn hhistory (hspoiled.recover_close c)
        (List.take_prefix bytes (e.close c))
      exact ⟨log', .inl hsettled⟩

/-! ## Whole runs -/

theorem settled_openOn_nil : (openOn []).Settled [] := by
  have hempty : (Log.recover []).events = [] := by rw [Log.Holds.nil.recover]
  refine ⟨?_, ?_⟩
  · have h : (openOn []).Describes (Log.recover []).events :=
      describes_openOn (hempty ▸ Store.History.nil)
    rwa [hempty] at h
  · have h := Journal.carries_recover []
    rwa [hempty] at h

theorem Settled.run_of_rollback (h : e.Settled log) {actions : List Action}
    (hrollback : ∀ action ∈ actions, action.conditions.rollbackFault = none) :
    ∃ log', (e.run actions).Settled log' := by
  induction actions generalizing e log with
  | nil => exact ⟨log, h⟩
  | cons action rest ih =>
      obtain ⟨log', hsettled | ⟨hfault, -⟩⟩ := h.after action
      · refine ih hsettled fun action' haction' => ?_
        exact hrollback action' (List.mem_cons_of_mem _ haction')
      · exact absurd (hrollback action List.mem_cons_self) hfault

theorem settled_or_broken_run (h : e.Settled log ∨ e.Broken log) (actions : List Action) :
    ∃ log', (e.run actions).Settled log' ∨ (e.run actions).Broken log' := by
  induction actions generalizing e log with
  | nil => exact ⟨log, h⟩
  | cons action rest ih =>
      rcases h with h | h
      · obtain ⟨log', h⟩ := h.after action
        exact ih (h.imp_right And.right)
      · obtain ⟨log', h⟩ := h.after action
        exact ih h

/-- The store of an engine that began on an empty log is that of some log. -/
theorem describes_run (actions : List Action) : ∃ log, ((openOn []).run actions).Describes log := by
  obtain ⟨log, h | h⟩ := settled_or_broken_run (.inl settled_openOn_nil) actions
  · exact ⟨log, h.describes⟩
  · exact ⟨log, h.describes⟩

/-- While its log works, memory and log of such an engine agree. -/
theorem settled_run_of_trusted {actions : List Action}
    (htrusted : ((openOn []).run actions).journal.poisoned = false) :
    ∃ log, ((openOn []).run actions).Settled log := by
  obtain ⟨log, h | h⟩ := settled_or_broken_run (.inl settled_openOn_nil) actions
  · exact ⟨log, h⟩
  · obtain ⟨lost, hspoiled, -⟩ := h.spoiled
    cases htrusted.symm.trans hspoiled.poisoned

/-- An engine that began on an empty log never has two active bookings of one room that share a
night, whatever is asked of it, whatever the disk does, and wherever its log is cut. Every booking
lasts at least one night, and readers of a room see the same bookings as writers. -/
theorem run_not_double_booked (actions : List Action) (room : RecordId) :
    let s := ((openOn []).run actions).store
    (∀ b ∈ s.bookingsIn room, b.stay.checkIn < b.stay.checkOut) ∧
      ((s.bookingsIn room).Pairwise fun a b =>
        a.canceled = false → b.canceled = false → a.stay.overlaps b.stay = false) ∧
      s.bookingsShown room = s.bookingsIn room := by
  intro s
  obtain ⟨log, hrun⟩ := settled_or_broken_run (.inl settled_openOn_nil) actions
  have hsound : s.Sound := by
    rcases hrun with h | h
    · exact h.describes.sound
    · exact h.describes.sound
  have hconsistent := hsound.consistent room
  refine ⟨hconsistent.lasts, hconsistent.apart.imp fun hapart ha hb => ?_,
    hsound.coherent.bookingsShown_eq room⟩
  exact hapart (by rw [Booking.isActive, ha]; rfl) (by rw [Booking.isActive, hb]; rfl)

/-- While failed batches can be cut off, an engine opened on the log of another one, during its work
or after its end, has exactly the store of the other. -/
theorem store_openOn_run (actions : List Action)
    (hrollback : ∀ action ∈ actions, action.conditions.rollbackFault = none) :
    let e := (openOn []).run actions
    (openOn e.journal.file).store = e.store ∧
      ∀ c, (openOn (e.close c)).store = e.store := by
  intro e
  obtain ⟨log, h⟩ := settled_openOn_nil.run_of_rollback hrollback
  have hstore (c : Conditions) : (openOn (e.close c)).store = e.store := by
    change Store.replay (Log.recover (e.close c)).events = e.store
    rw [h.recover_close c, h.describes.store_eq]
  have hfile : e.close .good = e.journal.file := h.carries.close_eq .good
  exact ⟨hfile ▸ hstore .good, hstore⟩

/-- The disk is full while a user is created, then a snapshot cannot take the place of the log, and
then it can. -/
theorem store_openOn_run_of_full_disk :
    let actions : List Action :=
      [.change .good ⟨5, 0⟩ (.createHotel "Inn" "Hill" 3),
        .change { capacity := some 100 } ⟨6, 0⟩ (.createUser "Ada" "L" "ada@host" false),
        .compact { renameError := some (.system .noSuchFile) }, .compact .good,
        .change .good ⟨4, 0⟩ (.createUser "Ada" "L" "ada@host" true), .reopen .good 1000]
    (∀ action ∈ actions, action.conditions.rollbackFault = none) ∧
      let e := (openOn []).run actions
      (openOn e.journal.file).store = e.store ∧ ∀ c, (openOn (e.close c)).store = e.store := by
  intro actions
  have hrollback : ∀ action ∈ actions, action.conditions.rollbackFault = none := by
    simp [actions, Action.conditions, Conditions.good]
  exact ⟨hrollback, store_openOn_run actions hrollback⟩

end Engine

end Lodging
