import Lodging.Proofs.Durability

/-!
# What may be read back

A journal that is closed now leaves some log, and which one may depend on the disk if a failed batch
could not be cut off. While batches are committed whole, what is left after a commit is what was
left before it, with the batch or without it, and after a good compaction only the events that were
given.
-/

namespace Lodging.Log.Journal

variable {j j' : Journal} {c : Conditions} {kept batch lost log events : List Event}

/-- The log may be read back once the journal is closed. -/
def Leaves (j : Journal) (log : List Event) : Prop := ∃ c, (Log.recover (j.close c)).events = log

/-- Nothing waits for a flush, or nothing is taken any more. -/
def Idle (j : Journal) : Prop := j.poisoned = true ∨ ∃ kept, j.Carries kept []

theorem Carries.leaves_iff (h : j.Carries kept []) : j.Leaves log ↔ log = kept := by
  obtain ⟨hholds, -, -⟩ := h.output_eq_of_settled
  have hevents (c : Conditions) : (Log.recover (j.close c)).events = kept := by
    rw [h.close_eq c, hholds.recover]
  constructor
  · rintro ⟨c, rfl⟩
    exact hevents c
  · rintro rfl
    exact ⟨.good, hevents .good⟩

theorem leaves_recover {file : Bytes} :
    (Journal.recover file).Leaves log ↔ log = (Log.recover file).events :=
  (carries_recover file).leaves_iff

/-- A spoiled journal leaves what was kept, perhaps with some of the lost batch. -/
theorem Spoiled.isPrefix_of_leaves (h : j.Spoiled kept lost) (hlog : j.Leaves log) :
    kept <+: log ∧ log <+: kept ++ lost := by
  obtain ⟨c, rfl⟩ := hlog
  refine ⟨?_, h.recover_close c⟩
  obtain ⟨base, part, hbase, -, hrests⟩ := h.left
  have hfront : base <+: j.close c :=
    hrests.base_isPrefix.trans (j.output.drain_takes c).file_isPrefix
  have hevents := recover_events_of_isPrefix hfront
  rwa [hbase.recover] at hevents

theorem Recovers.idle (h : j.Recovers c kept batch) : j.Idle := by
  rcases h with hcarries | ⟨-, lost, -, hspoiled⟩
  · exact .inr ⟨kept, hcarries⟩
  · exact .inl hspoiled.poisoned

/-- After a failed batch of one event the old log is left or, where the rollback failed too, perhaps
the log with the event. -/
theorem Recovers.leaves_cases {event : Event} (h : j.Recovers c kept [event])
    (hlog : j.Leaves log) : log = kept ∨ j.poisoned = true ∧ log = kept ++ [event] := by
  rcases h with hcarries | ⟨-, lost, hlost, hspoiled⟩
  · exact .inl (hcarries.leaves_iff.mp hlog)
  · obtain ⟨⟨rest, rfl⟩, hrest⟩ := hspoiled.isPrefix_of_leaves hlog
    have hrest := ((List.prefix_append_right_inj kept).mp hrest).trans hlost
    rcases List.prefix_cons_iff.mp hrest with rfl | ⟨rest', rfl, hnil⟩
    · exact .inl (List.append_nil kept)
    · rw [List.prefix_nil.mp hnil]
      exact .inr ⟨hspoiled.poisoned, rfl⟩

namespace Idle

/-- A good commit adds its events to what is left. -/
theorem commit_ok (h : j.Idle) (hcommit : j.commit c events = (.ok (), j')) :
    j'.Idle ∧ ∀ log, j'.Leaves log → ∃ past, j.Leaves past ∧ log = past ++ events := by
  rcases h with hpoisoned | ⟨kept, hcarries⟩
  · cases hcommit.symm.trans (commit_of_poisoned hpoisoned c events)
  · rcases hcarries.commit_cases c events with ⟨j'', heq, hcarries'⟩ | ⟨error, j'', heq, -⟩
    · cases hcommit.symm.trans heq
      refine ⟨.inr ⟨_, hcarries'⟩, fun log hlog => ⟨kept, hcarries.leaves_iff.mpr rfl, ?_⟩⟩
      exact hcarries'.leaves_iff.mp hlog
    · cases hcommit.symm.trans heq

/-- A failed commit leaves what was left before or, where its rollback failed as well, perhaps that
with the event. -/
theorem commit_error {event : Event} {error : IoError} (h : j.Idle)
    (hcommit : j.commit c [event] = (.error error, j')) :
    j'.Idle ∧ ∀ log, j'.Leaves log → j.Leaves log ∨
      j'.poisoned = true ∧ ∃ past, j.Leaves past ∧ log = past ++ [event] := by
  rcases h with hpoisoned | ⟨kept, hcarries⟩
  · cases hcommit.symm.trans (commit_of_poisoned hpoisoned c [event])
    exact ⟨.inl hpoisoned, fun log hlog => .inl hlog⟩
  · have hkept := hcarries.leaves_iff.mpr rfl
    rcases hcarries.commit_cases c [event] with ⟨j'', heq, -⟩ | ⟨error, j'', heq, hrecovers⟩
    · cases hcommit.symm.trans heq
    · cases hcommit.symm.trans heq
      refine ⟨hrecovers.idle, fun log hlog => ?_⟩
      rcases hrecovers.leaves_cases hlog with rfl | ⟨hpoisoned, rfl⟩
      · exact .inl hkept
      · exact .inr ⟨hpoisoned, kept, hkept, rfl⟩

/-- After a good compaction its events are left. -/
theorem compact_ok (h : j.Idle) (hcompact : j.compact c events = (.ok (), j')) :
    j'.Idle ∧ ∀ log, j'.Leaves log → log = events := by
  rcases h with hpoisoned | ⟨kept, hcarries⟩
  · cases hcompact.symm.trans (compact_of_poisoned hpoisoned c events)
  · rcases hcarries.compact_cases c events with
      ⟨j'', -, -, ⟨error, heq⟩ | ⟨j'', heq, hcarries'⟩⟩ | ⟨error, j'', -, heq, -⟩
    · cases hcompact.symm.trans heq
    · cases hcompact.symm.trans heq
      exact ⟨.inr ⟨_, hcarries'⟩, fun log hlog => hcarries'.leaves_iff.mp hlog⟩
    · cases hcompact.symm.trans heq

/-- A failed compaction leaves what was left before. -/
theorem compact_error {error : IoError} (h : j.Idle)
    (hcompact : j.compact c events = (.error error, j')) :
    j'.Idle ∧ ∀ log, j'.Leaves log → j.Leaves log := by
  rcases h with hpoisoned | ⟨kept, hcarries⟩
  · cases hcompact.symm.trans (compact_of_poisoned hpoisoned c events)
    exact ⟨.inl hpoisoned, fun log hlog => hlog⟩
  · have hkept := hcarries.leaves_iff.mpr rfl
    rcases hcarries.compact_cases c events with
      ⟨j'', -, hcarries', ⟨error, heq⟩ | ⟨j'', heq, -⟩⟩ | ⟨error, j'', hsettle, -, -⟩
    · cases hcompact.symm.trans heq
      rw [List.append_nil] at hcarries'
      exact ⟨.inr ⟨kept, hcarries'⟩, fun log hlog => hcarries'.leaves_iff.mp hlog ▸ hkept⟩
    · cases hcompact.symm.trans heq
    · -- No batch waits, so the flush with which a compaction begins cannot fail.
      have hnone : j.pendingEvents = 0 := hcarries.pendingEvents_eq
      rw [settle, if_pos hnone] at hsettle
      cases hsettle

end Idle

end Lodging.Log.Journal
