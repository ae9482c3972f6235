import Lodging.Proofs.Durability

/-!
# After a failed rollback

When a failed batch could not be cut off, the journal takes nothing any more, and nothing that is
asked of it changes its file. Only closing it still may, since closing writes out what is left in
the buffer. Nothing is left there if the rollback got as far as a second handle on the file. If it
did not, the rest of the failed batch waits there, and may bring the batch back.
-/

namespace Lodging.Log.Journal

variable {j : Journal} {c : Conditions}

/-! ## Where an operation throws its batch away -/

/-- A rollback empties the buffer, unless no second handle on the file could be had. -/
theorem unwritten_discardPending (c : Conditions) (j : Journal) :
    (j.discardPending c).output.unwritten = [] ∨ c.rollbackFault = some .handle := by
  simp only [discardPending, cutBack]
  split
  · exact .inl rfl
  · next hfault => exact .inr hfault
  · exact .inl rfl
  · split
    · exact .inl rfl
    · exact .inl rfl
  · split
    · exact .inl rfl
    · exact .inl rfl

section

variable (h : j.poisoned = false)
include h

theorem append_eq_or_discarded (c : Conditions) (e : Event) :
    (∃ j', j.append c e = (.ok (), j') ∧ j'.poisoned = false) ∨
      ∃ error, ∃ j' : Journal, j.append c e = (.error error, j'.discardPending c) := by
  have houtcome := append_outcome h c e
  generalize j.append c e = r at houtcome
  cases houtcome with
  | taken hfits htakes => exact .inl ⟨_, rfl, h⟩
  | tooLarge => exact .inr ⟨_, _, rfl⟩
  | cut hfits htakes => exact .inr ⟨_, _, rfl⟩

theorem flush_eq_or_discarded (c : Conditions) :
    (∃ j', j.flush c = (.ok (), j') ∧ j'.poisoned = false) ∨
      ∃ error, ∃ j' : Journal, j.flush c = (.error error, j'.discardPending c) := by
  have houtcome := flush_outcome h c
  generalize j.flush c = r at houtcome
  cases houtcome with
  | durable hunwritten => exact .inl ⟨_, rfl, h⟩
  | cut => exact .inr ⟨_, _, rfl⟩

theorem settle_eq_or_discarded (c : Conditions) :
    (∃ j', j.settle c = (.ok (), j') ∧ j'.poisoned = false) ∨
      ∃ error, ∃ j' : Journal, j.settle c = (.error error, j'.discardPending c) := by
  unfold settle
  split
  · exact .inl ⟨j, rfl, h⟩
  · exact flush_eq_or_discarded h c

theorem poisoned_replaceBy (c : Conditions) (events : List Event) :
    (j.replaceBy c events).2.poisoned = false := by
  rcases replaceBy_cases c events j with ⟨log, -, heq⟩ | ⟨error, heq⟩
  · rw [heq]
    exact h
  · rw [heq]
    exact h

/-- An operation leaves the journal trusted, or it ends by throwing the batch away. -/
theorem after_trusted_or_discarded (c : Conditions) (operation : Operation) :
    (j.after c operation).poisoned = false ∨
      ∃ j' : Journal, j.after c operation = j'.discardPending c := by
  cases operation with
  | append event =>
      simp only [after]
      rcases append_eq_or_discarded h c event with ⟨j', heq, hj'⟩ | ⟨error, j', heq⟩
      · rw [heq]
        exact .inl hj'
      · rw [heq]
        exact .inr ⟨j', rfl⟩
  | flush =>
      simp only [after]
      rcases flush_eq_or_discarded h c with ⟨j', heq, hj'⟩ | ⟨error, j', heq⟩
      · rw [heq]
        exact .inl hj'
      · rw [heq]
        exact .inr ⟨j', rfl⟩
  | compact events =>
      -- Once the flush has gone well, a compaction that fails throws nothing away.
      simp only [after, compact_eq_of_trusted c events j h]
      rcases settle_eq_or_discarded h c with ⟨j', heq, hj'⟩ | ⟨error, j', heq⟩
      · rw [heq]
        exact .inl (poisoned_replaceBy hj' c events)
      · rw [heq]
        exact .inr ⟨j', rfl⟩

end

/-! ## Poisoned journals -/

section

variable (h : j.poisoned = true)
include h

/-- A poisoned journal stays as it is, whatever is asked of it. -/
theorem after_of_poisoned (c : Conditions) (operation : Operation) : j.after c operation = j := by
  cases operation with
  | append event => simp only [after, append, h, if_true]
  | flush => simp only [after, flush, h, if_true]
  | compact events => simp only [after, compact_of_poisoned h]

theorem run_of_poisoned (steps : List (Conditions × Operation)) : j.run steps = j := by
  induction steps with
  | nil => rfl
  | cons step rest ih => rw [run, after_of_poisoned h, ih]

end

/-- From the moment at which a failed batch could not be cut off, nothing that is asked of the
journal changes it. Closing adds to the file as much of what is left in the buffer as the disk
takes; unless no second handle on the file could be had, nothing is left there, and the file that
remains is the one of that moment. -/
theorem close_run_of_failed_rollback (c : Conditions) (operation : Operation)
    (later : List (Conditions × Operation)) (atClose : Conditions) (htrusted : j.poisoned = false)
    (hpoisoned : (j.after c operation).poisoned = true) :
    let failed := j.after c operation
    failed.run later = failed ∧
      (failed.run later).close atClose = failed.file ++ failed.output.unwritten.take
        (atClose.fitting failed.file.length failed.output.unwritten.length) ∧
      (c.rollbackFault ≠ some .handle → (failed.run later).close atClose = failed.file) := by
  intro failed
  have hrun : failed.run later = failed := run_of_poisoned hpoisoned later
  refine ⟨hrun, by rw [hrun]; rfl, fun hfault => ?_⟩
  have hunwritten : failed.output.unwritten = [] := by
    rcases after_trusted_or_discarded htrusted c operation with htrusted' | ⟨j', hdiscarded⟩
    · cases htrusted'.symm.trans hpoisoned
    · rw [show failed = j'.discardPending c from hdiscarded]
      exact (unwritten_discardPending c j').resolve_right hfault
  simp only [hrun, close, Output.drain, hunwritten, List.take_nil, List.append_nil]
  rfl

/-- The disk is full, and the length of the file cannot be read; later there is room again. -/
theorem close_run_of_unread_length :
    let j := ((Journal.openAt [] 0).append .good (.userDeleted .zero)).2
    let c : Conditions := { capacity := some 10, rollbackFault := some .length }
    j.poisoned = false ∧ (j.after c .flush).poisoned = true ∧
      ((j.after c .flush).run
        [(.good, .append (.userDeleted .zero)), (.good, .flush)]).close .good =
          (j.after c .flush).file := by
  intro j c
  have htrusted : j.poisoned = false := by decide
  have hpoisoned : (j.after c .flush).poisoned = true := by decide
  exact ⟨htrusted, hpoisoned, (close_run_of_failed_rollback c .flush _ .good htrusted hpoisoned).2.2
    (by decide)⟩

/-- Without a second handle on the file the batch that was reported as failed comes back when the
journal is closed. -/
theorem recover_close_of_no_handle :
    let j := ((Journal.openAt [] 0).append .good (.userDeleted .zero)).2
    let c : Conditions := { capacity := some 10, rollbackFault := some .handle }
    (j.flush c).1 = .error c.writeError ∧
      Log.recover (j.flush c).2.file = ⟨[], 0, true⟩ ∧
      Log.recover ((j.flush c).2.close .good) = ⟨[.userDeleted .zero], 52, false⟩ := by
  intro j c
  have hfile : Reader.frame (j.flush c).2.file = none := by rfl
  have hclose : (j.flush c).2.close .good = (Event.userDeleted .zero).frame := by rfl
  have hlength : (Event.userDeleted .zero).frame.length = 52 := by decide
  have hlength' : (Event.userDeleted .zero).payload.length = 44 := by decide
  have hholds : Holds (Event.userDeleted .zero).frame [.userDeleted .zero] :=
    .frame (by rw [hlength', payloadBound]; omega)
  refine ⟨by decide, ?_, by rw [hclose, hholds.recover, hlength]⟩
  simp only [Log.recover, scan_of_no_frame hfile]
  decide

end Lodging.Log.Journal
