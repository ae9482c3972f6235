import Lodging.Proofs.Leftovers

/-!
# All or nothing

A journal is at rest when no batch waits and its whole file is durable. A commit that fails leaves
such a journal exactly as it was, down to the count of its appends, as long as the batch can be cut
off, and a compaction that fails always does. While the disk accepts everything, no commit fails.
-/

namespace Lodging.Log

/-- The disk takes all that is written and makes it durable. -/
structure Conditions.Accepts (c : Conditions) : Prop where
  capacity_eq : c.capacity = none
  syncError_eq : c.syncError = none

theorem Conditions.accepts_good : Conditions.good.Accepts := ⟨rfl, rfl⟩

namespace Journal

variable {j j' j'' : Journal} {c : Conditions} {events kept : List Event} {error : IoError}

/-! ## Journals at rest -/

/-- No batch waits, and the whole file is durable. -/
structure AtRest (j : Journal) : Prop where
  trusted : j.poisoned = false
  unwritten_eq : j.output.unwritten = []
  durableLength_eq : j.durableLength = j.file.length
  pendingLength_eq : j.pendingLength = 0
  pendingEvents_eq : j.pendingEvents = 0

theorem AtRest.eq_of_file_eq (h : j.AtRest) (h' : j'.AtRest) (hfile : j'.file = j.file)
    (happends : j'.appends = j.appends) : j' = j := by
  obtain ⟨htrusted, hunwritten, hdurable, hlength, hevents⟩ := h
  obtain ⟨htrusted', hunwritten', hdurable', hlength', hevents'⟩ := h'
  rw [hfile, ← hdurable] at hdurable'
  obtain ⟨⟨file, unwritten⟩, _, _, _, _, _⟩ := j
  obtain ⟨⟨file', unwritten'⟩, _, _, _, _, _⟩ := j'
  simp only [Journal.file] at *
  subst_vars
  rfl

theorem Carries.atRest (h : j.Carries kept []) : j.AtRest := by
  obtain ⟨-, hdurable, hunwritten⟩ := h.output_eq_of_settled
  exact ⟨h.trusted, hunwritten, hdurable, h.pendingLength_eq, h.pendingEvents_eq⟩

theorem Idle.atRest (h : j.Idle) (htrusted : j.poisoned = false) : j.AtRest := by
  rcases h with hpoisoned | ⟨kept, hcarries⟩
  · cases htrusted.symm.trans hpoisoned
  · exact hcarries.atRest

/-! ## Batches that fail -/

/-- The journal is another one with a batch that waits for a flush. -/
structure Extends (j' j : Journal) : Prop where
  trusted : j'.poisoned = false
  file_isPrefix : j.file <+: j'.file
  durableLength_eq : j'.durableLength = j.durableLength
  appends_eq : j'.appends = j.appends + j'.pendingEvents

theorem AtRest.extends_self (h : j.AtRest) : j.Extends j where
  trusted := h.trusted
  file_isPrefix := List.prefix_rfl
  durableLength_eq := rfl
  appends_eq := by rw [h.pendingEvents_eq, Nat.add_zero]

/-- When nothing gets in the way of a rollback, only the durable part of the file is left. -/
theorem discardPending_eq_of_trusted (h : (j.discardPending c).poisoned = false) :
    j.discardPending c = { j with
      output := ⟨j.file.take j.durableLength, []⟩
      pendingLength := 0
      pendingEvents := 0
      appends := j.appends - j.pendingEvents } := by
  simp only [discardPending, cutBack] at h ⊢
  split at h
  · rfl
  · cases h
  · cases h
  · split at h
    · cases h
    · next hwhole => exact if_neg hwhole
  · split at h
    · cases h
    · next hwhole => exact if_neg hwhole

/-- A journal at rest is the same again when a batch that was added to it is thrown away. -/
theorem Extends.discardPending_eq (h : j'.Extends j) (hj : j.AtRest)
    (hcut : (j'.discardPending c).poisoned = false) : j'.discardPending c = j := by
  have heq := discardPending_eq_of_trusted hcut
  have hfile : j'.file.take j'.durableLength = j.file := by
    obtain ⟨added, hadded⟩ := h.file_isPrefix
    rw [← hadded, h.durableLength_eq, hj.durableLength_eq, List.take_left]
  rw [hfile] at heq
  refine hj.eq_of_file_eq ?_ ?_ ?_
  · rw [heq]
    exact ⟨h.trusted, rfl, h.durableLength_eq.trans hj.durableLength_eq, rfl, rfl⟩
  · rw [heq]
    rfl
  · rw [heq]
    exact Nat.sub_eq_of_eq_add h.appends_eq

/-- An append adds to the batch that waits, or throws it away. -/
theorem Extends.append_cases (h : j'.Extends j) (c : Conditions) (e : Event) :
    (∃ j'', j'.append c e = (.ok (), j'') ∧ j''.Extends j) ∨
      ∃ error, ∃ j'' : Journal,
        j'.append c e = (.error error, j''.discardPending c) ∧ j''.Extends j := by
  have houtcome := append_outcome h.trusted c e
  generalize j'.append c e = r at houtcome
  cases houtcome with
  | taken hfits htakes =>
      refine .inl ⟨_, rfl, h.trusted, h.file_isPrefix.trans htakes.file_isPrefix,
        h.durableLength_eq, ?_⟩
      simp only [h.appends_eq]
      exact Nat.add_assoc _ _ _
  | tooLarge => exact .inr ⟨_, j', rfl, h⟩
  | @cut output hfits htakes =>
      exact .inr ⟨_, { j' with output }, rfl, h.trusted,
        h.file_isPrefix.trans htakes.file_isPrefix, h.durableLength_eq, h.appends_eq⟩

theorem Extends.appendAll_cases (h : j'.Extends j) (c : Conditions) (events : List Event) :
    (∃ j'', j'.appendAll c events = (.ok (), j'') ∧ j''.Extends j) ∨
      ∃ error, ∃ j'' : Journal,
        j'.appendAll c events = (.error error, j''.discardPending c) ∧ j''.Extends j := by
  induction events generalizing j' with
  | nil => exact .inl ⟨j', rfl, h⟩
  | cons e rest ih =>
      rw [appendAll]
      rcases h.append_cases c e with ⟨j'', heq, hj''⟩ | ⟨error, j'', heq, hj''⟩
      · rw [heq]
        exact ih hj''
      · rw [heq]
        exact .inr ⟨error, j'', rfl, hj''⟩

/-- A flush that fails throws the batch away. -/
theorem Extends.exists_of_flush_error (h : j'.Extends j)
    (hflush : j'.flush c = (.error error, j'')) :
    ∃ waiting : Journal, waiting.Extends j ∧ j'' = waiting.discardPending c := by
  have hdrained : { j' with output := j'.output.drain c }.Extends j :=
    ⟨h.trusted, h.file_isPrefix.trans (j'.output.drain_takes c).file_isPrefix, h.durableLength_eq,
      h.appends_eq⟩
  have houtcome := flush_outcome h.trusted c
  rw [hflush] at houtcome
  cases houtcome with
  | cut => exact ⟨_, hdrained, rfl⟩

/-- A commit that fails leaves a journal at rest as it was, if its batch is cut off. -/
theorem AtRest.eq_of_commit_error (h : j.AtRest) (hcommit : j.commit c events = (.error error, j'))
    (hcut : j'.poisoned = false) : j' = j := by
  rw [commit] at hcommit
  rcases h.extends_self.appendAll_cases c events with ⟨j'', heq, hj''⟩ | ⟨error', j'', heq, hj''⟩
  · rw [heq] at hcommit
    obtain ⟨waiting, hwaiting, rfl⟩ := hj''.exists_of_flush_error hcommit
    exact hwaiting.discardPending_eq h hcut
  · rw [heq] at hcommit
    obtain ⟨-, rfl⟩ := Prod.mk.inj hcommit
    exact hj''.discardPending_eq h hcut

/-- A compaction that fails leaves a journal at rest as it was. -/
theorem AtRest.eq_of_compact_error (h : j.AtRest)
    (hcompact : j.compact c events = (.error error, j')) : j' = j := by
  rw [compact_eq_of_nothing_pending h.trusted h.pendingEvents_eq] at hcompact
  rcases replaceBy_cases c events j with ⟨log, -, heq⟩ | ⟨cause, heq⟩
  · cases hcompact.symm.trans heq
  · exact congrArg Prod.snd (hcompact.symm.trans heq)

namespace Idle

theorem eq_of_commit_error (h : j.Idle) (hcommit : j.commit c events = (.error error, j'))
    (hcut : j.poisoned = false → j'.poisoned = false) : j' = j := by
  cases hpoisoned : j.poisoned with
  | false => exact (h.atRest hpoisoned).eq_of_commit_error hcommit (hcut hpoisoned)
  | true =>
      rw [commit_of_poisoned hpoisoned] at hcommit
      exact (Prod.mk.inj hcommit).2.symm

theorem eq_of_compact_error (h : j.Idle) (hcompact : j.compact c events = (.error error, j')) :
    j' = j := by
  cases hpoisoned : j.poisoned with
  | false => exact (h.atRest hpoisoned).eq_of_compact_error hcompact
  | true =>
      rw [compact_of_poisoned hpoisoned] at hcompact
      exact (Prod.mk.inj hcompact).2.symm

theorem atRest_of_commit_ok (h : j.Idle) (hcommit : j.commit c events = (.ok (), j')) :
    j'.AtRest := by
  refine (h.commit_ok hcommit).1.atRest ?_
  rcases h with hpoisoned | ⟨kept, hcarries⟩
  · cases hcommit.symm.trans (commit_of_poisoned hpoisoned c events)
  · rcases hcarries.commit_cases c events with ⟨j'', heq, hj''⟩ | ⟨error, j'', heq, -⟩
    · cases hcommit.symm.trans heq
      exact hj''.trusted
    · cases hcommit.symm.trans heq

end Idle

/-! ## Disks that accept everything -/

section

variable (hc : c.Accepts)
include hc

theorem fitting_of_accepts (length count : Nat) : c.fitting length count = count := by
  simp only [Conditions.fitting, hc.capacity_eq]

theorem unwritten_drain_of_accepts (o : Output) : (o.drain c).unwritten = [] := by
  simp only [Output.drain, fitting_of_accepts hc, List.drop_length]

theorem place_of_accepts (piece : Bytes) (o : Output) : (o.place c piece).1 = true := by
  unfold Output.place
  split
  · simp only [Output.writeThrough, fitting_of_accepts hc, decide_true]
  · rfl

theorem write_of_accepts (piece : Bytes) (o : Output) : (o.write c piece).1 = true := by
  unfold Output.write
  split
  · simp only [unwritten_drain_of_accepts hc, if_true, place_of_accepts hc]
  · exact place_of_accepts hc piece o

theorem writeAll_of_accepts (pieces : List Bytes) (o : Output) :
    (o.writeAll c pieces).1 = true := by
  induction pieces generalizing o with
  | nil => rfl
  | cons piece rest ih =>
      have hwrite := write_of_accepts hc piece o
      unfold Output.writeAll
      split
      · exact ih _
      · next heq =>
          rw [heq] at hwrite
          cases hwrite

theorem append_of_accepts (h : j.poisoned = false) {e : Event}
    (he : e.payload.length < payloadBound) :
    ∃ j', j.append c e = (.ok (), j') ∧ j'.poisoned = false := by
  rw [append, if_neg (by rw [h]; exact Bool.false_ne_true), if_neg (Nat.not_le_of_lt he)]
  simp only
  split
  · exact ⟨_, rfl, h⟩
  · next hfailed =>
      have hwritten := congrArg Prod.fst hfailed
      rw [writeAll_of_accepts hc] at hwritten
      cases hwritten

theorem appendAll_of_accepts (h : j.poisoned = false)
    (hevents : ∀ e ∈ events, e.payload.length < payloadBound) :
    ∃ j', j.appendAll c events = (.ok (), j') ∧ j'.poisoned = false := by
  induction events generalizing j with
  | nil => exact ⟨j, rfl, h⟩
  | cons e rest ih =>
      obtain ⟨j', heq, hj'⟩ := append_of_accepts hc h (hevents e List.mem_cons_self)
      rw [appendAll, heq]
      exact ih hj' fun e' he' => hevents e' (List.mem_cons_of_mem _ he')

/-- While the disk accepts everything, events that fit a frame are committed. -/
theorem commit_of_accepts (h : j.poisoned = false)
    (hevents : ∀ e ∈ events, e.payload.length < payloadBound) :
    ∃ j', j.commit c events = (.ok (), j') := by
  obtain ⟨j', heq, hj'⟩ := appendAll_of_accepts hc h hevents
  rw [commit, heq]
  simp only [flush, if_neg (show ¬ j'.poisoned = true by rw [hj']; exact Bool.false_ne_true),
    unwritten_drain_of_accepts hc, ne_eq, not_true_eq_false, if_false, hc.syncError_eq]
  exact ⟨_, rfl⟩

end

end Journal

end Lodging.Log
