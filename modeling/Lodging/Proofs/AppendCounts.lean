import Lodging.Proofs.Turns

/-!
# Counting appends

The journal counts the events that were appended since it was opened or compacted. A failed batch is
taken out of the count again, so what is counted are the events that were made durable and those
that wait for a flush. An engine lets nothing wait, and compacts when enough events were committed.
-/

namespace Lodging

open Log (Bytes Conditions Journal)

namespace Log.Journal

variable {j : Journal} {a : Account}

/-! ## Counters -/

/-- The account since the log was opened or compacted: a good compaction begins it anew. -/
def Account.noteSince (a : Account) : Answer → Account
  | .compact _ (.ok ()) => { kept := [] }
  | answer => a.note answer

def Account.noteAllSince (a : Account) (answers : List Answer) : Account :=
  answers.foldl Account.noteSince a

theorem Account.noteAllSince_append (a : Account) (earlier later : List Answer) :
    a.noteAllSince (earlier ++ later) = (a.noteAllSince earlier).noteAllSince later :=
  List.foldl_append

/-- The counters of the journal are those of the account, and nothing waits in a journal that takes
nothing any more. -/
structure Counts (j : Journal) (a : Account) : Prop where
  appends_eq : j.appends = a.kept.length + a.buffered.length
  pendingEvents_eq : j.pendingEvents = a.buffered.length
  buffered_eq : j.poisoned = true → a.buffered = []

theorem counters_cutBack (c : Conditions) (j : Journal) :
    (j.cutBack c).appends = j.appends ∧ (j.cutBack c).pendingEvents = j.pendingEvents := by
  unfold cutBack
  split
  · exact ⟨rfl, rfl⟩
  · exact ⟨rfl, rfl⟩
  · exact ⟨rfl, rfl⟩
  · split
    · exact ⟨rfl, rfl⟩
    · exact ⟨rfl, rfl⟩
  · split
    · exact ⟨rfl, rfl⟩
    · exact ⟨rfl, rfl⟩

theorem counts_openAt (file : Bytes) (validLength : Nat) :
    (Journal.openAt file validLength).Counts ⟨[], []⟩ :=
  ⟨rfl, rfl, fun _ => rfl⟩

/-- A compaction for which nothing waits begins the count anew or leaves the journal as it is. -/
theorem compact_of_nothing_pending (h : j.pendingEvents = 0) (c : Conditions)
    (events : List Event) :
    (∃ j', j.compact c events = (.ok (), j') ∧ j'.Counts ⟨[], []⟩) ∨
      ∃ error, j.compact c events = (.error error, j) := by
  cases hpoisoned : j.poisoned with
  | true => exact .inr ⟨_, compact_of_poisoned hpoisoned c events⟩
  | false =>
      rw [compact_eq_of_nothing_pending hpoisoned h]
      exact (replaceBy_cases c events j).imp_left fun ⟨log, _, heq⟩ =>
        ⟨_, heq, rfl, h, fun _ => rfl⟩

namespace Counts

/-- Without the batch that waits, the count is that of the durable events alone. -/
theorem discardPending (h : j.Counts a) (c : Conditions) :
    (j.discardPending c).Counts { a with buffered := [] } where
  appends_eq := by
    rw [Journal.discardPending, (counters_cutBack _ _).1]
    simp only [h.appends_eq, h.pendingEvents_eq, Nat.add_sub_cancel, List.length_nil, Nat.add_zero]
  pendingEvents_eq := by
    rw [Journal.discardPending, (counters_cutBack _ _).2]
    rfl
  buffered_eq _ := rfl

/-- Nothing can be discarded that was not counted. -/
theorem pendingEvents_le (h : j.Counts a) : j.pendingEvents ≤ j.appends := by
  rw [h.appends_eq, h.pendingEvents_eq]
  exact Nat.le_add_left _ _

theorem of_poisoned (h : j.Counts a) (hpoisoned : j.poisoned = true) :
    j.Counts { a with buffered := [] } := by
  have hbuffered := h.buffered_eq hpoisoned
  exact ⟨by rw [h.appends_eq, hbuffered], by rw [h.pendingEvents_eq, hbuffered], fun _ => rfl⟩

/-- Nothing is counted when bytes are moved. -/
theorem of_output (h : j.Counts a) (output : Output) : { j with output }.Counts a :=
  ⟨h.appends_eq, h.pendingEvents_eq, h.buffered_eq⟩

theorem append (h : j.Counts a) (c : Conditions) (e : Event) :
    (j.append c e).2.Counts (a.note (.append e (j.append c e).1)) := by
  cases hpoisoned : j.poisoned with
  | true =>
      rw [show j.append c e = (.error .logUnusable, j) from if_pos hpoisoned]
      exact h.of_poisoned hpoisoned
  | false =>
      have houtcome := append_outcome hpoisoned c e
      generalize j.append c e = r at houtcome
      cases houtcome with
      | taken hfits htakes =>
          refine ⟨?_, ?_, fun htrue => absurd (hpoisoned.symm.trans htrue) nofun⟩
          · simp only [Account.note, h.appends_eq, List.length_append, List.length_singleton,
              Nat.add_assoc]
          · simp only [Account.note, h.pendingEvents_eq, List.length_append, List.length_singleton]
      | tooLarge => exact h.discardPending c
      | @cut output hfits htakes => exact (h.of_output output).discardPending c

theorem flush (h : j.Counts a) (c : Conditions) :
    (j.flush c).2.Counts (a.note (.flush (j.flush c).1)) := by
  cases hpoisoned : j.poisoned with
  | true =>
      rw [show j.flush c = (.error .logUnusable, j) from if_pos hpoisoned]
      exact h.of_poisoned hpoisoned
  | false =>
      have houtcome := flush_outcome hpoisoned c
      generalize j.flush c = r at houtcome
      cases houtcome with
      | durable hunwritten =>
          refine ⟨?_, rfl, fun _ => rfl⟩
          simp only [Account.note, h.appends_eq, List.length_append, List.length_nil, Nat.add_zero]
      | cut => exact (h.of_output (j.output.drain c)).discardPending c

theorem settle (h : j.Counts a) (c : Conditions) :
    (j.settle c).2.Counts (a.note (.flush (j.settle c).1)) := by
  unfold Journal.settle
  split
  · next hnone =>
      refine ⟨?_, hnone, fun _ => rfl⟩
      simp only [Account.note, h.appends_eq, List.length_append, List.length_nil, Nat.add_zero]
  · exact h.flush c

/-- One operation keeps the counters in step with the account. -/
theorem after (h : j.Counts a) (c : Conditions) (operation : Operation) :
    (j.after c operation).Counts (a.noteAllSince (j.answersTo c operation)) := by
  cases operation with
  | append event => exact h.append c event
  | flush => exact h.flush c
  | compact events =>
      have hsince : a.noteAllSince (if j.pendingEvents = 0 then [] else [.flush (j.flush c).1]) =
          a.note (.flush (j.settle c).1) := by
        rw [← noteAll_settle h.pendingEvents_eq]
        split
        · rfl
        · rfl
      have hsettled := h.settle c
      rw [answersTo, Account.noteAllSince_append, hsince]
      cases hpoisoned : j.poisoned with
      | true =>
          -- What waits was discarded when the journal was poisoned, so nothing is flushed.
          have hpending : j.pendingEvents = 0 := by
            rw [h.pendingEvents_eq, h.buffered_eq hpoisoned, List.length_nil]
          rw [Journal.settle, if_pos hpending] at hsettled ⊢
          simp only [Journal.after, compact_of_poisoned hpoisoned]
          exact hsettled
      | false =>
          have hcompact := compact_eq_of_trusted c events j hpoisoned
          rcases hsettle : j.settle c with ⟨error | ⟨⟩, j'⟩
          · rw [hsettle] at hcompact hsettled
            simp only [Journal.after, hcompact]
            exact hsettled
          · rw [hsettle] at hcompact hsettled
            simp only [Journal.after, hcompact]
            rcases replaceBy_cases c events j' with ⟨log, -, heq⟩ | ⟨error, heq⟩
            · rw [heq]
              exact ⟨rfl, hsettled.pendingEvents_eq, fun _ => rfl⟩
            · rw [heq]
              exact hsettled

/-- The counters stay in step with the account of all answers. -/
theorem run (h : j.Counts a) (steps : List (Conditions × Operation)) :
    (j.run steps).Counts (a.noteAllSince (j.answers steps)) := by
  induction steps generalizing j a with
  | nil => exact h
  | cons step rest ih =>
      rw [answers, Account.noteAllSince_append]
      exact ih (h.after step.1 step.2)

/-- Appends add all their events to what waits, or nothing waits any more. -/
theorem appendAll_cases (h : j.Counts a) (c : Conditions) (events : List Event) :
    (∃ j', j.appendAll c events = (.ok (), j') ∧
        j'.Counts { a with buffered := a.buffered ++ events }) ∨
      ∃ error j', j.appendAll c events = (.error error, j') ∧
        j'.Counts { a with buffered := [] } := by
  induction events generalizing j a with
  | nil => exact .inl ⟨j, rfl, by rwa [List.append_nil]⟩
  | cons e rest ih =>
      have happend := h.append c e
      rw [List.append_cons, appendAll]
      rcases heq : j.append c e with ⟨error | ⟨⟩, j'⟩
      · rw [heq] at happend
        exact .inr ⟨error, j', rfl, happend⟩
      · rw [heq] at happend
        exact ih happend

/-- A commit adds its events to what is durable, or discards them. -/
theorem commit_cases {kept : List Event} (h : j.Counts ⟨kept, []⟩) (c : Conditions)
    (events : List Event) :
    (∃ j', j.commit c events = (.ok (), j') ∧ j'.Counts ⟨kept ++ events, []⟩) ∨
      ∃ error j', j.commit c events = (.error error, j') ∧ j'.Counts ⟨kept, []⟩ := by
  unfold Journal.commit
  rcases h.appendAll_cases c events with ⟨j', heq, hj'⟩ | ⟨error, j', heq, hj'⟩
  · have hflush := hj'.flush c
    rw [heq]
    rcases hresult : j'.flush c with ⟨error | ⟨⟩, j''⟩
    · rw [hresult] at hflush
      exact .inr ⟨error, j'', hresult, hflush⟩
    · rw [hresult] at hflush
      exact .inl ⟨j'', hresult, hflush⟩
  · rw [heq]
    exact .inr ⟨error, j', rfl, hj'⟩

end Counts

end Log.Journal

namespace Engine

variable {e : Engine} {past : List Event}

/-! ## Committed events -/

/-- The events committed since the log was opened or compacted, once a turn is over. -/
def committedAfter (e : Engine) (past : List Event) : Turn → List Event
  | .commit c events =>
    match (e.commit c events).1 with
    | .ok () => past ++ events
    | .error _ => past
  | .compact c =>
    match (e.compact c).1 with
    | .ok () => []
    | .error _ => past
  | .reopen _ => []
  | _ => past

/-- The events committed since the log was opened or compacted, once several turns are over. -/
def committed (e : Engine) (past : List Event) : List Turn → List Event
  | [] => past
  | t :: rest => (e.turn t).committed (e.committedAfter past t) rest

theorem counts_turn (h : e.journal.Counts ⟨past, []⟩) (t : Turn) :
    (e.turn t).journal.Counts ⟨e.committedAfter past t, []⟩ := by
  cases t with
  | decide m change =>
      exact (e.decides_propose m change).journal_eq ▸ h
  | commit c events =>
      simp only [turn, committedAfter, commit]
      rcases h.commit_cases c events with ⟨j', heq, hj'⟩ | ⟨error, j', heq, hj'⟩
      · rw [heq]
        exact hj'
      · rw [heq]
        exact hj'
  | conclude change event result =>
      cases result with
      | error error => exact h
      | ok done => exact h
  | compact c =>
      simp only [turn, committedAfter, compact]
      rcases Journal.compact_of_nothing_pending h.pendingEvents_eq c e.store.snapshot with
        ⟨j', heq, hj'⟩ | ⟨error, heq⟩
      · rw [heq]
        exact hj'
      · rw [heq]
        exact h
  | list strategy => exact h
  | reopen file => exact Journal.counts_openAt file _

theorem counts_turnAll (h : e.journal.Counts ⟨past, []⟩) (turns : List Turn) :
    (e.turnAll turns).journal.Counts ⟨e.committed past turns, []⟩ := by
  induction turns generalizing e past with
  | nil => exact h
  | cons t rest ih => exact ih (counts_turn h t)

/-! ## Due compactions -/

theorem appends_compact_of_ok (h : e.journal.Counts ⟨past, []⟩) {c : Conditions}
    (hok : (e.compact c).1 = .ok ()) : (e.compact c).2.journal.appends = 0 := by
  have hcounts := counts_turn h (.compact c)
  simp only [turn, committedAfter, hok] at hcounts
  exact hcounts.appends_eq

theorem compact_of_error (h : e.journal.pendingEvents = 0) {c : Conditions} {error : LedgerError}
    (herror : (e.compact c).1 = .error error) : (e.compact c).2 = e := by
  unfold compact at herror ⊢
  rcases Journal.compact_of_nothing_pending h c e.store.snapshot with ⟨j', heq, -⟩ | ⟨cause, heq⟩
  · rw [heq] at herror
    cases herror
  · rw [heq]

/-- Whatever an open log is asked and however the disk behaves, the journal counts the events that
were made durable or wait for a flush since the log was opened or last compacted, and takes back no
more than it has counted. So an engine, whatever turns it took, counts the events committed since;
when it looks whether a compaction is due, one is tried exactly if these are as many as the
threshold, and at least one, and reported as done exactly if it went well. The count begins anew
then; a compaction that fails leaves the engine as it was, so the next look tries again. Turns are
all that calls are made of. -/
theorem appends_counted_until_compacted :
    (∀ file validLength steps,
      let opened := Journal.openAt file validLength
      let j := opened.run steps
      let a := Journal.Account.noteAllSince ⟨[], []⟩ (opened.answers steps)
      j.appends = a.kept.length + a.buffered.length ∧
        j.pendingEvents = a.buffered.length ∧ j.pendingEvents ≤ j.appends) ∧
    (∀ file turns,
      let e := (openOn file).turnAll turns
      let n := ((openOn file).committed [] turns).length
      e.journal.appends = n ∧ ∀ c threshold,
        let r := e.compactIfDue c threshold
        (r.1 = .notDue ↔ n < max threshold 1) ∧
          (r.1 = .compacted ↔ max threshold 1 ≤ n ∧ (e.compact c).1 = .ok ()) ∧
          (∀ error, r.1 = .failed error ↔ max threshold 1 ≤ n ∧ (e.compact c).1 = .error error) ∧
          (r.1 = .notDue → r.2 = e) ∧
          (r.1 = .compacted → r.2 = (e.compact c).2 ∧ r.2.journal.appends = 0) ∧
          ∀ error, r.1 = .failed error →
            r.2 = e ∧ ∀ c', (r.2.compactIfDue c' threshold).1 ≠ .notDue) ∧
    ∀ e : Engine, (∀ actions, e.Leads (e.run actions)) ∧ (∀ call, e.Leads (e.afterCall call)) ∧
      (∀ today filter page, e.Leads (e.listRooms today filter page).2) ∧
      ∀ c m changes later, e.Leads (e.performAll c m changes later).2 := by
  refine ⟨fun file validLength steps => ?_, fun file turns => ?_, fun e => ⟨e.leads_run,
    e.leads_afterCall, e.leads_listRooms, e.leads_performAll⟩⟩
  · intro opened j a
    have hcounts : j.Counts a := (Journal.counts_openAt file validLength).run steps
    exact ⟨hcounts.appends_eq, hcounts.pendingEvents_eq, hcounts.pendingEvents_le⟩
  · intro e n
    have hcounts : e.journal.Counts ⟨(openOn file).committed [] turns, []⟩ :=
      counts_turnAll (Journal.counts_openAt file _) turns
    have hn : e.journal.appends = n := hcounts.appends_eq
    refine ⟨hn, fun c threshold => ?_⟩
    intro r
    rw [← hn]
    refine ⟨e.notDue_iff c threshold, e.compacted_iff c threshold, e.failed_iff c threshold,
      fun h => snd_compactIfDue_of_lt ((e.notDue_iff c threshold).mp h) c, fun h => ?_,
      fun error h => ?_⟩
    · obtain ⟨hdue, hok⟩ := (e.compacted_iff c threshold).mp h
      have hsnd : r.2 = (e.compact c).2 := snd_compactIfDue_of_le hdue c
      exact ⟨hsnd, hsnd ▸ appends_compact_of_ok hcounts hok⟩
    · obtain ⟨hdue, herror⟩ := (e.failed_iff c threshold error).mp h
      have hsame : r.2 = e :=
        (snd_compactIfDue_of_le hdue c).trans (compact_of_error hcounts.pendingEvents_eq herror)
      refine ⟨hsame, fun c' hnotDue => ?_⟩
      rw [hsame, notDue_iff] at hnotDue
      exact Nat.not_lt_of_le hdue hnotDue

end Engine

end Lodging
