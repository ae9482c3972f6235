import Lodging.Proofs.EngineRuns
import Lodging.Proofs.Leftovers
import Lodging.Proofs.StandingBookings

/-!
# Engines on any log

An engine need not have begun on an empty log, nor be able to cut off every batch that fails. Still
it draws identifiers above all that is in memory or may be read back from its log, and what every
event and every snapshot keeps of a store is kept in memory and in the log, through closing and
opening as well.
-/

namespace Lodging

open Log (Bytes Conditions Journal)

namespace Engine

variable {e e' : Engine} {c : Conditions} {change : Change} {event : Event} {log : List Event}
variable {last : RecordId} {P Q : Store → Prop}

/-! ## What comes of a change -/

/-- The event that a change means to the engine, with the identifier that was drawn last for it. -/
inductive Proposes (e : Engine) (change : Change) : Event → RecordId → Prop
  | write {event : Event} (hplan : e.store.plan change = .ok (.write event)) :
      e.Proposes change event e.generator.last
  | create {event : RecordId → Event} {id : RecordId}
      (hplan : e.store.plan change = .ok (.create event)) (hid : e.generator.last < id) :
      e.Proposes change (event id) id

/-- What carrying out a change comes to: nothing reaches the log, or one event is written or could
not be written. But for email addresses, the store shows the event in the second case alone. -/
inductive Outcome (e : Engine) (c : Conditions) (change : Change) :
    Except LedgerError Reply × Engine → Prop
  | unwritten {answer : Except LedgerError Reply} {e' : Engine}
      (hjournal : e'.journal = e.journal) (hstore : e.store.SameButEmails e'.store)
      (hlast : e.generator.last ≤ e'.generator.last)
      (hanswer : ∀ reply, answer = .ok reply → e.store.plan change = .ok (.keep reply)) :
      e.Outcome c change (answer, e')
  | written {event : Event} {answer : Except LedgerError Reply} {e' : Engine}
      (hevent : e.Proposes change event e'.generator.last)
      (hcommit : e.journal.commit c [event] = (.ok (), e'.journal))
      (hstore : (e.store.apply event).SameButEmails e'.store)
      (hanswer : answer = e'.replyTo event) :
      e.Outcome c change (answer, e')
  | failed {event : Event} {error : IoError} {e' : Engine}
      (hevent : e.Proposes change event e'.generator.last)
      (hcommit : e.journal.commit c [event] = (.error error, e'.journal))
      (hstore : e.store.SameButEmails e'.store) :
      e.Outcome c change (.error (.transactionFailed (.io error)), e')

/-- A decision leaves the journal alone and, but for email addresses, the store. -/
structure Decides (e : Engine) (change : Change) (r : Except LedgerError Proposal × Engine) :
    Prop where
  journal_eq : r.2.journal = e.journal
  store : e.store.SameButEmails r.2.store
  last_le : e.generator.last ≤ r.2.generator.last
  keep : ∀ reply, r.1 = .ok (.keep reply) → e.store.plan change = .ok (.keep reply)
  write : ∀ event, r.1 = .ok (.write event) → e.Proposes change event r.2.generator.last

theorem Decides.of_error {error : LedgerError} (hjournal : e'.journal = e.journal)
    (hstore : e.store.SameButEmails e'.store) (hlast : e.generator.last ≤ e'.generator.last) :
    e.Decides change (.error error, e') where
  journal_eq := hjournal
  store := hstore
  last_le := hlast
  keep _ h := nomatch h
  write _ h := nomatch h

theorem Decides.of_write (hjournal : e'.journal = e.journal)
    (hstore : e.store.SameButEmails e'.store) (hlast : e.generator.last ≤ e'.generator.last)
    (hevent : e.Proposes change event e'.generator.last) :
    e.Decides change (.ok (.write event), e') where
  journal_eq := hjournal
  store := hstore
  last_le := hlast
  keep _ h := nomatch h
  write _ h := Proposal.write.inj (Except.ok.inj h) ▸ hevent

theorem decides_prepare {event : RecordId → Event}
    (hplan : e.store.plan change = .ok (.create event)) (m : Moment) :
    e.Decides change (e.prepare m event) := by
  unfold prepare Generator.next
  cases hdraw : e.generator.draw? m with
  | none => exact .of_error rfl (.refl _) (RecordId.le_refl _)
  | some id =>
      have hid := Generator.lt_of_draw? hdraw
      have hlast := RecordId.le_of_lt hid
      have hproposes := Proposes.create hplan hid
      simp only
      generalize event id = proposed at hproposes
      split
      · next user =>
          have hreserve := Store.SameButEmails.reserveEmail e.store user.email user.id
          rcases hresult : e.store.reserveEmail user.email user.id with ⟨_ | _, store⟩
          · rw [hresult] at hreserve
            exact .of_error rfl hreserve hlast
          · rw [hresult] at hreserve
            exact .of_write rfl hreserve hlast hproposes
      · exact .of_write rfl (.refl _) hlast hproposes

theorem decides_propose (e : Engine) (m : Moment) (change : Change) :
    e.Decides change (e.propose m change) := by
  unfold propose
  cases hplan : e.store.plan change with
  | error error => exact .of_error rfl (.refl _) (RecordId.le_refl _)
  | ok plan =>
      cases plan with
      | keep reply =>
          refine ⟨rfl, .refl _, RecordId.le_refl _, fun reply' h => ?_, fun _ h => nomatch h⟩
          rw [hplan, ← Proposal.keep.inj (Except.ok.inj h)]
      | write event => exact .of_write rfl (.refl _) (RecordId.le_refl _) (.write hplan)
      | create event => exact decides_prepare hplan m

theorem outcome (e : Engine) (c : Conditions) (m : Moment) (change : Change) :
    e.Outcome c change (e.perform c m change) := by
  have hdecides := e.decides_propose m change
  unfold perform
  rcases hresult : e.propose m change with ⟨error | reply | event, e'⟩
  · rw [hresult] at hdecides
    exact .unwritten hdecides.journal_eq hdecides.store hdecides.last_le fun _ h => nomatch h
  · rw [hresult] at hdecides
    refine .unwritten hdecides.journal_eq hdecides.store hdecides.last_le fun reply' h => ?_
    exact Except.ok.inj h ▸ hdecides.keep reply rfl
  · rw [hresult] at hdecides
    have hevent := hdecides.write event rfl
    simp only [commit, show e'.journal = e.journal from hdecides.journal_eq]
    rcases hcommit : e.journal.commit c [event] with ⟨error | done, journal⟩
    · refine .failed ?_ hcommit (hdecides.store.trans ?_)
      · exact hevent
      · -- What was reserved for the event is released.
        cases event with
        | userCreated user => exact Store.SameButEmails.releaseEmail _ _ _
        | _ => exact Store.SameButEmails.refl _
    · refine .written ?_ hcommit (hdecides.store.apply event) ?_
      · exact hevent
      · cases event with
        | _ => rfl

/-! ## Steady engines -/

/-- Nothing waits to be written, all that is in memory or may be read back was drawn before, and all
rooms in memory would be read back. -/
structure Steady (e : Engine) : Prop where
  idle : e.journal.Idle
  keyed : e.store.Keyed
  shows_le : ∀ {id : RecordId}, e.store.Shows id → id ≤ e.generator.last
  subject_le : ∀ {log : List Event}, e.journal.Leaves log →
    ∀ x ∈ log, x.subject ≤ e.generator.last
  rooms : ∀ {log : List Event}, e.journal.Leaves log →
    ∀ id ∈ e.store.rooms, id ∈ (Store.replay log).rooms

/-- The store has the property, and so has each that may be read back. -/
def Retains (e : Engine) (P : Store → Prop) : Prop :=
  P e.store ∧ ∀ log, e.journal.Leaves log → P (Store.replay log)

theorem steady_openOn (file : Bytes) : (openOn file).Steady where
  idle := .inr ⟨_, Journal.carries_recover file⟩
  keyed := Store.keyed_replay _
  shows_le hid := by
    obtain ⟨x, hx, rfl⟩ := Store.exists_subject_of_shows hid
    exact subject_le_generatorAfter hx
  subject_le hlog x hx := subject_le_generatorAfter (Journal.leaves_recover.mp hlog ▸ hx)
  rooms hlog id hid := Journal.leaves_recover.mp hlog ▸ hid

theorem openOn_nil : openOn [] = ⟨.empty, .openAt [] 0, .new, {}⟩ := by
  simp only [openOn, Log.Holds.nil.recover, Store.replay_nil]
  rfl

theorem steady_reopenOn (file : Bytes) (e : Engine) : (reopenOn file e).Steady :=
  have h := steady_openOn file
  ⟨h.idle, h.keyed, h.shows_le, h.subject_le, h.rooms⟩

/-- What a plan writes about was found in the store. -/
theorem shows_of_plan {s : Store} (h : s.plan change = .ok (.write event)) :
    s.Shows event.subject := by
  cases Store.means_of_plan h with
  | updateHotel update hid hhotel => exact .inl hhotel
  | updateUser update hid huser => exact .inr (.inl huser)
  | deleteUser hid huser => exact .inr (.inl huser)
  | cancelBooking hid hroom hslot hb howner hcanceled =>
      obtain ⟨hmem, rfl⟩ := RoomBook.mem_of_booking? hb
      rw [← Store.bookingsIn_eq hslot] at hmem
      exact .inr (.inr (.inr ⟨_, _, List.mem_map_of_mem hmem, rfl⟩))

/-- What a plan creates has the identifier that is drawn for it. -/
theorem subject_of_plan {s : Store} {event : RecordId → Event}
    (h : s.plan change = .ok (.create event)) (id : RecordId) : (event id).subject = id := by
  cases Store.means_of_plan h with
  | _ => rfl

namespace Proposes

theorem last_le (h : e.Proposes change event last) : e.generator.last ≤ last := by
  cases h with
  | write hplan => exact RecordId.le_refl _
  | create hplan hid => exact RecordId.le_of_lt hid

theorem subject_le (h : e.Proposes change event last) (he : e.Steady) : event.subject ≤ last := by
  cases h with
  | write hplan => exact he.shows_le (shows_of_plan hplan)
  | create hplan hid =>
      rw [subject_of_plan hplan]
      exact RecordId.le_refl _

/-- What is not about a document of the store is about a new one. -/
theorem lt_or_write (h : e.Proposes change event last) :
    e.generator.last < event.subject ∨ e.store.plan change = .ok (.write event) := by
  cases h with
  | write hplan => exact .inr hplan
  | create hplan hid =>
      rw [subject_of_plan hplan]
      exact .inl hid

end Proposes

namespace Steady

/-- Documents of identifiers that were not drawn yet are nowhere. -/
theorem retains_not_shows (h : e.Steady) {id : RecordId} (hid : e.generator.last < id) :
    e.Retains fun s => ¬ s.Shows id := by
  refine ⟨fun hshows => ?_, fun log hlog hshows => ?_⟩
  · exact Nat.lt_irrefl _ (Nat.lt_of_lt_of_le hid (h.shows_le hshows))
  · obtain ⟨x, hx, rfl⟩ := Store.exists_subject_of_shows hshows
    exact Nat.lt_irrefl _ (Nat.lt_of_lt_of_le hid (h.subject_le hlog x hx))

/-- No room is created twice. -/
theorem retains_fresh_room (h : e.Steady) {room : Room}
    (hevent : e.Proposes change (.roomCreated room) last) :
    e.Retains fun s => room.id ∉ s.rooms := by
  have hid : e.generator.last < room.id := by
    rcases hevent.lt_or_write with hid | hplan
    · exact hid
    · cases Store.means_of_plan hplan
  obtain ⟨hstore, hlogs⟩ := h.retains_not_shows hid
  exact ⟨fun hmem => hstore (.inr (.inr (.inl hmem))),
    fun log hlog hmem => hlogs log hlog (.inr (.inr (.inl hmem)))⟩

end Steady

/-! ## Steps -/

theorem Steady.of_unwritten (h : e.Steady) (hjournal : e'.journal = e.journal)
    (hstore : e.store.SameButEmails e'.store) (hlast : e.generator.last ≤ e'.generator.last) :
    e'.Steady where
  idle := hjournal ▸ h.idle
  keyed := hstore.keyed h.keyed
  shows_le hid := Nat.le_trans (h.shows_le (hstore.shows_iff.mp hid)) hlast
  subject_le hlog x hx := Nat.le_trans (h.subject_le (hjournal ▸ hlog) x hx) hlast
  rooms hlog id hid := h.rooms (hjournal ▸ hlog) id (hstore.rooms_eq ▸ hid)

theorem Steady.of_written (h : e.Steady) (hevent : e.Proposes change event e'.generator.last)
    (hcommit : e.journal.commit c [event] = (.ok (), e'.journal))
    (hstore : (e.store.apply event).SameButEmails e'.store) : e'.Steady := by
  obtain ⟨hidle, hleaves⟩ := h.idle.commit_ok hcommit
  have hlast := hevent.last_le
  have hsubject := hevent.subject_le h
  refine ⟨hidle, hstore.keyed (h.keyed.apply event), fun hid => ?_, fun hlog x hx => ?_,
    fun hlog id hid => ?_⟩
  · rcases Store.subject_of_shows_apply (hstore.shows_iff.mp hid) with hid | rfl
    · exact Nat.le_trans (h.shows_le hid) hlast
    · exact hsubject
  · obtain ⟨past, hpast, rfl⟩ := hleaves _ hlog
    exact drawn_append (fun x hx => Nat.le_trans (h.subject_le hpast x hx) hlast) hsubject x hx
  · obtain ⟨past, hpast, rfl⟩ := hleaves _ hlog
    rw [hstore.rooms_eq] at hid
    rw [Store.replay_append_singleton]
    exact Store.mem_rooms_apply.mpr ((Store.mem_rooms_apply.mp hid).imp_left (h.rooms hpast id))

/-- The event may be read back although it was not written whole, so it counts as drawn. -/
theorem Steady.of_failed {error : IoError} (h : e.Steady)
    (hevent : e.Proposes change event e'.generator.last)
    (hcommit : e.journal.commit c [event] = (.error error, e'.journal))
    (hstore : e.store.SameButEmails e'.store) : e'.Steady := by
  obtain ⟨hidle, hleaves⟩ := h.idle.commit_error hcommit
  have hlast := hevent.last_le
  refine ⟨hidle, hstore.keyed h.keyed, fun hid => ?_, fun hlog x hx => ?_, fun hlog id hid => ?_⟩
  · exact Nat.le_trans (h.shows_le (hstore.shows_iff.mp hid)) hlast
  · rcases hleaves _ hlog with hlog | ⟨-, past, hpast, rfl⟩
    · exact Nat.le_trans (h.subject_le hlog x hx) hlast
    · exact drawn_append (fun x hx => Nat.le_trans (h.subject_le hpast x hx) hlast)
        (hevent.subject_le h) x hx
  · rw [hstore.rooms_eq] at hid
    rcases hleaves _ hlog with hlog | ⟨-, past, hpast, rfl⟩
    · exact h.rooms hlog id hid
    · rw [Store.replay_append_singleton]
      exact Store.mem_rooms_apply.mpr (.inl (h.rooms hpast id hid))

theorem Steady.perform (h : e.Steady) (c : Conditions) (m : Moment) (change : Change) :
    (e.perform c m change).2.Steady := by
  have houtcome := e.outcome c m change
  generalize e.perform c m change = r at houtcome
  cases houtcome with
  | unwritten hjournal hstore hlast hanswer => exact h.of_unwritten hjournal hstore hlast
  | written hevent hcommit hstore hanswer => exact h.of_written hevent hcommit hstore
  | failed hevent hcommit hstore => exact h.of_failed hevent hcommit hstore

/-- A compaction changes the journal alone. -/
theorem compact_cases (e : Engine) (c : Conditions) :
    (e.compact c).2.store = e.store ∧ (e.compact c).2.generator = e.generator ∧
      (e.journal.compact c e.store.snapshot = (.ok (), (e.compact c).2.journal) ∨
        ∃ error,
          e.journal.compact c e.store.snapshot = (.error error, (e.compact c).2.journal)) := by
  unfold compact
  rcases e.journal.compact c e.store.snapshot with ⟨error | ⟨⟩, journal⟩
  · exact ⟨rfl, rfl, .inr ⟨error, rfl⟩⟩
  · exact ⟨rfl, rfl, .inl rfl⟩

/-- After a compaction, what would be read back is the snapshot, or what it was before. -/
theorem Steady.leaves_compact (h : e.Steady) (hlog : (e.compact c).2.journal.Leaves log) :
    log = e.store.snapshot ∨ e.journal.Leaves log := by
  obtain ⟨-, -, hcompact | ⟨error, hcompact⟩⟩ := e.compact_cases c
  · exact .inl ((h.idle.compact_ok hcompact).2 log hlog)
  · exact .inr ((h.idle.compact_error hcompact).2 log hlog)

theorem Steady.compact (h : e.Steady) (c : Conditions) : (e.compact c).2.Steady := by
  obtain ⟨hstore, hgenerator, hcompact⟩ := e.compact_cases c
  refine ⟨?_, hstore ▸ h.keyed, ?_, fun hlog x hx => ?_, fun hlog id hid => ?_⟩
  · rcases hcompact with hcompact | ⟨error, hcompact⟩
    · exact (h.idle.compact_ok hcompact).1
    · exact (h.idle.compact_error hcompact).1
  · rw [hstore, hgenerator]
    exact h.shows_le
  · rw [hgenerator]
    rcases h.leaves_compact hlog with rfl | hlog
    · exact h.shows_le (h.keyed.shows_of_mem_snapshot hx)
    · exact h.subject_le hlog x hx
  · rw [hstore] at hid
    rcases h.leaves_compact hlog with rfl | hlog
    · exact h.keyed.mem_rooms_replay_snapshot hid
    · exact h.rooms hlog id hid

theorem Steady.after (h : e.Steady) (action : Action) : (e.after action).Steady := by
  cases action with
  | change c m change => exact h.perform c m change
  | compact c => exact h.compact c
  | reopen c bytes => exact steady_reopenOn _ e

theorem Steady.run (h : e.Steady) (actions : List Action) : (e.run actions).Steady := by
  induction actions generalizing e with
  | nil => exact h
  | cons action rest ih => exact ih (h.after action)

/-! ## Closing and opening -/

/-- When the engine is closed and opened again, it finds its whole log. -/
def Uncut (e : Engine) : Action → Prop
  | .reopen c bytes => (e.close c).length ≤ bytes
  | _ => True

/-- Each action of a run stands as described to the engine that it meets. -/
def Along (P : Engine → Action → Prop) (e : Engine) : List Action → Prop
  | [] => True
  | action :: rest => P e action ∧ (e.after action).Along P rest

/-- Each time that the engine is closed and opened again, it finds its whole log. -/
def Whole (e : Engine) (actions : List Action) : Prop := e.Along Uncut actions

theorem Along.of_append {P : Engine → Action → Prop} {earlier later : List Action}
    (h : e.Along P (earlier ++ later)) : e.Along P earlier := by
  induction earlier generalizing e with
  | nil => trivial
  | cons action rest ih => exact ⟨h.1, ih h.2⟩

/-- An engine that finds its whole log has the store of a log that might be read back before, and
that log alone may be read back from then on. -/
theorem exists_log_of_reopen {bytes : Nat} (huncut : e.Uncut (.reopen c bytes)) :
    ∃ log, e.journal.Leaves log ∧ (e.after (.reopen c bytes)).store = Store.replay log ∧
      ∀ log', (e.after (.reopen c bytes)).journal.Leaves log' → log' = log := by
  refine ⟨(Log.recover (e.close c)).events, ⟨c, rfl⟩, ?_⟩
  change (reopenOn ((e.close c).take bytes) e).store = _ ∧
    ∀ log', (reopenOn ((e.close c).take bytes) e).journal.Leaves log' → _
  rw [List.take_of_length_le huncut]
  exact ⟨rfl, fun log' hlog' => Journal.leaves_recover.mp hlog'⟩

/-! ## What is retained -/

namespace Retains

theorem and (h : e.Retains P) (h' : e.Retains Q) : e.Retains fun s => P s ∧ Q s :=
  ⟨⟨h.1, h'.1⟩, fun log hlog => ⟨h.2 log hlog, h'.2 log hlog⟩⟩

theorem imp (h : e.Retains P) (hPQ : ∀ s, P s → Q s) : e.Retains Q :=
  ⟨hPQ _ h.1, fun log hlog => hPQ _ (h.2 log hlog)⟩

variable (hemails : ∀ s t : Store, s.SameButEmails t → P s → P t)
include hemails

theorem of_unwritten (h : e.Retains P) (hjournal : e'.journal = e.journal)
    (hstore : e.store.SameButEmails e'.store) : e'.Retains P :=
  ⟨hemails _ _ hstore h.1, fun log hlog => h.2 log (hjournal ▸ hlog)⟩

/-- What holds after the event holds once the event is written. -/
theorem of_written (h : e.Retains fun s => P (s.apply event)) (hidle : e.journal.Idle)
    (hcommit : e.journal.commit c [event] = (.ok (), e'.journal))
    (hstore : (e.store.apply event).SameButEmails e'.store) : e'.Retains P := by
  refine ⟨hemails _ _ hstore h.1, fun log hlog => ?_⟩
  obtain ⟨past, hpast, rfl⟩ := (hidle.commit_ok hcommit).2 log hlog
  rw [Store.replay_append_singleton]
  exact h.2 past hpast

/-- What holds goes on to hold when the event could not be written; but where the rollback failed
too, it must also hold after the event. -/
theorem of_failed {error : IoError} (h : e.Retains P)
    (h' : e'.journal.poisoned = true → e.Retains fun s => P (s.apply event))
    (hidle : e.journal.Idle)
    (hcommit : e.journal.commit c [event] = (.error error, e'.journal))
    (hstore : e.store.SameButEmails e'.store) : e'.Retains P := by
  refine ⟨hemails _ _ hstore h.1, fun log hlog => ?_⟩
  rcases (hidle.commit_error hcommit).2 log hlog with hlog | ⟨hpoisoned, past, hpast, rfl⟩
  · exact h.2 log hlog
  · rw [Store.replay_append_singleton]
    exact (h' hpoisoned).2 past hpast

omit hemails

/-- What every snapshot keeps is retained by a compaction. -/
theorem compact (h : e.Retains P) (he : e.Steady)
    (hsnapshot : ∀ s : Store, s.Keyed → P s → P (Store.replay s.snapshot)) (c : Conditions) :
    (e.compact c).2.Retains P := by
  refine ⟨(e.compact_cases c).1 ▸ h.1, fun log hlog => ?_⟩
  rcases he.leaves_compact hlog with rfl | hlog
  · exact hsnapshot _ he.keyed h.1
  · exact h.2 log hlog

/-- What is retained is there again when the engine is opened on its whole log. -/
theorem reopen (h : e.Retains P) {bytes : Nat} (huncut : e.Uncut (.reopen c bytes)) :
    (e.after (.reopen c bytes)).Retains P := by
  obtain ⟨log, hlog, hstore, hleaves⟩ := exists_log_of_reopen huncut
  refine ⟨hstore ▸ h.2 log hlog, fun log' hlog' => ?_⟩
  rw [hleaves log' hlog']
  exact h.2 log hlog

end Retains

end Engine

end Lodging
