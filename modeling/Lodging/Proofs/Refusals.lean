import Lodging.Proofs.EmailAddresses

/-!
# Refused calls

A call that is answered with an error has changed nothing that can be seen: not the documents and
their indexes, nor the log and the count of its appends. Only identifiers that were drawn meanwhile
stay drawn, and where a failed batch could not be cut off, the log takes nothing any more.
-/

namespace Lodging

open Log (Conditions Journal)

namespace Engine

variable {e e' : Engine} {c : Conditions} {m : Moment} {change : Change} {event : Event}
variable {last : RecordId} {error : LedgerError}

/-! ## Changes -/

theorem replyTo_hotel {hotel : Hotel} {id : RecordId} (h : e.store.hotels[id]? = some hotel) :
    (orNotFound id (e.store.hotel? id)).map Reply.hotel = .ok (.hotel hotel) := by
  rw [Store.hotel?, h]
  rfl

theorem replyTo_user {user : User} {id : RecordId} (h : e.store.users[id]? = some user) :
    (orNotFound id (e.store.user? id)).map Reply.user = .ok (.user user) := by
  rw [Store.user?, h]
  rfl

theorem exists_reply_hotel {id : RecordId} (h : id ∈ e.store.hotels) :
    ∃ reply, (orNotFound id (e.store.hotel? id)).map Reply.hotel = .ok reply := by
  obtain ⟨hotel, hhotel⟩ := mem_iff_lookup.mp h
  exact ⟨_, replyTo_hotel hhotel⟩

theorem exists_reply_user {id : RecordId} (h : id ∈ e.store.users) :
    ∃ reply, (orNotFound id (e.store.user? id)).map Reply.user = .ok reply := by
  obtain ⟨user, huser⟩ := mem_iff_lookup.mp h
  exact ⟨_, replyTo_user huser⟩

/-- What was written is there afterwards, so it is answered with. -/
theorem Proposes.exists_reply (h : e.Proposes change event last)
    (hstore : (e.store.apply event).SameButEmails e'.store) :
    ∃ reply, e'.replyTo event = .ok reply := by
  obtain ⟨emails, hstore⟩ := hstore
  have hhotels : e'.store.hotels = (e.store.apply event).hotels := by rw [hstore]
  have husers : e'.store.users = (e.store.apply event).users := by rw [hstore]
  cases h with
  | write hplan =>
      cases Store.means_of_plan hplan with
      | updateHotel update hid hhotel =>
          exact exists_reply_hotel (hhotels ▸ Store.mem_hotels_apply.mpr (.inl hhotel))
      | updateUser update hid huser =>
          exact exists_reply_user (husers ▸ Store.mem_users_apply huser nofun)
      | deleteUser hid huser => exact ⟨_, rfl⟩
      | cancelBooking hid hroom hslot hb howner hcanceled => exact ⟨_, rfl⟩
  | create hplan hid =>
      cases Store.means_of_plan hplan with
      | createHotel name location rating =>
          exact exists_reply_hotel (hhotels ▸ Store.mem_hotels_apply.mpr (.inr ⟨_, _, _, rfl⟩))
      | createUser firstName lastName email isAdmin => exact ⟨_, rfl⟩
      | createRoom kind basePrice price hid' hhotel => exact ⟨_, rfl⟩
      | createBooking user guests hid' hlasts hslot hfree => exact ⟨_, rfl⟩

/-- A change that is refused was not written: the store is as before, but for email addresses, and
the journal is too, unless it was the commit that failed. -/
theorem unwritten_of_perform_error (h : (e.perform c m change).1 = .error error) :
    let e' := (e.perform c m change).2
    e.store.SameButEmails e'.store ∧
      (e'.journal = e.journal ∨
        ∃ event error, e.journal.commit c [event] = (.error error, e'.journal)) := by
  have houtcome := e.outcome c m change
  generalize e.perform c m change = r at h houtcome
  cases houtcome with
  | unwritten hjournal hstore hlast hanswer => exact ⟨hstore, .inl hjournal⟩
  | written hevent hcommit hstore hanswer =>
      obtain ⟨reply, hreply⟩ := hevent.exists_reply hstore
      cases h.symm.trans (hanswer.trans hreply)
  | failed hevent hcommit hstore => exact ⟨hstore, .inr ⟨_, _, hcommit⟩⟩

/-- What a refused call makes of an engine: the store is the same again and, if the failed batch
could be cut off, the journal too. That is so while nothing gets in the way of a rollback. -/
structure Restores (c : Conditions) (e e' : Engine) : Prop where
  store_eq : e'.store = e.store
  journal_eq : e'.journal.poisoned = e.journal.poisoned → e'.journal = e.journal
  poisoned_eq : c.rollbackFault = none → e'.journal.poisoned = e.journal.poisoned

theorem Restores.of_eq (hstore : e'.store = e.store) (hjournal : e'.journal = e.journal) :
    Restores c e e' :=
  ⟨hstore, fun _ => hjournal, fun _ => congrArg Journal.poisoned hjournal⟩

theorem Restores.of_commit_error {events : List Event} {cause : IoError} (h : e.journal.Idle)
    (hcommit : e.journal.commit c events = (.error cause, e'.journal))
    (hstore : e'.store = e.store) : Restores c e e' where
  store_eq := hstore
  journal_eq hpoisoned := h.eq_of_commit_error hcommit fun htrusted => hpoisoned.trans htrusted
  poisoned_eq hrollback := by
    rcases h with hpoisoned | ⟨kept, hcarries⟩
    · rw [Journal.commit_of_poisoned hpoisoned] at hcommit
      rw [(Prod.mk.inj hcommit).2]
    · rcases hcarries.commit_cases c events with ⟨j, heq, -⟩ | ⟨error, j, heq, hrecovers⟩
      · cases hcommit.symm.trans heq
      · obtain ⟨-, rfl⟩ := Prod.mk.inj (hcommit.symm.trans heq)
        rw [(hrecovers.carries hrollback).trusted, hcarries.trusted]

/-- In a run that began on an empty log, the email addresses agree with the users before and after
the change, and so they are restored as well. -/
theorem restores_of_perform_error {actions : List Action}
    (h : (((openOn []).run actions).perform c m change).1 = .error error) :
    Restores c ((openOn []).run actions) (((openOn []).run actions).perform c m change).2 := by
  have hpeople := (sound_run actions).coherent.people
  have hpeople' := (sound_after_run actions (.change c m change)).coherent.people
  obtain ⟨hstore, hjournal | ⟨event, cause, hcommit⟩⟩ := unwritten_of_perform_error h
  · exact .of_eq (hstore.eq hpeople hpeople') hjournal
  · exact .of_commit_error ((steady_openOn []).run actions).idle hcommit
      (hstore.eq hpeople hpeople')

/-- An address was free when the event of its new user could not be written. -/
theorem Steady.free_of_failed (h : e.Steady) (hpeople : e.store.PeopleAgree)
    {firstName lastName email : String} {isAdmin : Bool} {cause : IoError}
    (hfailed : (e.perform c m (.createUser firstName lastName email isAdmin)).1 =
      .error (.transactionFailed (.io cause))) : e.store.userByEmail? email = none := by
  have hanswer := h.answersNewUser hpeople c m firstName lastName email isAdmin
  rw [hfailed] at hanswer
  cases hanswer with
  | failed hfits hdraw hfree hcommit => exact hfree

/-! ## Compactions -/

theorem restores_of_compact_error (h : e.journal.Idle)
    (hrefused : (e.compact c).1 = .error error) : Restores c e (e.compact c).2 := by
  unfold compact at hrefused ⊢
  rcases hcompact : e.journal.compact c e.store.snapshot with ⟨error | ⟨⟩, journal⟩
  · exact .of_eq rfl (h.eq_of_compact_error hcompact)
  · rw [hcompact] at hrefused
    cases hrefused

theorem restores_of_compactIfDue_failed (h : e.journal.Idle) {threshold : Nat}
    (hfailed : (e.compactIfDue c threshold).1 = .failed error) :
    Restores c e (e.compactIfDue c threshold).2 := by
  obtain ⟨hdue, hrefused⟩ := (e.failed_iff c threshold error).mp hfailed
  rw [snd_compactIfDue_of_le hdue]
  exact restores_of_compact_error h hrefused

/-! ## Calls -/

/-- A call that gives the engine back. Calls that only look something up do not. -/
inductive Call
  | change (c : Conditions) (m : Moment) (change : Change)
  | compact (c : Conditions)
  | compactIfDue (c : Conditions) (threshold : Nat)
  | listRoomsAfter (today : Day) (filter : List RoomStatus) (page : CursorPage)

/-- How the disk behaves meanwhile. -/
def Call.conditions : Call → Conditions
  | .change c _ _ => c
  | .compact c => c
  | .compactIfDue c _ => c
  | .listRoomsAfter _ _ _ => .good

/-- What becomes of the engine. -/
def afterCall (e : Engine) : Call → Engine
  | .change c m change => (e.perform c m change).2
  | .compact c => (e.compact c).2
  | .compactIfDue c threshold => (e.compactIfDue c threshold).2
  | .listRoomsAfter today filter page => (e.listRoomsAfter today filter page).2

/-- The call is answered with the error. -/
def Refuses (e : Engine) (error : LedgerError) : Call → Prop
  | .change c m change => (e.perform c m change).1 = .error error
  | .compact c => (e.compact c).1 = .error error
  | .compactIfDue c threshold => (e.compactIfDue c threshold).1 = .failed error
  | .listRoomsAfter today filter page => (e.listRoomsAfter today filter page).1 = .error error

theorem restores_of_refuses {actions : List Action} {call : Call}
    (h : ((openOn []).run actions).Refuses error call) :
    Restores call.conditions ((openOn []).run actions)
      (((openOn []).run actions).afterCall call) := by
  have hidle := ((steady_openOn []).run actions).idle
  cases call with
  | change c m change => exact restores_of_perform_error h
  | compact c => exact restores_of_compact_error hidle h
  | compactIfDue c threshold => exact restores_of_compactIfDue_failed hidle h
  | listRoomsAfter today filter page =>
      simp only [Refuses, afterCall, listRoomsAfter] at h ⊢
      split at h
      · exact .of_eq rfl rfl
      · cases h

/-- Whatever an engine that began on an empty log was asked before, whatever the disk does, and
wherever its log was cut, a call that is answered with an error leaves the whole store as it was,
and also the whole journal, with its file and the count of its appends, if the failed batch could be
cut off, as it always can while nothing gets in the way of a rollback. So the email address of a
user that could not be created is available to the next one. -/
theorem refused_unchanged (actions : List Action) (call : Call) {error : LedgerError}
    (hrefused : ((openOn []).run actions).Refuses error call) :
    let e := (openOn []).run actions
    let e' := e.afterCall call
    e'.store = e.store ∧
      (e'.journal.poisoned = e.journal.poisoned → e'.journal = e.journal) ∧
      (call.conditions.rollbackFault = none → e'.journal.poisoned = e.journal.poisoned) ∧
      ∀ c m firstName lastName email isAdmin,
        call = .change c m (.createUser firstName lastName email isAdmin) →
        (e.userByEmail email = none ∨ ∃ cause, error = .transactionFailed (.io cause)) →
        e'.journal.poisoned = false → e'.IsAvailable email := by
  intro e e'
  obtain ⟨hstore, hjournal, hpoisoned⟩ := restores_of_refuses hrefused
  refine ⟨hstore, hjournal, hpoisoned, ?_⟩
  rintro c m firstName lastName email isAdmin rfl hfree htrusted
  have hsteady : e.Steady := (steady_openOn []).run actions
  have hpeople : e.store.PeopleAgree := (sound_run actions).coherent.people
  refine isAvailable_of_free ?_ htrusted
  rw [hstore]
  rcases hfree with hfree | ⟨cause, rfl⟩
  · exact (userByEmail_eq_none_iff hpeople).mp hfree
  · exact hsteady.free_of_failed hpeople hrefused

/-- The disk fills up while the event of a new user is written. -/
theorem refused_unchanged_of_full_disk :
    let e := (openOn []).run [.change .good ⟨5, 0⟩ (.createHotel "Inn" "Hill" 3)]
    let call := Call.change { capacity := some 100 } ⟨6, 0⟩ (.createUser "Ada" "L" "ada@host" false)
    let e' := e.afterCall call
    e.Refuses (.transactionFailed (.io (.system .fileTooLarge))) call ∧
      e'.store = e.store ∧ e'.journal = e.journal ∧ e'.IsAvailable "ada@host" := by
  intro e call e'
  have hrefused : e.Refuses (.transactionFailed (.io (.system .fileTooLarge))) call := by
    simp only [Refuses, call, e, openOn_nil]
    decide +kernel
  have htrusted : e.journal.poisoned = false := by
    simp only [e, openOn_nil]
    decide +kernel
  obtain ⟨hstore, hjournal, hpoisoned, hemail⟩ := refused_unchanged _ call hrefused
  have hpoisoned := hpoisoned rfl
  exact ⟨hrefused, hstore, hjournal hpoisoned,
    hemail _ _ _ _ _ _ rfl (.inr ⟨_, rfl⟩) (hpoisoned.trans htrusted)⟩

end Engine

end Lodging
