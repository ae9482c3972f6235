import Lodging.Proofs.FittingEvents
import Lodging.Proofs.Listings

/-!
# Email addresses

An email address, in whatever case it is written, leads to the one user who has it. So a new user is
refused for the sake of the address exactly if another user has it, and when that user is deleted
the address can be given to a new one.
-/

namespace Lodging

open Std (ExtTreeMap)
open Log (Conditions Journal)

/-! ## Holders of addresses -/

namespace Store

variable {s t : Store} {user other : User} {email : String} {id : RecordId}

theorem SameButEmails.eq (h : s.SameButEmails t) (hs : s.PeopleAgree) (ht : t.PeopleAgree) :
    t = s := by
  obtain ⟨emails, rfl⟩ := h
  have hemails : emails = s.emails :=
    ExtTreeMap.ext_getElem? fun email => Option.ext fun id =>
      ht.holder_iff.trans hs.holder_iff.symm
  rw [hemails]

namespace PeopleAgree

theorem mem_allUsers_iff (h : s.PeopleAgree) : user ∈ s.allUsers ↔ s.users[user.id]? = some user := by
  rw [allUsers, mem_values]
  constructor
  · rintro ⟨id, huser⟩
    rwa [h.id_eq huser]
  · exact fun huser => ⟨user.id, huser⟩

theorem emails_eq_some_iff (h : s.PeopleAgree) :
    s.emails[email]? = some id ↔
      ∃ user ∈ s.allUsers, user.id = id ∧ Text.lowercase user.email = email := by
  rw [h.holder_iff]
  constructor
  · rintro ⟨user, huser, hemail⟩
    obtain rfl := h.id_eq huser
    exact ⟨user, h.mem_allUsers_iff.mpr huser, rfl, hemail⟩
  · rintro ⟨user, huser, rfl, hemail⟩
    exact ⟨user, h.mem_allUsers_iff.mp huser, hemail⟩

/-- No two users have the same address. -/
theorem eq_of_lowercase_eq (h : s.PeopleAgree) (huser : user ∈ s.allUsers)
    (hother : other ∈ s.allUsers) (hemail : Text.lowercase user.email = Text.lowercase other.email) :
    user = other := by
  have hheld := h.emails_eq_some_iff.mpr ⟨user, huser, rfl, hemail⟩
  have hid := Option.some.inj (hheld.symm.trans (h.emails_eq_some_iff.mpr ⟨other, hother, rfl, rfl⟩))
  have huser := h.mem_allUsers_iff.mp huser
  rw [hid, h.mem_allUsers_iff.mp hother] at huser
  exact (Option.some.inj huser).symm

theorem userByEmail?_eq_none_iff (h : s.PeopleAgree) :
    s.userByEmail? email = none ↔
      ∀ user ∈ s.allUsers, Text.lowercase user.email ≠ Text.lowercase email := by
  constructor
  · intro hnone user huser hemail
    cases hnone.symm.trans (h.emails_eq_some_iff.mpr ⟨user, huser, rfl, hemail⟩)
  · intro hfree
    refine Option.eq_none_iff_forall_ne_some.mpr fun id hid => ?_
    obtain ⟨user, huser, -, hemail⟩ := h.emails_eq_some_iff.mp hid
    exact hfree user huser hemail

/-- When a user is deleted, nobody has the address any more. -/
theorem ne_of_mem_allUsers_userDeleted (h : s.PeopleAgree) (huser : user ∈ s.allUsers)
    (ht : t.PeopleAgree) (hst : (s.apply (.userDeleted user.id)).SameButEmails t)
    (hother : other ∈ t.allUsers) : Text.lowercase other.email ≠ Text.lowercase user.email := by
  intro hemail
  obtain ⟨emails, rfl⟩ := hst
  have hother := ht.mem_allUsers_iff.mp hother
  rw [users_apply_userDeleted] at hother
  split at hother
  · cases hother
  · next hid =>
      have hother := h.mem_allUsers_iff.mpr hother
      exact hid (congrArg User.id (h.eq_of_lowercase_eq hother huser hemail)).symm

end PeopleAgree

end Store

namespace Engine

variable {e : Engine} {c : Conditions} {m : Moment} {change : Change} {user : User}
variable {firstName lastName email : String} {isAdmin : Bool} {id : RecordId}

theorem userByEmail_eq_some_iff (h : e.store.PeopleAgree) :
    e.userByEmail email = some user ↔
      user ∈ e.store.allUsers ∧ Text.lowercase user.email = Text.lowercase email := by
  simp only [userByEmail, Option.bind_eq_some_iff]
  constructor
  · rintro ⟨id, hheld, huser⟩
    obtain ⟨holder, hholder, rfl, hemail⟩ := h.emails_eq_some_iff.mp hheld
    obtain rfl := Option.some.inj ((h.mem_allUsers_iff.mp hholder).symm.trans huser)
    exact ⟨hholder, hemail⟩
  · rintro ⟨huser, hemail⟩
    exact ⟨user.id, h.emails_eq_some_iff.mpr ⟨user, huser, rfl, hemail⟩,
      h.mem_allUsers_iff.mp huser⟩

theorem userByEmail_eq_none_iff (h : e.store.PeopleAgree) :
    e.userByEmail email = none ↔ e.store.userByEmail? email = none := by
  rw [h.userByEmail?_eq_none_iff, Option.eq_none_iff_forall_ne_some]
  simp only [ne_eq, userByEmail_eq_some_iff h, not_and]

/-! ## New users -/

/-- The texts of a new user keep their limits. -/
structure UserFits (firstName lastName email : String) : Prop where
  firstName : fits Limits.nameBytes firstName = true
  lastName : fits Limits.nameBytes lastName = true
  email : fits Limits.emailBytes email = true

/-- A new user is not refused at once exactly if the texts keep their limits. -/
theorem plan_createUser_eq_ok_iff {s : Store} {p : Plan} :
    s.plan (.createUser firstName lastName email isAdmin) = .ok p ↔
      UserFits firstName lastName email ∧
        p = .create fun id => .userCreated ⟨id, firstName, lastName, email, isAdmin⟩ := by
  simp only [Store.plan, Store.planCreateUser, bind_eq_ok_iff, Limit.guard_eq_ok_iff,
    Bool.and_eq_true]
  constructor
  · rintro ⟨-, ⟨hfirst, hlast⟩, -, hemail, h⟩
    exact ⟨⟨hfirst, hlast, hemail⟩, (Except.ok.inj h).symm⟩
  · rintro ⟨h, rfl⟩
    exact ⟨(), ⟨h.firstName, h.lastName⟩, (), h.email, rfl⟩

theorem exists_limit_of_plan_createUser {s : Store} {error : LedgerError}
    (h : s.plan (.createUser firstName lastName email isAdmin) = .error error) :
    ∃ limit, error = .limitExceeded limit := by
  simp only [Store.plan, Store.planCreateUser, Limit.guard] at h
  split at h
  · split at h
    · cases h
    · exact ⟨_, (Except.error.inj h).symm⟩
  · exact ⟨_, (Except.error.inj h).symm⟩

theorem perform_of_plan_error {error : LedgerError} (h : e.store.plan change = .error error) :
    (e.perform c m change).1 = .error error := by
  simp only [perform, propose, h]

theorem perform_of_exhausted {event : RecordId → Event}
    (h : e.store.plan change = .ok (.create event)) (hdraw : e.generator.draw? m = none) :
    (e.perform c m change).1 = .error (.transactionFailed .idsExhausted) := by
  simp only [perform, propose, h, prepare, Generator.next, hdraw]

section

variable (hfits : UserFits firstName lastName email) (hdraw : e.generator.draw? m = some id)
include hfits hdraw

theorem perform_createUser_of_held {holder : RecordId}
    (hheld : e.store.userByEmail? email = some holder) (hholder : holder ≠ id) :
    (e.perform c m (.createUser firstName lastName email isAdmin)).1 =
      .error (.alreadyExists ("user with email " ++ email)) := by
  have hplan : e.store.plan (.createUser firstName lastName email isAdmin) = _ :=
    plan_createUser_eq_ok_iff.mpr ⟨hfits, rfl⟩
  simp only [perform, propose, hplan, prepare, Generator.next, hdraw, Store.reserveEmail, hheld,
    hholder, decide_false]

/-- A new user with a free address is created if the event can be committed. -/
theorem perform_createUser_of_free (hfree : e.store.userByEmail? email = none) :
    (e.perform c m (.createUser firstName lastName email isAdmin)).1 =
      match (e.journal.commit c [.userCreated ⟨id, firstName, lastName, email, isAdmin⟩]).1 with
      | .ok () => .ok (.user ⟨id, firstName, lastName, email, isAdmin⟩)
      | .error error => .error (.transactionFailed (.io error)) := by
  have hplan : e.store.plan (.createUser firstName lastName email isAdmin) = _ :=
    plan_createUser_eq_ok_iff.mpr ⟨hfits, rfl⟩
  simp only [perform, propose, hplan, prepare, Generator.next, hdraw, Store.reserveEmail, hfree,
    commit]
  rcases e.journal.commit c [.userCreated ⟨id, firstName, lastName, email, isAdmin⟩] with
    ⟨error | done, journal⟩
  · rfl
  · rfl

theorem perform_createUser_of_accepts (hfree : e.store.userByEmail? email = none) (hc : c.Accepts)
    (htrusted : e.journal.poisoned = false) :
    (e.perform c m (.createUser firstName lastName email isAdmin)).1 =
      .ok (.user ⟨id, firstName, lastName, email, isAdmin⟩) := by
  have hplan : e.store.plan (.createUser firstName lastName email isAdmin) = _ :=
    plan_createUser_eq_ok_iff.mpr ⟨hfits, rfl⟩
  obtain ⟨journal, hcommit⟩ :=
    (Proposes.create hplan (Generator.lt_of_draw? hdraw)).commit_of_accepts hc htrusted
  rw [perform_createUser_of_free hfits hdraw hfree, hcommit]

end

/-- What is answered when a new user is asked for. -/
inductive AnswersNewUser (e : Engine) (c : Conditions) (m : Moment)
    (firstName lastName email : String) (isAdmin : Bool) : Except LedgerError Reply → Prop
  | tooLong {limit : Limit} (hunfit : ¬ UserFits firstName lastName email) :
      e.AnswersNewUser c m firstName lastName email isAdmin (.error (.limitExceeded limit))
  | exhausted (hfits : UserFits firstName lastName email) (hdraw : e.generator.draw? m = none) :
      e.AnswersNewUser c m firstName lastName email isAdmin
        (.error (.transactionFailed .idsExhausted))
  | taken {id holder : RecordId} (hfits : UserFits firstName lastName email)
      (hdraw : e.generator.draw? m = some id)
      (hheld : e.store.userByEmail? email = some holder) :
      e.AnswersNewUser c m firstName lastName email isAdmin
        (.error (.alreadyExists ("user with email " ++ email)))
  | created {id : RecordId} (hfits : UserFits firstName lastName email)
      (hdraw : e.generator.draw? m = some id) (hfree : e.store.userByEmail? email = none)
      (hcommit : (e.journal.commit c
        [.userCreated ⟨id, firstName, lastName, email, isAdmin⟩]).1 = .ok ()) :
      e.AnswersNewUser c m firstName lastName email isAdmin
        (.ok (.user ⟨id, firstName, lastName, email, isAdmin⟩))
  | failed {id : RecordId} {error : IoError} (hfits : UserFits firstName lastName email)
      (hdraw : e.generator.draw? m = some id) (hfree : e.store.userByEmail? email = none)
      (hcommit : (e.journal.commit c
        [.userCreated ⟨id, firstName, lastName, email, isAdmin⟩]).1 = .error error) :
      e.AnswersNewUser c m firstName lastName email isAdmin
        (.error (.transactionFailed (.io error)))

theorem Proposes.eq_userDeleted {text : String} {event : Event} {last : RecordId}
    (h : e.Proposes (.deleteUser text) event last) (hid : readId text = .ok id) :
    event = .userDeleted id := by
  cases h with
  | write hplan =>
      cases Store.means_of_plan hplan with
      | deleteUser hid' huser => rw [Except.ok.inj (hid.symm.trans hid')]
  | create hplan hid' => cases Store.means_of_plan hplan

namespace Steady

/-- No user has the identifier that is drawn for a new one. -/
theorem holder_ne (h : e.Steady) (hpeople : e.store.PeopleAgree) {holder : RecordId}
    (hdraw : e.generator.draw? m = some id) (hheld : e.store.userByEmail? email = some holder) :
    holder ≠ id := by
  obtain ⟨user, huser, rfl, -⟩ := hpeople.emails_eq_some_iff.mp hheld
  have hshows : e.store.Shows user.id :=
    .inr (.inl (mem_iff_lookup.mpr ⟨user, hpeople.mem_allUsers_iff.mp huser⟩))
  exact RecordId.ne_of_lt (Nat.lt_of_le_of_lt (h.shows_le hshows) (Generator.lt_of_draw? hdraw))

theorem answersNewUser (h : e.Steady) (hpeople : e.store.PeopleAgree) (c : Conditions) (m : Moment)
    (firstName lastName email : String) (isAdmin : Bool) :
    e.AnswersNewUser c m firstName lastName email isAdmin
      (e.perform c m (.createUser firstName lastName email isAdmin)).1 := by
  cases hplan : e.store.plan (.createUser firstName lastName email isAdmin) with
  | error error =>
      obtain ⟨limit, rfl⟩ := exists_limit_of_plan_createUser hplan
      rw [perform_of_plan_error hplan]
      refine .tooLong fun hfits => ?_
      cases hplan.symm.trans (plan_createUser_eq_ok_iff.mpr ⟨hfits, rfl⟩)
  | ok p =>
      obtain ⟨hfits, rfl⟩ := plan_createUser_eq_ok_iff.mp hplan
      cases hdraw : e.generator.draw? m with
      | none =>
          rw [perform_of_exhausted hplan hdraw]
          exact .exhausted hfits hdraw
      | some id =>
          cases hheld : e.store.userByEmail? email with
          | none =>
              rw [perform_createUser_of_free hfits hdraw hheld]
              rcases hcommit : (e.journal.commit c [.userCreated _]).1 with error | done
              · exact .failed hfits hdraw hheld hcommit
              · exact .created hfits hdraw hheld hcommit
          | some holder =>
              rw [perform_createUser_of_held hfits hdraw hheld (h.holder_ne hpeople hdraw hheld)]
              exact .taken hfits hdraw hheld

/-- A new user is refused for the sake of the address exactly if the texts keep their limits, an
identifier is left, and a user has the address. -/
theorem alreadyExists_iff (h : e.Steady) (hpeople : e.store.PeopleAgree) {what : String} :
    (e.perform c m (.createUser firstName lastName email isAdmin)).1 =
        .error (.alreadyExists what) ↔
      what = "user with email " ++ email ∧ UserFits firstName lastName email ∧
        (e.generator.draw? m).isSome ∧
        ∃ user ∈ e.store.allUsers, Text.lowercase user.email = Text.lowercase email := by
  have hanswer := h.answersNewUser hpeople c m firstName lastName email isAdmin
  constructor
  · intro hrefused
    rw [hrefused] at hanswer
    cases hanswer with
    | taken hfits hdraw hheld =>
        obtain ⟨user, huser, -, hemail⟩ := hpeople.emails_eq_some_iff.mp hheld
        exact ⟨rfl, hfits, Option.isSome_of_eq_some hdraw, user, huser, hemail⟩
  · rintro ⟨rfl, hfits, hleft, user, huser, hemail⟩
    have hnotfree : e.store.userByEmail? email ≠ none := fun hfree =>
      hpeople.userByEmail?_eq_none_iff.mp hfree user huser hemail
    generalize (e.perform c m _).1 = answer at hanswer ⊢
    cases hanswer with
    | tooLong hunfit => exact absurd hfits hunfit
    | exhausted _ hdraw =>
        rw [hdraw] at hleft
        cases hleft
    | taken _ _ _ => rfl
    | created _ _ hfree _ => exact absurd hfree hnotfree
    | failed _ _ hfree _ => exact absurd hfree hnotfree

/-- A deletion that was answered as good was written to the log and applied. -/
theorem of_deleteUser_ok (h : e.Steady) {text : String} {reply : Reply}
    (hid : readId text = .ok id) (hok : (e.perform c m (.deleteUser text)).1 = .ok reply) :
    let e' := (e.perform c m (.deleteUser text)).2
    (e.store.apply (.userDeleted id)).SameButEmails e'.store ∧ e'.journal.poisoned = false := by
  have houtcome := e.outcome c m (.deleteUser text)
  generalize e.perform c m (.deleteUser text) = r at hok houtcome
  cases houtcome with
  | unwritten hjournal hstore hlast hanswer => cases Store.means_of_plan (hanswer reply hok)
  | written hevent hcommit hstore hanswer =>
      obtain rfl := hevent.eq_userDeleted hid
      exact ⟨hstore, (h.idle.atRest_of_commit_ok hcommit).trusted⟩
  | failed hevent hcommit hstore => cases hok

end Steady

/-- While the disk accepts everything, a new user gets the address as long as the texts keep their
limits and an identifier is left. -/
def IsAvailable (e : Engine) (email : String) : Prop :=
  ∀ c m firstName lastName isAdmin id, Conditions.Accepts c →
    UserFits firstName lastName email → e.generator.draw? m = some id →
    (e.perform c m (.createUser firstName lastName email isAdmin)).1 =
      .ok (.user ⟨id, firstName, lastName, email, isAdmin⟩)

theorem isAvailable_of_free (hfree : e.store.userByEmail? email = none)
    (htrusted : e.journal.poisoned = false) : e.IsAvailable email :=
  fun _ _ _ _ _ _ hc hfits hdraw => perform_createUser_of_accepts hfits hdraw hfree hc htrusted

/-! ## Runs -/

/-- Whatever is asked of an engine that began on an empty log, whatever the disk does, and wherever
its log is cut, the index of email addresses leads from the lower-case form of each user's address
to that user and from nowhere else, and no two users share an address. So look-ups by an address
find its user, a new user is refused for the address exactly if another one has it, as long as the
texts keep their limits and an identifier is left, and after a user is deleted the address is free
for a new one. -/
theorem run_emails_unique (actions : List Action) :
    let e := (openOn []).run actions
    (∀ key id, e.store.emails[key]? = some id ↔
        ∃ user ∈ e.store.allUsers, user.id = id ∧ Text.lowercase user.email = key) ∧
      (∀ user ∈ e.store.allUsers, ∀ other ∈ e.store.allUsers,
        Text.lowercase user.email = Text.lowercase other.email → user = other) ∧
      (∀ email user, e.userByEmail email = some user ↔
        user ∈ e.store.allUsers ∧ Text.lowercase user.email = Text.lowercase email) ∧
      (∀ c m firstName lastName email isAdmin what,
        (e.perform c m (.createUser firstName lastName email isAdmin)).1 =
            .error (.alreadyExists what) ↔
          what = "user with email " ++ email ∧ UserFits firstName lastName email ∧
            (e.generator.draw? m).isSome ∧
            ∃ user ∈ e.store.allUsers, Text.lowercase user.email = Text.lowercase email) ∧
      ∀ c m text, ∀ user ∈ e.store.allUsers, readId text = .ok user.id →
        (e.perform c m (.deleteUser text)).1 = .ok .done →
          let e' := (e.perform c m (.deleteUser text)).2
          ∀ email, Text.lowercase email = Text.lowercase user.email →
            e'.userByEmail email = none ∧ e'.IsAvailable email := by
  intro e
  have hsteady : e.Steady := (steady_openOn []).run actions
  have hpeople : e.store.PeopleAgree := (sound_run actions).coherent.people
  refine ⟨fun key id => hpeople.emails_eq_some_iff,
    fun user huser other hother => hpeople.eq_of_lowercase_eq huser hother,
    fun email user => userByEmail_eq_some_iff hpeople,
    fun c m firstName lastName email isAdmin what => hsteady.alreadyExists_iff hpeople, ?_⟩
  intro c m text user huser hid hok e' email hemail
  obtain ⟨hstore, htrusted⟩ := hsteady.of_deleteUser_ok hid hok
  have hpeople' : e'.store.PeopleAgree :=
    (sound_after_run actions (.change c m (.deleteUser text))).coherent.people
  have hfree : e'.store.userByEmail? email = none := by
    refine hpeople'.userByEmail?_eq_none_iff.mpr fun other hother => ?_
    rw [hemail]
    exact hpeople.ne_of_mem_allUsers_userDeleted huser hpeople' hstore hother
  exact ⟨(userByEmail_eq_none_iff hpeople').mpr hfree, isAvailable_of_free hfree htrusted⟩

/-- Although the address is taken, a user whose first name is too long is refused for the name, and
when no identifier is left a user is refused for that. -/
theorem not_alreadyExists_of_taken_email :
    let e := (openOn []).run
      [.change .good ⟨5, 0xffff_ffffffff_ffffffff⟩ (.createUser "Ada" "L" "ada@host" false)]
    let longName := String.ofList (List.replicate 257 'a')
    fits Limits.emailBytes "ADA@host" = true ∧
      (∃ user ∈ e.store.allUsers, Text.lowercase user.email = Text.lowercase "ADA@host") ∧
      (e.perform .good ⟨6, 0⟩ (.createUser longName "L" "ADA@host" false)).1 =
        .error (.limitExceeded .userName) ∧
      (e.perform .good ⟨5, 0⟩ (.createUser "Eve" "L" "ADA@host" false)).1 =
        .error (.transactionFailed .idsExhausted) := by
  simp only [openOn_nil]
  decide +kernel

end Engine

end Lodging
