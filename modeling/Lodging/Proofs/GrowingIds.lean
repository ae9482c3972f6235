import Lodging.Proofs.Continuity

/-!
# Growing identifiers

An identifier is above all that the engine has drawn since it was opened, and an engine that is
opened begins above all that its log is about. So the identifiers of new documents grow as long as
the log tells of the old ones. It tells of a document that is there, and of a deleted user until it
is compacted. If a deleted user was the newest document, its identifier is drawn again when the log
was compacted and the engine opened anew while the clock is behind.
-/

namespace Lodging

open Log (Bytes Conditions Journal)

/-- Whether a change creates a document when it succeeds. -/
def Change.creates : Change → Bool
  | .createHotel .. | .createUser .. | .createRoom .. | .createBooking .. => true
  | _ => false

/-- The identifier of the document that a caller gets. -/
def Reply.documentId? : Reply → Option RecordId
  | .hotel h => some h.id
  | .user u => some u.id
  | .room r => some r.id
  | .booking b => some b.id
  | .done => none

namespace Engine

variable {e e' : Engine} {action : Action} {c : Conditions} {change : Change} {event : Event}
variable {id last : RecordId}

/-- The identifier of the document that is created, if one is. -/
def created? (e : Engine) : Action → Option RecordId
  | .change c m change =>
      if change.creates then (e.perform c m change).1.toOption.bind Reply.documentId? else none
  | _ => none

def Action.Reopens : Action → Prop
  | .reopen _ _ => True
  | _ => False

/-- Somebody asks for the deletion of a user who is there. -/
def Dismisses (e : Engine) (id : RecordId) : Action → Prop
  | .change _ _ (.deleteUser text) => readId text = .ok id ∧ id ∈ e.store.users
  | _ => False

/-- The log is compacted successfully, and the document is not there to be written again. -/
def Erases (e : Engine) (id : RecordId) : Action → Prop
  | .compact c => (e.compact c).1 = .ok () ∧ ¬ e.store.Shows id
  | _ => False

/-- A user who was there was dismissed and is gone when the log is compacted, and then the engine is
opened again. -/
def Loses (e : Engine) (id : RecordId) (actions : List Action) : Prop :=
  ∃ earlier dismissal between compaction later,
    actions = earlier ++ dismissal :: between ++ compaction :: later ∧
      (e.run earlier).Dismisses id dismissal ∧
      (e.run (earlier ++ dismissal :: between)).Erases id compaction ∧
      ∃ reopening ∈ later, reopening.Reopens

/-! ## Creations -/

/-- The event about a new document of the identifier is written, and the store shows it. -/
structure Creates (e : Engine) (c : Conditions) (change : Change) (id : RecordId) (e' : Engine) :
    Prop where
  lt : e.generator.last < id
  last_eq : e'.generator.last = id
  written : ∃ event : RecordId → Event, e.store.plan change = .ok (.create event) ∧
    e.journal.commit c [event id] = (.ok (), e'.journal) ∧
    (e.store.apply (event id)).SameButEmails e'.store

theorem creates_false_of_write {s : Store} (h : s.plan change = .ok (.write event)) :
    change.creates = false := by
  cases Store.means_of_plan h with
  | _ => rfl

theorem creates_false_of_keep {s : Store} {reply : Reply} (h : s.plan change = .ok (.keep reply)) :
    change.creates = false := by
  cases Store.means_of_plan h with
  | _ => rfl

/-- The caller gets the document that was created. -/
theorem documentId?_of_replyTo {event : RecordId → Event} {reply : Reply}
    (hplan : e.store.plan change = .ok (.create event))
    (hstore : (e.store.apply (event id)).SameButEmails e'.store)
    (hreply : e'.replyTo (event id) = .ok reply) : reply.documentId? = some id := by
  obtain ⟨emails, heq⟩ := hstore
  cases Store.means_of_plan hplan with
  | createHotel name location rating =>
      have hfound := Store.hotels_apply_hotelCreated e.store id name location rating id
      rw [if_pos rfl] at hfound
      have hhotel : e'.store.hotel? id = some ⟨id, name, location, [], rating⟩ := by
        rw [heq]
        exact hfound
      simp only [replyTo, hhotel] at hreply
      cases hreply
      rfl
  | _ =>
      cases hreply
      rfl

theorem creates_of_created? {m : Moment} (h : e.created? (.change c m change) = some id) :
    e.Creates c change id (e.perform c m change).2 := by
  have hcreates : change.creates = true := by
    by_contra hother
    rw [created?, if_neg hother] at h
    cases h
  rw [created?, if_pos hcreates] at h
  obtain ⟨reply, hreply, hid⟩ := Option.bind_eq_some_iff.mp h
  have houtcome := e.outcome c m change
  generalize e.perform c m change = r at hreply houtcome
  cases houtcome with
  | @unwritten answer e' hjournal hstore hlast hanswer =>
      cases answer with
      | error error => cases hreply
      | ok reply => rw [creates_false_of_keep (hanswer reply rfl)] at hcreates; cases hcreates
  | failed hevent hcommit hstore => cases hreply
  | @written event answer e' hevent hcommit hstore hanswer =>
      cases answer with
      | error error => cases hreply
      | ok reply' =>
          obtain rfl := Option.some.inj hreply
          generalize hlast : e'.generator.last = last at hevent
          cases hevent with
          | write hplan => rw [creates_false_of_write hplan] at hcreates; cases hcreates
          | create hplan hlt =>
              obtain rfl := Option.some.inj
                ((documentId?_of_replyTo hplan hstore hanswer.symm).symm.trans hid)
              exact ⟨hlt, hlast, _, hplan, hcommit, hstore⟩

/-- Only the decision draws. -/
theorem generator_perform (e : Engine) (c : Conditions) (m : Moment) (change : Change) :
    (e.perform c m change).2.generator = (e.propose m change).2.generator := by
  unfold perform
  rcases e.propose m change with ⟨error | reply | event, e'⟩
  · rfl
  · rfl
  · simp only [commit]
    rcases e'.journal.commit c [event] with ⟨error | ⟨⟩, journal⟩
    · rfl
    · rfl

theorem generator_propose_of_create {event : RecordId → Event}
    (hplan : e.store.plan change = .ok (.create event)) (m : Moment) :
    (e.propose m change).2.generator = (e.generator.next m).2 := by
  simp only [propose, hplan, prepare]
  rcases e.generator.next m with ⟨_ | id, g⟩
  · rfl
  · simp only
    split
    · next user huser =>
        rcases e.store.reserveEmail user.email user.id with ⟨_ | _, store⟩
        · rfl
        · rfl
    · rfl

/-- The identifier of a document that is created is the one that is drawn for it. -/
theorem draw?_of_created? {m : Moment} (h : e.created? (.change c m change) = some id) :
    e.generator.draw? m = some id := by
  have hcreates := creates_of_created? h
  obtain ⟨event, hplan, -⟩ := hcreates.written
  have hlast := hcreates.last_eq
  rw [generator_perform, generator_propose_of_create hplan] at hlast
  cases hdraw : e.generator.draw? m with
  | none =>
      rw [Generator.next_of_draw?_eq_none hdraw] at hlast
      exact absurd hlast (RecordId.ne_of_lt hcreates.lt)
  | some drawn =>
      rw [Generator.next_of_draw?_eq_some hdraw] at hlast
      exact congrArg some hlast

/-- A document that was just created is there, in memory and in whatever is read back. -/
theorem Creates.retains_shows (h : e.Creates c change id e') (he : e.Steady) :
    e'.Retains fun s => s.Shows id := by
  obtain ⟨event, hplan, hcommit, hstore⟩ := h.written
  refine Retains.of_written (fun s t hst hs => hst.shows_iff.mpr hs) ?_ he.idle hcommit hstore
  have hshows (t : Store) (hrooms : ∀ id ∈ e.store.rooms, id ∈ t.rooms) :
      (t.apply (event id)).Shows id := by
    cases Store.means_of_plan hplan with
    | createHotel name location rating =>
        exact .inl (Store.mem_hotels_apply.mpr (.inr ⟨_, _, _, rfl⟩))
    | createUser firstName lastName email isAdmin =>
        exact .inr (.inl Std.ExtTreeMap.mem_insert_self)
    | createRoom kind basePrice price hhotelId hhotel =>
        exact .inr (.inr (.inl (Store.mem_rooms_apply.mpr (.inr ⟨_, rfl, rfl⟩))))
    | createBooking user guests hroomId hlasts hslot hfree =>
        have hroom := hrooms _ (mem_iff_lookup.mpr ⟨_, hslot⟩)
        exact .inr (.inr (.inr ⟨_, _,
          (Store.mem_entriesIn_apply_bookingCreated hroom).mpr (.inl ⟨rfl, rfl⟩), rfl⟩))
  exact ⟨hshows e.store fun _ hid => hid, fun log hlog => hshows _ (he.rooms hlog)⟩

theorem Steady.retains_shows_of_created? (he : e.Steady) (h : e.created? action = some id) :
    (e.after action).Retains fun s => s.Shows id := by
  cases action with
  | change c m change => exact (creates_of_created? h).retains_shows he
  | _ => cases h

/-! ## What the log tells -/

/-- Whatever is read back is about the document. -/
def Mentions (e : Engine) (id : RecordId) : Prop :=
  ∀ log, e.journal.Leaves log → ∃ x ∈ log, x.subject = id

theorem Retains.mentions (h : e.Retains fun s => s.Shows id) : e.Mentions id :=
  fun log hlog => Store.exists_subject_of_shows (h.2 log hlog)

theorem Mentions.le_last (h : e.Mentions id) (he : e.Steady) : id ≤ e.generator.last := by
  obtain ⟨x, hx, rfl⟩ := h _ ⟨.good, rfl⟩
  exact he.subject_le ⟨.good, rfl⟩ x hx

/-- The drawn identifiers are forgotten when the engine is opened again, and only then. -/
theorem le_last_after (hid : id ≤ e.generator.last) (haction : ¬ action.Reopens) :
    id ≤ (e.after action).generator.last := by
  cases action with
  | change c m change =>
      change id ≤ (e.perform c m change).2.generator.last
      have houtcome := e.outcome c m change
      generalize e.perform c m change = r at houtcome
      cases houtcome with
      | unwritten hjournal hstore hlast hanswer => exact Nat.le_trans hid hlast
      | written hevent hcommit hstore hanswer => exact Nat.le_trans hid hevent.last_le
      | failed hevent hcommit hstore => exact Nat.le_trans hid hevent.last_le
  | compact c =>
      change id ≤ (e.compact c).2.generator.last
      rwa [(e.compact_cases c).2.1]
  | reopen c bytes => exact absurd trivial haction

/-- A change only adds to what may be read back. -/
theorem Steady.exists_past_of_perform (h : e.Steady) {m : Moment} {log : List Event}
    (hlog : (e.perform c m change).2.journal.Leaves log) :
    ∃ past, e.journal.Leaves past ∧ past <+: log := by
  have houtcome := e.outcome c m change
  generalize e.perform c m change = r at hlog houtcome
  cases houtcome with
  | unwritten hjournal hstore hlast hanswer => exact ⟨log, hjournal ▸ hlog, List.prefix_rfl⟩
  | written hevent hcommit hstore hanswer =>
      obtain ⟨past, hpast, rfl⟩ := (h.idle.commit_ok hcommit).2 log hlog
      exact ⟨past, hpast, List.prefix_append _ _⟩
  | failed hevent hcommit hstore =>
      rcases (h.idle.commit_error hcommit).2 log hlog with hlog | ⟨-, past, hpast, rfl⟩
      · exact ⟨log, hlog, List.prefix_rfl⟩
      · exact ⟨past, hpast, List.prefix_append _ _⟩

/-- A compaction that succeeds while the document is not there is named. -/
theorem Erases.exists_compact (h : e.Erases id action) :
    ∃ c, action = .compact c ∧ (e.compact c).1 = .ok () ∧ ¬ e.store.Shows id := by
  cases action with
  | compact c => exact ⟨c, rfl, h⟩
  | _ => exact h.elim

theorem compact_eq_ok (h : e.journal.compact c e.store.snapshot = (.ok (), (e.compact c).2.journal)) :
    (e.compact c).1 = .ok () := by
  unfold compact
  rw [h]

/-- What the log tells, it tells until it is compacted without the document. -/
theorem Mentions.after (h : e.Mentions id) (he : e.Steady) (huncut : e.Uncut action)
    (haction : ¬ e.Erases id action) : (e.after action).Mentions id := by
  intro log hlog
  cases action with
  | change c m change =>
      obtain ⟨past, hpast, hprefix⟩ := he.exists_past_of_perform hlog
      obtain ⟨x, hx, hid⟩ := h past hpast
      exact ⟨x, hprefix.subset hx, hid⟩
  | compact c =>
      obtain ⟨-, -, hcompact | ⟨error, hcompact⟩⟩ := e.compact_cases c
      · obtain rfl := (he.idle.compact_ok hcompact).2 log hlog
        have hshows : e.store.Shows id := by
          by_contra hgone
          exact haction ⟨compact_eq_ok hcompact, hgone⟩
        exact Store.exists_subject_of_shows (he.keyed.shows_replay_snapshot hshows)
      · exact h log ((he.idle.compact_error hcompact).2 log hlog)
  | reopen c bytes =>
      obtain ⟨log', hlog', -, honly⟩ := exists_log_of_reopen huncut
      exact h log (honly log hlog ▸ hlog')

/-- The event takes a document away only if it is the deletion of that user. -/
theorem Retains.shows_apply (h : e.Retains fun s => s.Shows id) (he : e.Steady)
    (hevent : e.Proposes change event last) (hdeleted : event ≠ .userDeleted id) :
    e.Retains fun s => (s.apply event).Shows id := by
  cases event with
  | roomCreated room =>
      refine (h.and (he.retains_fresh_room hevent)).imp fun s ⟨hs, hfresh⟩ => ?_
      refine hs.apply hdeleted fun room' heq => ?_
      cases heq
      exact hfresh
  | _ => exact h.imp fun s hs => hs.apply hdeleted nofun

theorem dismisses_of_proposes {m : Moment} (h : e.Proposes change (.userDeleted id) last)
    (he : e.Steady) (hshows : e.store.Shows id) : e.Dismisses id (.change c m change) := by
  rcases h.lt_or_write with hlt | hplan
  · exact absurd (Nat.lt_of_lt_of_le hlt (he.shows_le hshows)) (Nat.lt_irrefl _)
  · cases Store.means_of_plan hplan with
    | deleteUser hid huser => exact ⟨hid, huser⟩

/-- What is there stays, in memory and in the log, until it is a user who is dismissed. -/
theorem Retains.shows_after (h : e.Retains fun s => s.Shows id) (he : e.Steady)
    (huncut : e.Uncut action) (haction : ¬ e.Dismisses id action) :
    (e.after action).Retains fun s => s.Shows id := by
  have hemails (s t : Store) (hst : s.SameButEmails t) (hs : s.Shows id) : t.Shows id :=
    hst.shows_iff.mpr hs
  cases action with
  | change c m change =>
      change (e.perform c m change).2.Retains _
      have houtcome := e.outcome c m change
      have hevent {event : Event} {last : RecordId} (hevent : e.Proposes change event last) :
          e.Retains fun s => (s.apply event).Shows id := by
        refine h.shows_apply he hevent ?_
        rintro rfl
        exact haction (dismisses_of_proposes hevent he h.1)
      generalize e.perform c m change = r at houtcome
      cases houtcome with
      | unwritten hjournal hstore hlast hanswer => exact h.of_unwritten hemails hjournal hstore
      | written hproposes hcommit hstore hanswer =>
          exact (hevent hproposes).of_written hemails he.idle hcommit hstore
      | failed hproposes hcommit hstore =>
          exact h.of_failed hemails (fun _ => hevent hproposes) he.idle hcommit hstore
  | compact c => exact h.compact he (fun s hs hshows => hs.shows_replay_snapshot hshows) c
  | reopen c bytes => exact h.reopen huncut

/-! ## Runs -/

theorem le_last_run {actions : List Action} (hid : id ≤ e.generator.last)
    (hactions : ∀ reopening ∈ actions, ¬ reopening.Reopens) :
    id ≤ (e.run actions).generator.last := by
  induction actions generalizing e with
  | nil => exact hid
  | cons action rest ih =>
      have hafter := le_last_after hid (hactions action List.mem_cons_self)
      exact ih hafter fun reopening hmem => hactions reopening (List.mem_cons_of_mem _ hmem)

/-- What is kept by all actions but some breaks, if it breaks, at the first of these. -/
theorem Steady.exists_breach (P : Engine → Prop) (breaks : Engine → Action → Prop)
    (hstep : ∀ {e : Engine} {action : Action}, e.Steady → P e → e.Uncut action →
      ¬ breaks e action → P (e.after action)) {actions : List Action} (he : e.Steady)
    (hwhole : e.Whole actions) (h : P e) (hend : ¬ P (e.run actions)) :
    ∃ earlier action later, actions = earlier ++ action :: later ∧ P (e.run earlier) ∧
      breaks (e.run earlier) action := by
  induction actions generalizing e with
  | nil => exact absurd h hend
  | cons action rest ih =>
      by_cases hbreaks : breaks e action
      · exact ⟨[], action, rest, rfl, h, hbreaks⟩
      · have hafter : P (e.after action) := hstep he h hwhole.1 hbreaks
        obtain ⟨earlier, action', later, rfl, hkept, hbreaks'⟩ :=
          ih (he.after action) hwhole.2 hafter hend
        exact ⟨action :: earlier, action', later, rfl, hkept, hbreaks'⟩

/-- An identifier that the log told of is forgotten by a compaction and a reopening behind it. -/
theorem Mentions.exists_erasure {actions : List Action} (h : e.Mentions id) (he : e.Steady)
    (hwhole : e.Whole actions) (hlost : (e.run actions).generator.last < id) :
    ∃ earlier compaction later, actions = earlier ++ compaction :: later ∧
      (e.run earlier).Erases id compaction ∧ ∃ reopening ∈ later, reopening.Reopens := by
  have hend : ¬ (e.run actions).Mentions id := fun hmentions =>
    Nat.not_lt_of_le (hmentions.le_last (he.run actions)) hlost
  obtain ⟨earlier, compaction, later, rfl, hmentions, herases⟩ :=
    Steady.exists_breach (·.Mentions id) (·.Erases id ·)
      (fun he h huncut haction => h.after he huncut haction) he hwhole h hend
  refine ⟨earlier, compaction, later, rfl, herases, ?_⟩
  by_contra hnone
  -- From here on only the generator remembers the identifier.
  obtain ⟨c, rfl, -⟩ := herases.exists_compact
  have hlast : id ≤ ((e.run earlier).after (.compact c)).generator.last :=
    le_last_after (hmentions.le_last (he.run earlier)) not_false
  rw [run_append] at hlost
  have hkept := le_last_run hlast fun reopening hmem hreopens => hnone ⟨reopening, hmem, hreopens⟩
  exact Nat.not_lt_of_le hkept hlost

theorem Retains.exists_dismissal {actions : List Action} (h : e.Retains fun s => s.Shows id)
    (he : e.Steady) (hwhole : e.Whole actions) (hgone : ¬ (e.run actions).store.Shows id) :
    ∃ earlier dismissal later, actions = earlier ++ dismissal :: later ∧
      (e.run earlier).Dismisses id dismissal := by
  obtain ⟨earlier, dismissal, later, heq, -, hdismisses⟩ :=
    Steady.exists_breach (·.Retains fun s => s.Shows id) (·.Dismisses id ·)
      (fun he h huncut haction => h.shows_after he huncut haction) he hwhole h
      fun hretains => hgone hretains.1
  exact ⟨earlier, dismissal, later, heq, hdismisses⟩

/-- The generator falls behind a document that was there only by losing a user. -/
theorem Retains.loses {actions : List Action} (h : e.Retains fun s => s.Shows id)
    (he : e.Steady) (hwhole : e.Whole actions)
    (hlost : (e.run actions).generator.last < id) : e.Loses id actions := by
  obtain ⟨front, compaction, later, rfl, herases, hreopens⟩ :=
    h.mentions.exists_erasure he hwhole hlost
  obtain ⟨-, -, -, hgone⟩ := herases.exists_compact
  obtain ⟨earlier, dismissal, between, rfl, hdismisses⟩ :=
    h.exists_dismissal he (Along.of_append hwhole) hgone
  exact ⟨earlier, dismissal, between, compaction, later, rfl, hdismisses, herases, hreopens⟩

/-! ## From one document to the next -/

/-- After a compaction that succeeds the snapshot is what an engine finds that is opened again. -/
theorem Steady.recover_take_close_compact (h : e.Steady)
    (hok : (e.journal.compact c e.store.snapshot).1.isOk = true) {c' : Conditions} {bytes : Nat}
    (huncut : (e.after (.compact c)).Uncut (.reopen c' bytes)) :
    (Log.recover (((e.after (.compact c)).close c').take bytes)).events = e.store.snapshot := by
  rw [List.take_of_length_le huncut]
  obtain ⟨-, -, hcompact | ⟨error, hcompact⟩⟩ := e.compact_cases c
  · exact (h.idle.compact_ok hcompact).2 _ ⟨c', rfl⟩
  · rw [hcompact] at hok
    cases hok

/-- On a log of one hotel, while the clock is behind it, the next identifier is its successor. -/
theorem created?_reopenOn_of_hotel {file : Bytes}
    (hfile : (Log.recover file).events = [.hotelCreated (.ofParts 9 0) "Inn" "Hill" 3]) :
    (reopenOn file e).created? (.change .good ⟨8, 0⟩ (.createHotel "Tavern" "Hill" 3)) =
      some (.ofParts 9 1) := by
  have hnext : Generator.next ⟨.ofParts 9 0⟩ ⟨8, 0⟩ =
      (some (.ofParts 9 1), ⟨.ofParts 9 1⟩) := by decide
  rw [reopenOn, openOn, hfile, show generatorAfter _ = ⟨.ofParts 9 0⟩ from rfl]
  simp only [created?, perform, propose, Store.plan, prepare, hnext]
  rfl

/-- Of two documents that are created one after the other the later one has the larger identifier,
on any log, whatever is asked meanwhile, whatever the clock shows and the disk does, as long as the
engine is opened again on its whole log. The exception is exactly this: the earlier document was a
user who was dismissed and was gone when the log was compacted; the engine was opened again after
that; it has neither read back nor drawn an identifier from the user's on; and the clock suggests
none above the user's. -/
theorem created_lt_iff (file : Bytes) (before between : List Action) {first : Action} {m : Moment}
    {id id' : RecordId} (hfirst : ((openOn file).run before).created? first = some id)
    (hwhole : (((openOn file).run before).after first).Whole between)
    (hsecond : ((((openOn file).run before).after first).run between).created?
      (.change c m change) = some id') :
    let e := ((openOn file).run before).after first
    id < id' ↔
      ¬ (e.Loses id between ∧ (e.run between).generator.last < id ∧ m.freshId ≤ id) := by
  intro e
  have hbefore : ((openOn file).run before).Steady := (steady_openOn file).run before
  have hshows : e.Retains fun s => s.Shows id := hbefore.retains_shows_of_created? hfirst
  have hle : id' ≤ id ↔ (e.run between).generator.last < id ∧ m.freshId ≤ id :=
    Generator.le_iff_of_draw? (draw?_of_created? hsecond)
  refine Nat.not_le.symm.trans (not_congr (hle.trans (and_iff_right_of_imp fun hfalls => ?_).symm))
  exact hshows.loses (hbefore.after first) hwhole hfalls.1

/-- Somebody asks for the deletion of a user by the identifier of a hotel, and is refused. Then the
log is compacted, and the clock steps back while the engine is closed. -/
theorem created_lt_iff_of_refused_deletion :
    let hotel (name : String) (millis : Int) : Action :=
      .change .good ⟨millis, 0⟩ (.createHotel name "Hill" 3)
    let between : List Action :=
      [.change .good ⟨8, 0⟩ (.deleteUser (RecordId.ofParts 9 0).hex), .compact .good,
        .reopen .good 1000]
    let e := (openOn []).after (hotel "Inn" 9)
    (openOn []).created? (hotel "Inn" 9) = some (.ofParts 9 0) ∧ e.Whole between ∧
      (e.run between).created? (hotel "Tavern" 8) = some (.ofParts 9 1) ∧
      RecordId.ofParts 9 0 < .ofParts 9 1 := by
  intro hotel between e
  let refused := e.after (.change .good ⟨8, 0⟩ (.deleteUser (RecordId.ofParts 9 0).hex))
  have hsteady : refused.Steady := ((steady_openOn []).after _).after _
  have hfirst : (openOn []).created? (hotel "Inn" 9) = some (.ofParts 9 0) := by
    simp only [openOn_nil, hotel]
    decide +kernel
  have hlength : ((refused.after (.compact .good)).close .good).length ≤ 1000 := by
    simp only [refused, e, openOn_nil, hotel]
    decide +kernel
  have hwhole : e.Whole between := ⟨trivial, trivial, hlength, trivial⟩
  have hfile : (Log.recover (((refused.after (.compact .good)).close .good).take 1000)).events =
      [.hotelCreated (.ofParts 9 0) "Inn" "Hill" 3] := by
    refine (hsteady.recover_take_close_compact ?_ hlength).trans ?_
    · simp only [refused, e, openOn_nil, hotel]
      decide +kernel
    · simp only [refused, e, openOn_nil, hotel]
      decide +kernel
  have hsecond : (e.run between).created? (hotel "Tavern" 8) = some (.ofParts 9 1) :=
    created?_reopenOn_of_hotel hfile
  -- The hotel is in the log, so the engine that is opened begins at its identifier.
  have hgenerator : (e.run between).generator = ⟨.ofParts 9 0⟩ := congrArg generatorAfter hfile
  refine ⟨hfirst, hwhole, hsecond, (created_lt_iff [] [] between hfirst hwhole hsecond).mpr ?_⟩
  rintro ⟨-, hlast, -⟩
  change (e.run between).generator.last < .ofParts 9 0 at hlast
  rw [hgenerator] at hlast
  exact absurd hlast (by decide)

/-- A hotel and then a user are created and the user is deleted. When the log is compacted and the
engine opened again, while the clock is behind, a new hotel gets the identifier of the user. -/
theorem created_again_of_deleted_user :
    let hotel (name : String) (millis : Int) : Action :=
      .change .good ⟨millis, 0⟩ (.createHotel name "Hill" 3)
    let user : Action := .change .good ⟨8, 0⟩ (.createUser "Ada" "L" "ada@host" false)
    let between : List Action :=
      [.change .good ⟨8, 0⟩ (.deleteUser (RecordId.ofParts 9 1).hex), .compact .good,
        .reopen .good 1000]
    let e := (openOn []).run [hotel "Inn" 9]
    e.created? user = some (.ofParts 9 1) ∧ (e.after user).Whole between ∧
      ((e.after user).run between).created? (hotel "Tavern" 8) = some (.ofParts 9 1) := by
  intro hotel user between e
  let deleted := (e.after user).after
    (.change .good ⟨8, 0⟩ (.deleteUser (RecordId.ofParts 9 1).hex))
  have hsteady : deleted.Steady := (((steady_openOn []).run _).after user).after _
  have hlength : ((deleted.after (.compact .good)).close .good).length ≤ 1000 := by
    simp only [deleted, e, openOn_nil, user, hotel]
    decide +kernel
  refine ⟨?_, ⟨trivial, trivial, hlength, trivial⟩, created?_reopenOn_of_hotel ?_⟩
  · simp only [e, openOn_nil, user, hotel]
    decide +kernel
  · refine (hsteady.recover_take_close_compact ?_ hlength).trans ?_
    · simp only [deleted, e, openOn_nil, user, hotel]
      decide +kernel
    · simp only [deleted, e, openOn_nil, user, hotel]
      decide +kernel

end Engine

end Lodging
