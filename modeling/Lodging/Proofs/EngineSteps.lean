import Lodging.Proofs.Draws
import Lodging.Proofs.Durability
import Lodging.Proofs.Plans
import Lodging.Engine

/-!
# Steps of the engine

The store of an engine is that of a log of allowed events about identifiers that were drawn before.
A change either leaves this log or adds one allowed event to it, together with the journal, and a
compaction puts the snapshot in its place.
-/

namespace Lodging

open Log (Bytes Conditions Journal)

/-! ## Identifiers -/

theorem RecordId.le_refl (a : RecordId) : a ≤ a := Nat.le_refl a.toNat

theorem RecordId.le_of_lt {a b : RecordId} (h : a < b) : a ≤ b := Nat.le_of_lt h

theorem RecordId.le_max (a b : RecordId) : a ≤ max a b ∧ b ≤ max a b := by
  change a ≤ (if a ≤ b then b else a) ∧ b ≤ (if a ≤ b then b else a)
  split
  · next h => exact ⟨h, Nat.le_refl _⟩
  · next h => exact ⟨Nat.le_refl _, Nat.le_of_not_le h⟩

theorem RecordId.le_foldl_max (ids : List RecordId) (first : RecordId) :
    first ≤ ids.foldl max first ∧ ∀ id ∈ ids, id ≤ ids.foldl max first := by
  induction ids generalizing first with
  | nil => exact ⟨Nat.le_refl _, by simp⟩
  | cons second rest ih =>
      obtain ⟨hmax, hrest⟩ := ih (max first second)
      obtain ⟨hfirst, hsecond⟩ := RecordId.le_max first second
      refine ⟨Nat.le_trans hfirst hmax, fun id hid => ?_⟩
      rcases List.mem_cons.mp hid with rfl | hid
      · exact Nat.le_trans hsecond hmax
      · exact hrest id hid

namespace Engine

/-- A generator that follows some events is above everything that they are about. -/
theorem subject_le_generatorAfter {events : List Event} {e : Event} (he : e ∈ events) :
    e.subject ≤ (generatorAfter events).last := by
  cases events with
  | nil => cases he
  | cons first rest =>
      change e.subject ≤ (rest.map Event.subject).foldl max first.subject
      obtain ⟨hfirst, hrest⟩ := RecordId.le_foldl_max (rest.map Event.subject) first.subject
      rcases List.mem_cons.mp he with rfl | he
      · exact hfirst
      · exact hrest _ (List.mem_map_of_mem he)

/-! ## Engine and log -/

/-- The store is that of the log, every event of the log was allowed at its turn, and all that it is
about was drawn before. -/
structure Describes (e : Engine) (log : List Event) : Prop where
  store_eq : e.store = Store.replay log
  history : Store.History Store.Allows log
  drawn : ∀ x ∈ log, x.subject ≤ e.generator.last

/-- What is left of a store when the event that it was prepared for could not be written. -/
def giveUp (event : Event) (s : Store) : Store :=
  match event with
  | .userCreated user => s.releaseEmail user.email user.id
  | _ => s

/-- The engine waits for an event that may follow the log; until then its store may already hold an
email address for a new user. -/
structure Awaits (e : Engine) (log : List Event) (event : Event) : Prop where
  history : Store.History Store.Allows (log ++ [event])
  drawn : ∀ x ∈ log ++ [event], x.subject ≤ e.generator.last
  applied : e.store.apply event = (Store.replay log).apply event
  given_up : giveUp event e.store = Store.replay log

variable {e : Engine} {log : List Event} {event : Event}

namespace Describes

theorem sound (h : e.Describes log) : e.store.Sound := h.store_eq ▸ h.history.sound

theorem subject_of_has {id : RecordId} (hid : (Store.replay log).Has id) :
    ∃ x ∈ log, x.subject = id := by
  rcases hid with hid | hid | hid | hid
  · obtain ⟨name, location, rating, hmem⟩ := Store.mem_hotels_replay.mp hid
    exact ⟨_, hmem, rfl⟩
  · obtain ⟨user, hmem, rfl⟩ := Store.mem_users_of_replay hid
    exact ⟨_, hmem, rfl⟩
  · obtain ⟨room, hmem, rfl⟩ := Store.mem_rooms_replay.mp hid
    exact ⟨_, hmem, rfl⟩
  · obtain ⟨b, hmem, rfl⟩ := Store.mem_roomOfBooking_of_replay hid
    exact ⟨_, hmem, rfl⟩

/-- All that the store has was drawn before. -/
theorem le_last (h : e.Describes log) {id : RecordId} (hid : e.store.Has id) :
    id ≤ e.generator.last := by
  obtain ⟨x, hx, rfl⟩ := subject_of_has (h.store_eq ▸ hid)
  exact h.drawn x hx

theorem below (h : e.Describes log) {id : RecordId} (hid : e.generator.last < id) :
    e.store.Below id where
  hotels _ hx := Nat.lt_of_le_of_lt (h.le_last (.inl hx)) hid
  users _ hx := Nat.lt_of_le_of_lt (h.le_last (.inr (.inl hx))) hid
  rooms _ hx := Nat.lt_of_le_of_lt (h.le_last (.inr (.inr (.inl hx)))) hid
  bookings _ hx := Nat.lt_of_le_of_lt (h.le_last (.inr (.inr (.inr hx)))) hid

/-- What a step does not touch, it still describes. -/
theorem congr {e' : Engine} (h : e.Describes log) (hstore : e'.store = e.store)
    (hgenerator : e.generator.last ≤ e'.generator.last) : e'.Describes log where
  store_eq := hstore.trans h.store_eq
  history := h.history
  drawn x hx := Nat.le_trans (h.drawn x hx) hgenerator

end Describes

/-! ## Proposals -/

theorem drawn_append {g : Generator} (hdrawn : ∀ x ∈ log, x.subject ≤ g.last)
    (hevent : event.subject ≤ g.last) : ∀ x ∈ log ++ [event], x.subject ≤ g.last := by
  intro x hx
  rcases List.mem_append.mp hx with hx | hx
  · exact hdrawn x hx
  · rw [List.mem_singleton.mp hx]
    exact hevent

/-- To reserve an address that is free changes nothing about the creation of its user, and giving it
up undoes it. -/
theorem reserveEmail_of_free {s : Store} {user : User} (hfree : s.userByEmail? user.email = none) :
    ∃ s', s.reserveEmail user.email user.id = (true, s') ∧
      s'.apply (.userCreated user) = s.apply (.userCreated user) ∧
      giveUp (.userCreated user) s' = s := by
  refine ⟨{ s with emails := s.emails.insert (Text.lowercase user.email) user.id }, ?_, ?_, ?_⟩
  · simp only [Store.reserveEmail, hfree]
  · change Store.mk _ _ ((s.emails.insert _ _).insert _ _) _ _ _ = _
    rw [insert_insert_self]
    rfl
  · have hheld : (s.emails.insert (Text.lowercase user.email) user.id)[Text.lowercase user.email]? =
        some user.id := by rw [lookup_insert, if_pos rfl]
    simp only [giveUp, Store.releaseEmail_eq, Store.userByEmail?, hheld, if_true]
    rw [erase_insert_of_absent hfree]

/-- After a decision the engine waits for the event that it proposed, or nothing has changed. -/
def Proposed (log : List Event) (result : Except LedgerError Proposal × Engine) : Prop :=
  match result with
  | (.ok (.write event), e) => e.Awaits log event
  | (_, e) => e.Describes log

/-- The engine waits for an event that its store allows. -/
theorem Describes.awaits (h : e.Describes log) {e' : Engine} (hallows : e.store.Allows event)
    (hlast : e.generator.last ≤ e'.generator.last) (hevent : event.subject ≤ e'.generator.last)
    (happlied : e'.store.apply event = e.store.apply event)
    (hgiven : giveUp event e'.store = e.store) : e'.Awaits log event where
  history := h.history.append_singleton (h.store_eq ▸ hallows)
  drawn := drawn_append (fun x hx => Nat.le_trans (h.drawn x hx) hlast) hevent
  applied := h.store_eq ▸ happlied
  given_up := h.store_eq ▸ hgiven

theorem Describes.holder_ne (h : e.Describes log) {email : String} {id holder : RecordId}
    (hid : e.generator.last < id) (hholder : e.store.userByEmail? email = some holder) :
    holder ≠ id := by
  obtain ⟨user, huser, -⟩ := h.sound.coherent.people.holder_iff.mp hholder
  exact RecordId.ne_of_lt ((h.below hid).users _ (mem_iff_lookup.mpr ⟨user, huser⟩))

theorem Describes.reserveEmail_cases (h : e.Describes log) {user : User} {g : Generator}
    (hid : e.generator.last < user.id) (hg : g.last = user.id)
    (hallows : (∀ (key : RecordId) (other : User), e.store.users[key]? = some other →
        Text.lowercase other.email ≠ Text.lowercase user.email) →
      e.store.Allows (.userCreated user)) :
    (∃ store, e.store.reserveEmail user.email user.id = (true, store) ∧
        ({ e with generator := g, store } : Engine).Awaits log (.userCreated user)) ∨
      e.store.reserveEmail user.email user.id = (false, e.store) := by
  have hlast : e.generator.last ≤ g.last := hg ▸ RecordId.le_of_lt hid
  cases hholder : e.store.userByEmail? user.email with
  | none =>
      obtain ⟨store, hreserve, happlied, hgiven⟩ := reserveEmail_of_free hholder
      have hfree : ∀ (key : RecordId) (other : User), e.store.users[key]? = some other →
          Text.lowercase other.email ≠ Text.lowercase user.email := by
        intro key other hother hemail
        have hheld := h.sound.coherent.people.holder_iff.mpr ⟨other, hother, hemail⟩
        cases hheld.symm.trans hholder
      exact .inl ⟨store, hreserve, h.awaits (hallows hfree) hlast (hg ▸ RecordId.le_refl _)
        happlied hgiven⟩
  | some holder =>
      refine .inr ?_
      simp only [Store.reserveEmail, hholder, h.holder_ne hid hholder, decide_false]

theorem giveUp_of_ne {s : Store} (h : ∀ user, event ≠ .userCreated user) : giveUp event s = s := by
  unfold giveUp
  split
  · next user => exact absurd rfl (h user)
  · rfl

theorem Describes.prepare (h : e.Describes log) {event : RecordId → Event}
    (hplan : e.store.Promises (.create event)) (m : Moment) :
    (e.prepare m event).2.journal = e.journal ∧ Proposed log (e.prepare m event) := by
  unfold Engine.prepare Generator.next
  cases hdraw : e.generator.draw? m with
  | none => exact ⟨rfl, h.congr rfl (RecordId.le_refl _)⟩
  | some id =>
      have hid := Generator.lt_of_draw? hdraw
      obtain ⟨hsubject, hallows⟩ := hplan id
      have hallowed := hallows (h.below hid)
      simp only
      -- Only the creation of a user touches the store before it is written.
      generalize event id = proposed at hsubject hallowed ⊢
      split
      · next user =>
          obtain rfl : user.id = id := hsubject
          have hallowed := fun hfree => hallowed fun user' huser =>
            Event.userCreated.inj huser ▸ hfree
          rcases h.reserveEmail_cases (g := ⟨user.id⟩) hid rfl hallowed with
            ⟨store, hreserve, hawaits⟩ | hreserve
          · rw [hreserve]
            exact ⟨rfl, hawaits⟩
          · rw [hreserve]
            exact ⟨rfl, h.congr rfl (RecordId.le_of_lt hid)⟩
      · next hother =>
          have hevent : ∀ user, proposed ≠ .userCreated user := fun user huser => hother user huser
          exact ⟨rfl, h.awaits (hallowed fun user huser => absurd huser (hevent user))
            (RecordId.le_of_lt hid) (hsubject ▸ RecordId.le_refl _) rfl (giveUp_of_ne hevent)⟩

/-- A decision leaves the journal alone, and proposes only what may follow the log. -/
theorem Describes.propose (h : e.Describes log) (m : Moment) (change : Change) :
    (e.propose m change).2.journal = e.journal ∧ Proposed log (e.propose m change) := by
  unfold Engine.propose
  cases hplan : e.store.plan change with
  | error error => exact ⟨rfl, h.congr rfl (RecordId.le_refl _)⟩
  | ok plan =>
      have hpromise := h.sound.promises_plan hplan
      cases plan with
      | keep reply => exact ⟨rfl, h⟩
      | write event =>
          obtain ⟨hhas, hallows, hevent⟩ := hpromise
          exact ⟨rfl, h.awaits hallows (RecordId.le_refl _) (h.le_last hhas) rfl
            (giveUp_of_ne hevent)⟩
      | create event => exact h.prepare hpromise m

/-! ## Changes and compactions -/

/-- A change leaves the log as it is, or commits one allowed event and adds it to the log if it
became durable. -/
theorem Describes.perform_cases (h : e.Describes log) (c : Conditions) (m : Moment)
    (change : Change) :
    let e' := (e.perform c m change).2
    e'.Describes log ∧ e'.journal = e.journal ∨
      ∃ event, Store.History Store.Allows (log ++ [event]) ∧
        ((e.journal.commit c [event] = (.ok (), e'.journal) ∧ e'.Describes (log ++ [event])) ∨
          ∃ error, e.journal.commit c [event] = (.error error, e'.journal) ∧ e'.Describes log) := by
  obtain ⟨hjournal, hproposed⟩ := h.propose m change
  unfold perform
  rcases hresult : e.propose m change with ⟨error | reply | event, e'⟩
  · rw [hresult] at hjournal hproposed
    exact .inl ⟨hproposed, hjournal⟩
  · rw [hresult] at hjournal hproposed
    exact .inl ⟨hproposed, hjournal⟩
  · rw [hresult] at hjournal hproposed
    refine .inr ⟨event, hproposed.history, ?_⟩
    simp only [commit]
    rw [show e'.journal = e.journal from hjournal]
    rcases hcommit : e.journal.commit c [event] with ⟨error | ⟨⟩, journal⟩
    · -- A reserved email address is given up again, and with it all that the proposal changed.
      refine .inr ⟨error, rfl, ?_, hproposed.history.of_isPrefix (List.prefix_append _ _),
        fun x hx => hproposed.drawn x (List.mem_append_left _ hx)⟩
      rw [← hproposed.given_up]
      cases event with
      | userCreated user => rfl
      | _ => rfl
    · refine .inl ⟨rfl, ?_, hproposed.history, hproposed.drawn⟩
      rw [Store.replay_append_singleton, ← hproposed.applied]
      rfl

/-- The snapshot is about nothing new. -/
theorem Describes.subject_snapshot (h : e.Describes log) {x : Event} (hx : x ∈ e.store.snapshot) :
    x.subject ≤ e.generator.last := by
  have hcoherent := h.sound.coherent
  have hlists := hcoherent.lists_snapshot
  refine h.le_last ?_
  cases x with
  | hotelCreated id name location rating =>
      obtain ⟨rooms, hhotel⟩ := (hlists.hotel_iff id name location rating).mpr hx
      exact .inl (mem_iff_lookup.mpr ⟨_, hhotel⟩)
  | userCreated user => exact .inr (.inl (mem_iff_lookup.mpr ⟨_, (hlists.user_iff user).mpr hx⟩))
  | roomCreated room =>
      exact .inr (.inr (.inl (Store.mem_rooms_of_room? ((hlists.room_iff room).mpr hx))))
  | bookingCreated b =>
      have hb := (hlists.booking_iff b).mpr hx
      refine .inr (.inr (.inr (mem_iff_lookup.mpr ⟨b.room, hcoherent.ledger.room_iff.mpr ?_⟩)))
      exact ⟨b.entry, List.mem_map_of_mem hb, rfl⟩
  | _ => cases Store.isCreation_of_mem_snapshot hx

/-- A compaction puts the snapshot in the place of the log, or leaves the log as it is. -/
theorem Describes.compact_cases (h : e.Describes log) (c : Conditions) :
    let e' := (e.compact c).2
    (e.journal.compact c e.store.snapshot = (.ok (), e'.journal) ∧
      e'.Describes e.store.snapshot) ∨
      ∃ error, e.journal.compact c e.store.snapshot = (.error error, e'.journal) ∧
        e'.Describes log := by
  unfold compact
  rcases hcompact : e.journal.compact c e.store.snapshot with ⟨error | ⟨⟩, journal⟩
  · exact .inr ⟨error, rfl, h.congr rfl (RecordId.le_refl _)⟩
  · exact .inl ⟨rfl, h.sound.replay_snapshot.symm, h.sound.history_snapshot,
      fun x hx => h.subject_snapshot hx⟩

/-- An engine that was just opened has the store of the log that it found. -/
theorem describes_openOn {file : Bytes}
    (h : Store.History Store.Allows (Log.recover file).events) :
    (openOn file).Describes (Log.recover file).events where
  store_eq := rfl
  history := h
  drawn _ hx := subject_le_generatorAfter hx

/-! ## Due compactions -/

/-- How the outcome of a compaction that was due is reported. -/
def Upkeep.ofCompaction : Except LedgerError Unit → Upkeep
  | .ok () => .compacted
  | .error error => .failed error

theorem compactIfDue_eq (e : Engine) (c : Conditions) (threshold : Nat) :
    e.compactIfDue c threshold =
      if e.journal.appends < max threshold 1 then (.notDue, e)
      else (.ofCompaction (e.compact c).1, (e.compact c).2) := by
  unfold compactIfDue
  rcases e.compact c with ⟨error | ⟨⟩, e'⟩
  · rfl
  · rfl

theorem notDue_iff (e : Engine) (c : Conditions) (threshold : Nat) :
    (e.compactIfDue c threshold).1 = .notDue ↔ e.journal.appends < max threshold 1 := by
  rw [compactIfDue_eq]
  split
  · next hlt => exact iff_of_true rfl hlt
  · next hdue =>
      rcases e.compact c with ⟨error | ⟨⟩, e'⟩
      · exact iff_of_false nofun hdue
      · exact iff_of_false nofun hdue

theorem compacted_iff (e : Engine) (c : Conditions) (threshold : Nat) :
    (e.compactIfDue c threshold).1 = .compacted ↔
      max threshold 1 ≤ e.journal.appends ∧ (e.compact c).1 = .ok () := by
  rw [compactIfDue_eq]
  split
  · next hlt => exact iff_of_false nofun fun h => Nat.not_le_of_lt hlt h.1
  · next hdue =>
      rw [and_iff_right (Nat.le_of_not_lt hdue)]
      rcases e.compact c with ⟨error | ⟨⟩, e'⟩
      · exact iff_of_false nofun nofun
      · exact iff_of_true rfl rfl

theorem failed_iff (e : Engine) (c : Conditions) (threshold : Nat) (error : LedgerError) :
    (e.compactIfDue c threshold).1 = .failed error ↔
      max threshold 1 ≤ e.journal.appends ∧ (e.compact c).1 = .error error := by
  rw [compactIfDue_eq]
  split
  · next hlt => exact iff_of_false nofun fun h => Nat.not_le_of_lt hlt h.1
  · next hdue =>
      rw [and_iff_right (Nat.le_of_not_lt hdue)]
      rcases e.compact c with ⟨error' | ⟨⟩, e'⟩
      · simp only [Upkeep.ofCompaction, Upkeep.failed.injEq, Except.error.injEq]
      · exact iff_of_false nofun nofun

theorem snd_compactIfDue_of_lt {threshold : Nat} (h : e.journal.appends < max threshold 1)
    (c : Conditions) : (e.compactIfDue c threshold).2 = e := by
  rw [compactIfDue_eq, if_pos h]

theorem snd_compactIfDue_of_le {threshold : Nat} (h : max threshold 1 ≤ e.journal.appends)
    (c : Conditions) : (e.compactIfDue c threshold).2 = (e.compact c).2 := by
  rw [compactIfDue_eq, if_neg (Nat.not_lt_of_le h)]

theorem compactIfDue_cases (e : Engine) (c : Conditions) (threshold : Nat) :
    (e.compactIfDue c threshold).2 = e ∨ (e.compactIfDue c threshold).2 = (e.compact c).2 := by
  rcases Nat.lt_or_ge e.journal.appends (max threshold 1) with hlt | hle
  · exact .inl (snd_compactIfDue_of_lt hlt c)
  · exact .inr (snd_compactIfDue_of_le hle c)

end Engine

end Lodging
