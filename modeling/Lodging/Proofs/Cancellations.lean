import Lodging.Proofs.Admissions
import Lodging.Proofs.BookingHistory

/-!
# Cancellations

A request for a cancellation is answered by what the ledger has for its caller, to whom the bookings
of others are not there. The booking that is canceled keeps its place in the book of its room, for
writers and readers, and nothing is changed but its flag. From then on its nights can be booked.
-/

namespace Lodging

open Log (Conditions)

namespace RoomBook

/-- A cancellation finds the one booking of its identifier. -/
theorem exists_strike_eq {bookings : List Booking} {b : Booking} (hb : b ∈ bookings)
    (hunique : ∀ b' ∈ bookings, b'.id = b.id → b' = b) :
    ∃ before after, bookings = before ++ b :: after ∧
      strike b.id bookings = before ++ { b with canceled := true } :: after := by
  induction bookings with
  | nil => cases hb
  | cons first rest ih =>
      by_cases hid : first.id = b.id
      · obtain rfl := hunique first List.mem_cons_self hid
        exact ⟨[], rest, rfl, if_pos rfl⟩
      · have hrest : b ∈ rest := by
          rcases List.mem_cons.mp hb with rfl | hb
          · exact absurd rfl hid
          · exact hb
        obtain ⟨before, after, rfl, hstrike⟩ :=
          ih hrest fun b' hb' => hunique b' (List.mem_cons_of_mem _ hb')
        refine ⟨first :: before, after, rfl, ?_⟩
        rw [strike, if_neg hid, hstrike]
        rfl

theorem mem_strike_of_ne {bookings : List Booking} {b : Booking} {id : RecordId} (hne : b.id ≠ id) :
    b ∈ strike id bookings ↔ b ∈ bookings := by
  have hfilter : (strike id bookings).filter (·.id = b.id) = bookings.filter (·.id = b.id) :=
    filter_strike_of_ne hne.symm
  have hmem (l : List Booking) : b ∈ l ↔ b ∈ l.filter (·.id = b.id) := by simp
  rw [hmem, hfilter, ← hmem]

end RoomBook

namespace Store

variable {s t : Store} {booking : String} {owner : Option RecordId} {id : RecordId} {b : Booking}

/-! ## Plans -/

theorem Coherent.plan_cancelBooking_of_mem (h : s.Coherent) (hread : readId booking = .ok b.id)
    (hb : b ∈ s.allBookings) (owner : Option RecordId) :
    s.plan (.cancelBooking booking owner) =
      if owner.any (· ≠ b.user) then .error (.notFound b.id)
      else if b.canceled then .error (.alreadyCanceled b.id)
      else .ok (.write (.bookingCanceled b.id b.room)) := by
  have hmem := h.mem_allBookings.mp hb
  obtain ⟨slot, hslot⟩ := mem_iff_lookup.mp (mem_rooms_of_mem_bookingsIn hmem)
  have hroomOf : s.roomOfBooking? b.id = some b.room :=
    h.ledger.room_iff.mpr ⟨b.entry, List.mem_map_of_mem hmem, rfl⟩
  have hbook : s.currentBook? b.room = some slot.current := congrArg (Option.map _) hslot
  have hfound : slot.current.booking? b.id = some b := by
    refine RoomBook.booking?_of_unique (bookingsIn_eq hslot ▸ hmem) fun b' hb' hid => ?_
    exact h.eq_of_id_eq (bookingsIn_eq hslot ▸ hb') hmem hid
  simp only [plan, planCancelBooking, hread, ok_bind, hroomOf, hbook, hfound, orNotFound]
  split
  · rfl
  · split
    · rfl
    · rfl

/-- The booking may be canceled by its owner and, where no owner is named, by anyone. -/
theorem Coherent.plan_cancelBooking_of_visible (h : s.Coherent)
    (hread : readId booking = .ok b.id) (hb : b ∈ s.allBookings)
    (howner : ∀ user, owner = some user → user = b.user) :
    s.plan (.cancelBooking booking owner) =
      if b.canceled then .error (.alreadyCanceled b.id)
      else .ok (.write (.bookingCanceled b.id b.room)) := by
  rw [h.plan_cancelBooking_of_mem hread hb, if_neg]
  cases owner with
  | none => exact Bool.false_ne_true
  | some user => simpa using howner user rfl

theorem Coherent.plan_cancelBooking_of_absent (h : s.Coherent) (hread : readId booking = .ok id)
    (hnone : ∀ b ∈ s.allBookings, b.id ≠ id) (owner : Option RecordId) :
    s.plan (.cancelBooking booking owner) = .error (.notFound id) := by
  have hroomOf : s.roomOfBooking? id = none := by
    refine Option.eq_none_iff_forall_not_mem.mpr fun room hroom => ?_
    obtain ⟨b, hb, hid⟩ := exists_entry_iff.mp (h.ledger.room_iff.mp hroom)
    have hroom : b.room = room := h.ledger.room_eq (List.mem_map_of_mem (f := Booking.entry) hb)
    exact hnone b (h.mem_allBookings.mpr (hroom ▸ hb)) hid
  simp only [plan, planCancelBooking, hread, ok_bind, hroomOf, orNotFound, error_bind]

theorem Coherent.plan_cancelBooking_of_hidden (h : s.Coherent) (hread : readId booking = .ok id)
    (hhidden : ∀ b ∈ s.allBookings, b.id = id → ∃ user, owner = some user ∧ user ≠ b.user) :
    s.plan (.cancelBooking booking owner) = .error (.notFound id) := by
  by_cases hknown : ∃ b ∈ s.allBookings, b.id = id
  · obtain ⟨b, hb, rfl⟩ := hknown
    obtain ⟨user, rfl, huser⟩ := hhidden b hb rfl
    rw [h.plan_cancelBooking_of_mem hread hb, if_pos]
    exact decide_eq_true huser
  · push Not at hknown
    exact h.plan_cancelBooking_of_absent hread hknown owner

/-! ## One canceled booking -/

theorem Coherent.keeps (h : s.Coherent) (hb : b ∈ s.allBookings) : s.Keeps b := by
  have hmem := h.mem_allBookings.mp hb
  refine ⟨h.ledger.room_iff.mpr ⟨b.entry, List.mem_map_of_mem hmem, rfl⟩, fun room => ?_⟩
  have hfilter (b' : Booking) :
      b' ∈ (s.bookingsIn room).filter (·.id = b.id) ↔ b' = b ∧ room = b.room := by
    rw [List.mem_filter, decide_eq_true_iff]
    constructor
    · rintro ⟨hb', hid⟩
      obtain rfl := h.eq_of_id_eq hb' hmem hid
      exact ⟨rfl, (h.ledger.room_eq (List.mem_map_of_mem (f := Booking.entry) hb')).symm⟩
    · rintro ⟨rfl, rfl⟩
      exact ⟨hmem, rfl⟩
  split
  · next hroom =>
      have hnodup := (h.ledger.bookings_nodup room).filter (decide <| ·.id = b.id)
      refine List.perm_singleton.mp
        ((List.perm_ext_iff_of_nodup hnodup (List.nodup_singleton b)).mpr fun b' => ?_)
      rw [hfilter, List.mem_singleton, and_iff_left hroom]
  · next hroom =>
      refine List.eq_nil_iff_forall_not_mem.mpr fun b' hb' => ?_
      exact hroom ((hfilter b').mp hb').2

/-- In the second store the booking is canceled, in its place in the book of its room, for writers
and readers. All else is the same. -/
structure Cancels (s t : Store) (b : Booking) : Prop where
  same : t = { s with rooms := t.rooms }
  book : ∃ room before after, s.rooms[b.room]? = some (.shown ⟨room, before ++ b :: after⟩) ∧
    t.rooms[b.room]? = some (.shown ⟨room, before ++ { b with canceled := true } :: after⟩)
  otherRooms : ∀ room, room ≠ b.room → t.rooms[room]? = s.rooms[room]?

theorem Coherent.cancels_apply (h : s.Coherent) (hb : b ∈ s.allBookings) :
    s.Cancels (s.apply (.bookingCanceled b.id b.room)) b := by
  have hmem := h.mem_allBookings.mp hb
  obtain ⟨slot, hslot⟩ := mem_iff_lookup.mp (mem_rooms_of_mem_bookingsIn hmem)
  have hrooms := rooms_apply_of_booked (e := .bookingCanceled b.id b.room) rfl hslot
  rw [bookingsIn_eq hslot] at hmem
  obtain ⟨before, after, hbookings, hstrike⟩ := RoomBook.exists_strike_eq hmem fun b' hb' hid => by
    rw [← bookingsIn_eq hslot] at hmem hb'
    exact h.eq_of_id_eq hb' hmem hid
  refine ⟨?_, ⟨slot.current.room, before, after, ?_, ?_⟩, fun room hne => ?_⟩
  · rw [apply_bookingCanceled hslot]
  · rw [hslot, h.shown hslot, ← hbookings]
    rfl
  · rw [hrooms, lookup_insert, if_pos rfl, ← hstrike]
    rfl
  · rw [hrooms, lookup_insert, if_neg (Ne.symm hne)]

theorem Coherent.mem_allBookings_apply_bookingCanceled (h : s.Coherent) {b' : Booking}
    (hne : b'.id ≠ b.id) :
    b' ∈ (s.apply (.bookingCanceled b.id b.room)).allBookings ↔ b' ∈ s.allBookings := by
  have hcoherent := h.apply (e := .bookingCanceled b.id b.room) trivial
  rw [hcoherent.mem_allBookings, h.mem_allBookings, bookingsIn_apply_bookingCanceled]
  split
  · exact RoomBook.mem_strike_of_ne hne
  · rfl

end Store

namespace Engine

variable {e : Engine} {c : Conditions} {m : Moment} {id : RecordId} {b : Booking}

/-! ## Free nights -/

/-- What holds of the store of an engine whose log works is retained. -/
theorem retains_of_trusted {P : Store → Prop} {actions : List Action}
    (htrusted : ((openOn []).run actions).journal.poisoned = false)
    (h : P ((openOn []).run actions).store) : ((openOn []).run actions).Retains P := by
  obtain ⟨log, hsettled⟩ := settled_run_of_trusted htrusted
  refine ⟨h, fun log' hlog' => ?_⟩
  rw [hsettled.carries.leaves_iff.mp hlog', ← hsettled.describes.store_eq]
  exact h

/-- A booking of the ledger is recorded while the log works. -/
theorem records_of_mem {actions : List Action}
    (htrusted : ((openOn []).run actions).journal.poisoned = false)
    (hb : b ∈ ((openOn []).run actions).store.allBookings) :
    ((openOn []).run actions).Records b :=
  ⟨(steady_openOn []).run actions,
    retains_of_trusted htrusted ((sound_run actions).coherent.keeps hb)⟩

theorem RollsBack.trusted {actions : List Action} (h : e.RollsBack actions)
    (htrusted : e.journal.poisoned = false) : (e.run actions).journal.poisoned = false := by
  induction actions generalizing e with
  | nil => exact htrusted
  | cons action rest ih => exact ih h.2 h.1

/-- While the log accepts everything and identifiers are left, a request for a booking is accepted
exactly if nothing stands against it, where bookings of the given identifier do not count. -/
def Disregards (e : Engine) (id : RecordId) : Prop :=
  ∀ (c : Conditions) (m : Moment) (fresh : RecordId), c.Accepts →
    e.generator.draw? m = some fresh →
    ∀ (room : String) (user : RecordId) (guests : UInt32) (stay : Stay),
      (∃ reply, (e.perform c m (.createBooking room user guests stay)).1 = .ok reply) ↔
        ∃ roomId, RecordId.parse room = .ok roomId ∧ stay.checkIn < stay.checkOut ∧
          {night | stay.HasNight night}.encard ≤ 365 ∧ 1 ≤ guests ∧ guests ≤ 16 ∧
          roomId ∈ e.store.rooms ∧ ∀ b, b.id ≠ id → ¬ e.store.Conflicts roomId stay b

/-- A booking that stands in the ledger canceled takes no nights. -/
theorem Records.disregards {log : List Event} (h : e.Records b) (hcanceled : b.canceled = true)
    (hdescribes : e.Describes log) (htrusted : e.journal.poisoned = false) :
    e.Disregards b.id := by
  intro c m fresh hc hdraw room user guests stay
  obtain ⟨decision, hdecision, hanswer, -⟩ :=
    hdescribes.perform_createBooking hdraw hc htrusted room user guests stay
  have hother {roomId : RecordId} {b' : Booking} (hb' : e.store.Conflicts roomId stay b') :
      b'.id ≠ b.id := by
    intro hid
    obtain ⟨rfl, -⟩ := h.keeps.1.eq_of_mem hb'.mem hid
    cases hcanceled.symm.trans hb'.active
  rw [hanswer, exists_map_eq_ok_iff, hdecision.isOk_iff]
  refine exists_congr fun roomId => ?_
  have hfree : (∀ b', ¬ e.store.Conflicts roomId stay b') ↔
      ∀ b', b'.id ≠ b.id → ¬ e.store.Conflicts roomId stay b' :=
    ⟨fun hfree b' _ => hfree b', fun hfree b' hb' => hfree b' (hother hb') hb'⟩
  rw [hfree]

/-! ## Canceling a booking -/

theorem perform_of_cancelPlan {change : Change} {room : RecordId}
    (hplan : e.store.plan change = .ok (.write (.bookingCanceled id room))) (hc : c.Accepts)
    (htrusted : e.journal.poisoned = false) (hidle : e.journal.Idle) :
    (e.perform c m change).1 = .ok .done ∧
      (e.perform c m change).2.store = e.store.apply (.bookingCanceled id room) ∧
      (e.perform c m change).2.journal.poisoned = false := by
  obtain ⟨journal, hcommit⟩ := (Proposes.write hplan).commit_of_accepts hc htrusted
  simp only [perform, propose, hplan, commit, hcommit]
  exact ⟨rfl, rfl, (hidle.atRest_of_commit_ok hcommit).trusted⟩

/-- Once its cancellation is answered as done, a booking is recorded as canceled. -/
theorem Records.of_canceled (h : e.Records b) {booking : String} {owner : Option RecordId}
    (hread : readId booking = .ok b.id)
    (hanswer : (e.perform c m (.cancelBooking booking owner)).1 = .ok .done)
    (htrusted : (e.perform c m (.cancelBooking booking owner)).2.journal.poisoned = false) :
    (e.perform c m (.cancelBooking booking owner)).2.Records { b with canceled := true } := by
  have hcancels : e.cancels b.id (.change c m (.cancelBooking booking owner)) = true := by
    rw [cancels_change, hanswer, Change.cancels, hread]
    simp [Except.toOption, Except.isOk, Except.toBool]
  rcases h.perform htrusted with ⟨hspared, -⟩ | ⟨-, -, hrecords⟩
  · cases hcancels.symm.trans hspared
  · exact hrecords

/-- Readers find the booking canceled, and every other one as it was. -/
theorem booking_of_canceled {e' : Engine} (h : e.store.Coherent)
    (hkeeps : e'.store.Keeps { b with canceled := true })
    (hafter : e'.store = e.store.apply (.bookingCanceled b.id b.room)) (text : String) :
    e'.booking text =
      if readId text = .ok b.id then .ok { b with canceled := true } else e.booking text := by
  have h' : e'.store.Coherent := hafter ▸ h.apply (e := .bookingCanceled b.id b.room) trivial
  refine booking_eq_ite h h' (h'.mem_allBookings.mpr hkeeps.mem_bookingsIn) (fun b' hid => ?_) text
  rw [hafter]
  exact h.mem_allBookings_apply_bookingCanceled hid

/-- Whatever was asked of an engine that began on an empty log before, while its log works, a
request for a cancellation is refused if it names no identifier, or one that no booking of the
ledger has, or none of the caller's if the caller is no admin, and otherwise if the booking is
canceled already. Else it is answered as done, the booking is canceled for writers and readers, and
nothing else is changed. However the engine goes on, as long as failed batches are cut off and it
is opened again on its whole log, the booking stands in the way of no other one. -/
theorem run_cancellations_answered (actions : List Action) (hc : c.Accepts)
    (htrusted : ((openOn []).run actions).journal.poisoned = false)
    (booking : String) (owner : Option RecordId) :
    let e := (openOn []).run actions
    let r := e.perform c m (.cancelBooking booking owner)
    (∀ error, RecordId.parse booking = .error error →
        r.1 = .error (.invalidIdentifier error.kept)) ∧
      ∀ id, RecordId.parse booking = .ok id →
        ((∀ b ∈ e.bookings none, b.id = id → ∃ user, owner = some user ∧ user ≠ b.user) →
          r.1 = .error (.notFound id)) ∧
        ∀ b ∈ e.bookings none, b.id = id → (∀ user, owner = some user → user = b.user) →
          (b.canceled = true → r.1 = .error (.alreadyCanceled id)) ∧
          (b.canceled = false → r.1 = .ok .done ∧ e.store.Cancels r.2.store b ∧
            (∀ text, r.2.booking text =
              if readId text = .ok id then .ok { b with canceled := true } else e.booking text) ∧
            ∀ later, r.2.Whole later → r.2.RollsBack later →
              (r.2.run later).Disregards id) := by
  intro e r
  have hcoherent : e.store.Coherent := (sound_run actions).coherent
  have hsteady : e.Steady := (steady_openOn []).run actions
  refine ⟨fun error hread => ?_, fun id hread => ?_⟩
  · refine perform_of_plan_error ?_
    simp only [Store.plan, Store.planCancelBooking, readId, hread]
    rfl
  replace hread : readId booking = .ok id := Store.readId_eq_ok_iff.mpr hread
  refine ⟨fun hhidden => perform_of_plan_error
    (hcoherent.plan_cancelBooking_of_hidden hread hhidden), ?_⟩
  rintro b hb rfl howner
  have hplan := hcoherent.plan_cancelBooking_of_visible hread hb howner
  refine ⟨fun hcanceled => perform_of_plan_error ?_, fun hactive => ?_⟩
  · rw [hplan, if_pos hcanceled]
  rw [hactive, if_neg Bool.false_ne_true] at hplan
  obtain ⟨hanswer, hafter, htrusted'⟩ := perform_of_cancelPlan hplan hc htrusted hsteady.idle
  have hrecords := (records_of_mem htrusted hb).of_canceled hread hanswer htrusted'
  refine ⟨hanswer, hafter ▸ hcoherent.cancels_apply hb,
    booking_of_canceled hcoherent hrecords.keeps.1 hafter, fun later hwhole hrollback => ?_⟩
  have hdescribes := describes_run (actions ++ .change c m (.cancelBooking booking owner) :: later)
  rw [run_append] at hdescribes
  obtain ⟨log, hdescribes⟩ := hdescribes
  exact (hrecords.run hwhole hrollback).1.disregards rfl hdescribes (hrollback.trusted htrusted')

/-- A guest cannot cancel the booking of another one, and cancels its own. The log is compacted, and
the engine opened on it again. -/
theorem run_cancellations_answered_of_owner :
    let owner := RecordId.ofParts 3 0
    let id := RecordId.ofParts 7 0
    let stay : Stay := ⟨⟨2030, 5, 1, by decide, by decide, by decide⟩,
      ⟨2030, 5, 4, by decide, by decide, by decide⟩⟩
    let actions : List Action :=
      [.change .good ⟨5, 0⟩ (.createHotel "Inn" "Hill" 3),
        .change .good ⟨6, 0⟩ (.createRoom (RecordId.ofParts 5 0).hex .king .zero .zero),
        .change .good ⟨7, 0⟩ (.createBooking (RecordId.ofParts 6 0).hex owner 1 stay)]
    let later : List Action := [.compact .good, .reopen .good 1000]
    let e := (openOn []).run actions
    let r := e.perform .good ⟨8, 0⟩ (.cancelBooking id.hex (some owner))
    e.journal.poisoned = false ∧
      (e.perform .good ⟨8, 0⟩ (.cancelBooking id.hex (some (.ofParts 4 0)))).1 =
        .error (.notFound id) ∧
      r.1 = .ok .done ∧ r.2.Whole later ∧ r.2.RollsBack later ∧
      (r.2.run later).Disregards id := by
  intro owner id stay actions later e r
  let b : Booking := ⟨id, .ofParts 6 0, owner, 1, stay, false⟩
  have htrusted : e.journal.poisoned = false := by
    simp only [e, actions, openOn_nil]
    decide +kernel
  have hbookings : e.bookings none = [b] := by
    simp only [e, actions, openOn_nil]
    decide +kernel
  have huncut : (r.2.after (.compact .good)).Uncut (.reopen .good 1000) := by
    change List.length _ ≤ 1000
    simp only [r, e, actions, openOn_nil]
    decide +kernel
  have hsettled : ∃ log, e.Settled log :=
    settled_openOn_nil.run_of_rollback (by simp [actions, Action.conditions, Conditions.good])
  have hrun : (openOn []).run actions = e := rfl
  have hanswered := @run_cancellations_answered .good ⟨8, 0⟩ actions Log.Conditions.accepts_good
  rw [hrun] at hanswered
  have hwhole : r.2.Whole later := ⟨trivial, huncut, trivial⟩
  have hrollback : r.2.RollsBack later := by
    obtain ⟨log, hsettled⟩ := hsettled
    obtain ⟨log', hsettled' | ⟨hfault, -⟩⟩ :=
      hsettled.perform .good ⟨8, 0⟩ (.cancelBooking id.hex (some owner))
    · exact Settled.rollsBack hsettled' (by simp [later, Action.conditions, Conditions.good])
    · exact absurd rfl hfault
  have hread := RecordId.parse_hex id
  obtain ⟨hother, -⟩ := (hanswered htrusted id.hex (some (.ofParts 4 0))).2 id hread
  have hother := hother fun b' hb' _ => by
    rw [hbookings] at hb'
    rw [List.mem_singleton.mp hb']
    exact ⟨_, rfl, by decide⟩
  obtain ⟨-, hown⟩ := (hanswered htrusted id.hex (some owner)).2 id hread
  have hmem : b ∈ e.bookings none := hbookings ▸ List.mem_singleton_self b
  obtain ⟨hdone, -, -, hlater⟩ := (hown b hmem rfl fun _ huser => (Option.some.inj huser).symm).2 rfl
  exact ⟨htrusted, hother, hdone, hwhole, hrollback, hlater later hwhole hrollback⟩

end Engine

end Lodging
