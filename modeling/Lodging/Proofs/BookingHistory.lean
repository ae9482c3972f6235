import Lodging.Engine.Queries
import Lodging.Proofs.Continuity
import Lodging.Proofs.Listings
import Lodging.Proofs.WrittenForms

/-!
# The history of a booking

A booking that was created is found from then on, whatever is asked of the engine, and through
closing and opening it, as long as failed batches are cut off the log and the log is found whole. It
stays as it was but for its flag, which is set by the one cancellation of it that is answered as
good, and is never taken back.
-/

namespace Lodging

open Log (Bytes Conditions Journal)

/-- Whether a caller asks for the cancellation of the booking. -/
def Change.cancels (booking : RecordId) : Change → Bool
  | .cancelBooking text _ => decide ((readId text).toOption = some booking)
  | _ => false

namespace Engine

variable {e e' : Engine} {action : Action} {c : Conditions} {change : Change} {event : Event}
variable {b : Booking} {id last : RecordId}

/-- Whether the action is a cancellation of the booking that is answered as good. -/
def cancels (e : Engine) (booking : RecordId) : Action → Bool
  | .change c m change => change.cancels booking && (e.perform c m change).1.isOk
  | _ => false

/-- How many cancellations of the booking are answered as good. -/
def cancellations (e : Engine) (booking : RecordId) : List Action → Nat
  | [] => 0
  | action :: rest =>
      (e.cancels booking action).toNat + (e.after action).cancellations booking rest

/-- Every batch that fails is cut off the log. -/
def RollsBack (e : Engine) (actions : List Action) : Prop :=
  e.Along (fun e action => (e.after action).journal.poisoned = false) actions

/-- Every batch that fails is cut off while nothing gets in the way of a rollback. -/
theorem Settled.rollsBack {actions : List Action} {log : List Event} (h : e.Settled log)
    (hrollback : ∀ action ∈ actions, action.conditions.rollbackFault = none) :
    e.RollsBack actions := by
  induction actions generalizing e log with
  | nil => trivial
  | cons action rest ih =>
      obtain ⟨log', hsettled | ⟨hfault, -⟩⟩ := h.after action
      · refine ⟨hsettled.carries.trusted, ih hsettled fun action' haction' => ?_⟩
        exact hrollback action' (List.mem_cons_of_mem _ haction')
      · exact absurd (hrollback action List.mem_cons_self) hfault

theorem cancels_change (e : Engine) (booking : RecordId) (c : Conditions) (m : Moment)
    (change : Change) : e.cancels booking (.change c m change) =
      (change.cancels booking && (e.perform c m change).1.isOk) := rfl

/-! ## Prefixes of a run -/

theorem cancellations_append (e : Engine) (booking : RecordId) (earlier later : List Action) :
    e.cancellations booking (earlier ++ later) =
      e.cancellations booking earlier + (e.run earlier).cancellations booking later := by
  induction earlier generalizing e with
  | nil => exact (Nat.zero_add _).symm
  | cons action rest ih =>
      change _ + (e.after action).cancellations booking (rest ++ later) = _
      rw [ih, ← Nat.add_assoc]
      rfl

/-! ## One booking -/

/-- The booking stands in the ledger, and does so whatever is read back. -/
structure Records (e : Engine) (b : Booking) : Prop where
  steady : e.Steady
  keeps : e.Retains fun s => s.Keeps b

/-- What is proposed is the cancellation of the booking, which was not canceled before, or it has
nothing to do with the booking. -/
theorem Records.spares_or_cancels (h : e.Records b) (hevent : e.Proposes change event last) :
    event.Spares b ∧ change.cancels b.id = false ∨
      event = .bookingCanceled b.id b.room ∧ change.cancels b.id = true ∧ b.canceled = false := by
  have hkeeps := h.keeps.1
  have hid : b.id ≤ e.generator.last := h.steady.shows_le
    (.inr (.inr (.inr ⟨b.room, b.entry, List.mem_map_of_mem hkeeps.mem_bookingsIn, rfl⟩)))
  have hroom : b.room ≤ e.generator.last := h.steady.shows_le
    (.inr (.inr (.inl (Store.mem_rooms_of_mem_bookingsIn hkeeps.mem_bookingsIn))))
  cases hevent with
  | create hplan hlt =>
      have hnew {known : RecordId} (hknown : known ≤ e.generator.last) : last ≠ known :=
        (RecordId.ne_of_lt (Nat.lt_of_le_of_lt hknown hlt)).symm
      cases Store.means_of_plan hplan with
      | createHotel name location rating => exact .inl ⟨trivial, rfl⟩
      | createUser firstName lastName email isAdmin => exact .inl ⟨trivial, rfl⟩
      | createRoom kind basePrice price hhotelId hhotel => exact .inl ⟨hnew hroom, rfl⟩
      | createBooking user guests hroomId hlasts hslot hfree => exact .inl ⟨hnew hid, rfl⟩
  | write hplan =>
      cases Store.means_of_plan hplan with
      | updateHotel update hread hhotel => exact .inl ⟨trivial, rfl⟩
      | updateUser update hread huser => exact .inl ⟨trivial, rfl⟩
      | deleteUser hread huser => exact .inl ⟨trivial, rfl⟩
      | @cancelBooking booking owner id room slot b' hread hroomOf hslot hfound howner hcanceled =>
          by_cases hsame : id = b.id
          · subst hsame
            obtain rfl := Option.some.inj (hkeeps.room_eq.symm.trans hroomOf)
            obtain rfl := Option.some.inj ((hkeeps.booking?_current hslot).symm.trans hfound)
            refine .inr ⟨rfl, ?_, hcanceled⟩
            simp [Change.cancels, hread, Except.toOption]
          · refine .inl ⟨hsame, ?_⟩
            simp [Change.cancels, hread, Except.toOption, hsame]

theorem cancels_false_of_keep {s : Store} {reply : Reply} (h : s.plan change = .ok (.keep reply)) :
    change.cancels id = false := by
  cases Store.means_of_plan h with
  | _ => rfl

/-- A change leaves the booking as it is, or is the one that cancels it. -/
theorem Records.perform (h : e.Records b) {m : Moment}
    (hrollback : (e.perform c m change).2.journal.poisoned = false) :
    e.cancels b.id (.change c m change) = false ∧ (e.perform c m change).2.Records b ∨
      e.cancels b.id (.change c m change) = true ∧ b.canceled = false ∧
        (e.perform c m change).2.Records { b with canceled := true } := by
  have hsteady := h.steady.perform c m change
  have hemails {b : Booking} (s t : Store) (hst : s.SameButEmails t) (hs : s.Keeps b) :
      t.Keeps b := hst.keeps hs
  have houtcome := e.outcome c m change
  simp only [cancels_change]
  generalize e.perform c m change = r at hrollback hsteady houtcome ⊢
  cases houtcome with
  | @unwritten answer e' hjournal hstore hlast hanswer =>
      refine .inl ⟨?_, hsteady, h.keeps.of_unwritten hemails hjournal hstore⟩
      cases answer with
      | error error => exact Bool.and_false _
      | ok reply =>
          rw [cancels_false_of_keep (hanswer reply rfl)]
          rfl
  | @failed event error e' hevent hcommit hstore =>
      refine .inl ⟨Bool.and_false _, hsteady, ?_⟩
      refine h.keeps.of_failed hemails (fun hpoisoned => ?_) h.steady.idle hcommit hstore
      cases hrollback.symm.trans hpoisoned
  | @written event answer e' hevent hcommit hstore hanswer =>
      rcases h.spares_or_cancels hevent with ⟨hspares, hcancels⟩ | ⟨rfl, hcancels, hcanceled⟩
      · have hafter := h.keeps.imp fun s hs => hs.apply hspares
        refine .inl ⟨by rw [hcancels]; rfl, hsteady, ?_⟩
        exact hafter.of_written hemails h.steady.idle hcommit hstore
      · have hafter := h.keeps.imp fun s hs => hs.bookingCanceled
        refine .inr ⟨by rw [hcancels, hanswer]; rfl, hcanceled, hsteady, ?_⟩
        exact hafter.of_written hemails h.steady.idle hcommit hstore

theorem Records.after (h : e.Records b) (huncut : e.Uncut action)
    (hrollback : (e.after action).journal.poisoned = false) :
    e.cancels b.id action = false ∧ (e.after action).Records b ∨
      e.cancels b.id action = true ∧ b.canceled = false ∧
        (e.after action).Records { b with canceled := true } := by
  have hsteady := h.steady.after action
  cases action with
  | change c m change => exact h.perform hrollback
  | compact c =>
      exact .inl ⟨rfl, hsteady, h.keeps.compact h.steady (fun s hs hb => hb.replay_snapshot hs) c⟩
  | reopen c bytes => exact .inl ⟨rfl, hsteady, h.keeps.reopen huncut⟩

/-- Through a whole run the booking is canceled at most once, and stays canceled. -/
theorem Records.run {actions : List Action} (h : e.Records b) (hwhole : e.Whole actions)
    (hrollback : e.RollsBack actions) :
    (e.run actions).Records
        { b with canceled := b.canceled || decide (0 < e.cancellations b.id actions) } ∧
      b.canceled.toNat + e.cancellations b.id actions ≤ 1 := by
  induction actions generalizing e b with
  | nil => simpa [Engine.run, cancellations, Bool.toNat_le] using h
  | cons action rest ih =>
      change ((e.after action).run rest).Records _ ∧ _
      rcases h.after hwhole.1 hrollback.1 with ⟨hcancels, hafter⟩ | ⟨hcancels, hcanceled, hafter⟩
      · have hrest := ih hafter hwhole.2 hrollback.2
        simpa [cancellations, hcancels] using hrest
      · have hrest := ih hafter hwhole.2 hrollback.2
        simpa [cancellations, hcancels, hcanceled] using hrest

theorem Records.booking_eq (h : e.Records b) : e.booking b.id.hex = .ok b := by
  refine booking_eq_ok_iff.mpr ⟨b.id, ?_, h.keeps.1.booking?_eq h.steady.keyed⟩
  rw [readId, RecordId.parse_hex]

/-- A booking of a known room that has a new identifier stands in the ledger once it is written. -/
theorem Steady.retains_keeps_apply (h : e.Steady) (hroom : b.room ∈ e.store.rooms)
    (hid : e.generator.last < b.id) :
    e.Retains fun s => (s.apply (.bookingCreated b)).Keeps b := by
  have hkeeps (s : Store) (hroom : b.room ∈ s.rooms) (hnew : ¬ s.Shows b.id) :
      (s.apply (.bookingCreated b)).Keeps b :=
    Store.keeps_apply_bookingCreated hroom fun room x hx hid =>
      hnew (.inr (.inr (.inr ⟨room, x, hx, hid⟩)))
  obtain ⟨hstore, hlogs⟩ := h.retains_not_shows hid
  exact ⟨hkeeps _ hroom hstore, fun log hlog => hkeeps _ (h.rooms hlog _ hroom) (hlogs log hlog)⟩

/-- A booking that was created stands in the ledger, and is not canceled. -/
theorem Steady.records_of_created (h : e.Steady) {m : Moment} {room : String} {user : RecordId}
    {guests : UInt32} {stay : Stay}
    (hcreated : (e.perform c m (.createBooking room user guests stay)).1 = .ok (.booking b)) :
    (e.perform c m (.createBooking room user guests stay)).2.Records b ∧ b.canceled = false := by
  have hsteady := h.perform c m (.createBooking room user guests stay)
  have houtcome := e.outcome c m (.createBooking room user guests stay)
  generalize e.perform c m (.createBooking room user guests stay) = r at hcreated hsteady houtcome ⊢
  cases houtcome with
  | unwritten hjournal hstore hlast hanswer => cases Store.means_of_plan (hanswer _ hcreated)
  | failed hevent hcommit hstore => cases hcreated
  | @written event answer e' hevent hcommit hstore hanswer =>
      obtain rfl : answer = .ok (.booking b) := hcreated
      generalize e'.generator.last = last at hevent
      cases hevent with
      | write hplan => cases Store.means_of_plan hplan
      | create hplan hlt =>
          cases Store.means_of_plan hplan with
          | createBooking user guests hroomId hlasts hslot hfree =>
              obtain rfl := Reply.booking.inj (Except.ok.inj hanswer)
              refine ⟨⟨hsteady, ?_⟩, rfl⟩
              refine Retains.of_written (fun s t hst hs => hst.keeps hs) ?_ h.idle hcommit hstore
              exact h.retains_keeps_apply (mem_iff_lookup.mpr ⟨_, hslot⟩) hlt

/-- A booking that was created is found from then on, whatever is asked of the engine, as long as
failed batches are cut off and the engine is opened again on its whole log. It stays as it was but
for its flag, which tells whether a cancellation of it was good. There is at most one such
cancellation, and once the flag is set the booking does not change any more. -/
theorem booking_run_of_created (file : Bytes) (before later : List Action) {m : Moment}
    {room : String} {user : RecordId} {guests : UInt32} {stay : Stay}
    (hcreated : (((openOn file).run before).perform c m
      (.createBooking room user guests stay)).1 = .ok (.booking b))
    (hwhole : (((openOn file).run before).after
      (.change c m (.createBooking room user guests stay))).Whole later)
    (hrollback : (((openOn file).run before).after
      (.change c m (.createBooking room user guests stay))).RollsBack later) :
    let e := ((openOn file).run before).after (.change c m (.createBooking room user guests stay))
    e.cancellations b.id later ≤ 1 ∧
      (e.run later).booking b.id.hex =
        .ok { b with canceled := decide (0 < e.cancellations b.id later) } ∧
      ∀ earlier b', earlier <+: later → (e.run earlier).booking b.id.hex = .ok b' →
        b'.canceled = true → (e.run later).booking b.id.hex = .ok b' := by
  intro e
  obtain ⟨hrecords, hfresh⟩ := ((steady_openOn file).run before).records_of_created hcreated
  have hfound {actions : List Action} (hfront : actions <+: later) :
      e.cancellations b.id actions ≤ 1 ∧ (e.run actions).booking b.id.hex =
        .ok { b with canceled := decide (0 < e.cancellations b.id actions) } := by
    obtain ⟨rest, rfl⟩ := hfront
    obtain ⟨hrun, hfew⟩ := hrecords.run (Along.of_append hwhole) (Along.of_append hrollback)
    rw [hfresh, Bool.toNat_false, Nat.zero_add] at hfew
    rw [hfresh, Bool.false_or] at hrun
    exact ⟨hfew, hrun.booking_eq⟩
  refine ⟨(hfound List.prefix_rfl).1, (hfound List.prefix_rfl).2, ?_⟩
  intro earlier b' hfront hb' hcanceled
  obtain rfl := Except.ok.inj ((hfound hfront).2.symm.trans hb')
  have hearlier : 0 < e.cancellations b.id earlier := of_decide_eq_true hcanceled
  have hlater : 0 < e.cancellations b.id later := by
    obtain ⟨rest, rfl⟩ := hfront
    rw [cancellations_append]
    exact Nat.add_pos_left hearlier _
  rw [(hfound List.prefix_rfl).2, decide_eq_true hearlier, decide_eq_true hlater]

/-- A booking is canceled on a full disk, then by its owner, and then by an admin. The log is
compacted, and the engine opened on it again. -/
theorem booking_run_of_canceled :
    let user := RecordId.ofParts 3 0
    let stay : Stay := ⟨⟨2030, 5, 1, by decide, by decide, by decide⟩,
      ⟨2030, 5, 4, by decide, by decide, by decide⟩⟩
    let b : Booking := ⟨.ofParts 9 2, .ofParts 9 1, user, 2, stay, false⟩
    let before : List Action :=
      [.change .good ⟨9, 0⟩ (.createHotel "Inn" "Hill" 3),
        .change .good ⟨8, 0⟩ (.createRoom (RecordId.ofParts 9 0).hex .king .zero .zero)]
    let create : Change := .createBooking (RecordId.ofParts 9 1).hex user 2 stay
    let later : List Action :=
      [.change { capacity := some 0 } ⟨8, 0⟩ (.cancelBooking b.id.hex none),
        .change .good ⟨8, 0⟩ (.cancelBooking b.id.hex (some user)),
        .change .good ⟨8, 0⟩ (.cancelBooking b.id.hex none), .compact .good, .reopen .good 1000]
    let e := ((openOn []).run before).after (.change .good ⟨8, 0⟩ create)
    (((openOn []).run before).perform .good ⟨8, 0⟩ create).1 = .ok (.booking b) ∧
      e.Whole later ∧ e.RollsBack later ∧
      (e.run later).booking b.id.hex = .ok { b with canceled := true } := by
  intro user stay b before create later e
  have hcreated :
      (((openOn []).run before).perform .good ⟨8, 0⟩ create).1 = .ok (.booking b) := by
    simp only [openOn_nil, before, create, b, stay, user]
    decide +kernel
  have hwhole : e.Whole later := by
    refine ⟨trivial, trivial, trivial, trivial, ?_, trivial⟩
    change List.length _ ≤ 1000
    simp only [e, openOn_nil, before, create, b, stay, user]
    decide +kernel
  have hrollback : e.RollsBack later := by
    have hbefore : ∀ action ∈ before ++ [.change .good ⟨8, 0⟩ create],
        action.conditions.rollbackFault = none := by
      simp [before, Action.conditions, Conditions.good]
    obtain ⟨log, hsettled⟩ := settled_openOn_nil.run_of_rollback hbefore
    exact Settled.rollsBack hsettled (by simp [later, Action.conditions, Conditions.good])
  have hcancellations : e.cancellations b.id later = 1 := by
    simp only [e, openOn_nil, before, later, create, b, stay, user]
    decide +kernel
  obtain ⟨-, hbooking, -⟩ := booking_run_of_created [] before later hcreated hwhole hrollback
  rw [hcancellations] at hbooking
  exact ⟨hcreated, hwhole, hrollback, hbooking⟩

end Engine

end Lodging
