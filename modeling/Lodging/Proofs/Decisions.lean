import Lodging.Proofs.Chronology
import Lodging.Proofs.Indexes
import Lodging.Proofs.Occupancy

/-!
# Decisions on bookings

A request for a booking comes to a room that can be had, or to the first of the reasons against it.
The only reason that depends on the other bookings is that an active one of the same room shares a
night with the stay: of those, the one that begins first is named.
-/

namespace Lodging

/-! ## Requests -/

/-- A stay that is long enough to be booked, and not too long. -/
structure Stay.Bookable (stay : Stay) : Prop where
  lasts : stay.checkIn < stay.checkOut
  short : {night | stay.HasNight night}.encard ≤ 365

theorem Stay.encard_nights_le_iff {stay : Stay} (h : stay.checkIn < stay.checkOut) :
    {night | stay.HasNight night}.encard ≤ 365 ↔ stay.nights ≤ Limits.nights := by
  rw [Stay.encard_nights h, Nat.cast_le_ofNat, Limits.nights]
  omega

theorem Stay.check_of_bookable {stay : Stay} (h : stay.Bookable) : stay.check = .ok () := by
  rw [Stay.check, if_pos h.lasts, decide_eq_true ((Stay.encard_nights_le_iff h.lasts).mp h.short)]
  rfl

theorem Stay.check_of_tooLong {stay : Stay} (h : stay.checkIn < stay.checkOut)
    (hlong : 365 < {night | stay.HasNight night}.encard) :
    stay.check = .error (.limitExceeded .stayLength) := by
  have hnights : ¬ stay.nights ≤ Limits.nights := fun hnights =>
    not_le_of_gt hlong ((Stay.encard_nights_le_iff h).mpr hnights)
  rw [Stay.check, if_pos h, decide_eq_false hnights]
  rfl

theorem checkGuests_of_within {guests : UInt32} (h : 1 ≤ guests ∧ guests ≤ 16) :
    checkGuests guests = .ok () := by
  have hsome : guests ≠ 0 := by
    rintro rfl
    exact absurd h.1 (by decide)
  rw [checkGuests, decide_eq_true hsome, decide_eq_true (show guests ≤ Limits.guests from h.2)]
  rfl

theorem checkGuests_of_many {guests : UInt32} (h : 16 < guests) :
    checkGuests guests = .error (.limitExceeded .tooManyGuests) := by
  have hsome : guests ≠ 0 := by
    rintro rfl
    exact absurd h (by decide)
  have hmany : ¬ guests ≤ Limits.guests := UInt32.not_le.mpr h
  rw [checkGuests, decide_eq_true hsome, decide_eq_false hmany]
  rfl

namespace Store

variable {s : Store} {room : String} {id : RecordId} {guests : UInt32} {stay : Stay}
variable {b : Booking}

/-- An active booking of the room that shares a night with the stay. -/
structure Conflicts (s : Store) (room : RecordId) (stay : Stay) (b : Booking) : Prop where
  mem : b ∈ s.bookingsIn room
  active : b.canceled = false
  shared : ∃ night, stay.HasNight night ∧ b.stay.HasNight night

/-- What a request for a booking comes to: the room that can be had, or the first of the reasons
against it, in the order in which they count. -/
inductive Decision (s : Store) (room : String) (guests : UInt32) (stay : Stay) :
    Except LedgerError RecordId → Prop
  | malformed {error : MalformedId} (hroom : RecordId.parse room = .error error) :
      s.Decision room guests stay (.error (.invalidIdentifier error.kept))
  | backwards {id : RecordId} (hroom : RecordId.parse room = .ok id)
      (hstay : ¬ stay.checkIn < stay.checkOut) :
      s.Decision room guests stay (.error (.invalidStay stay.checkIn stay.checkOut))
  | tooLong {id : RecordId} (hroom : RecordId.parse room = .ok id)
      (hstay : stay.checkIn < stay.checkOut)
      (hlong : 365 < {night | stay.HasNight night}.encard) :
      s.Decision room guests stay (.error (.limitExceeded .stayLength))
  | noGuests {id : RecordId} (hroom : RecordId.parse room = .ok id) (hstay : stay.Bookable)
      (hguests : guests = 0) :
      s.Decision room guests stay (.error (.limitExceeded .noGuests))
  | tooManyGuests {id : RecordId} (hroom : RecordId.parse room = .ok id) (hstay : stay.Bookable)
      (hguests : 16 < guests) :
      s.Decision room guests stay (.error (.limitExceeded .tooManyGuests))
  | noRoom {id : RecordId} (hroom : RecordId.parse room = .ok id) (hstay : stay.Bookable)
      (hguests : 1 ≤ guests ∧ guests ≤ 16) (hunknown : id ∉ s.rooms) :
      s.Decision room guests stay (.error (.notFound id))
  | taken {id : RecordId} {b : Booking} (hroom : RecordId.parse room = .ok id)
      (hstay : stay.Bookable) (hguests : 1 ≤ guests ∧ guests ≤ 16) (hknown : id ∈ s.rooms)
      (hconflict : s.Conflicts id stay b)
      (hfirst : ∀ b', s.Conflicts id stay b' → b' ≠ b → b.stay.checkIn < b'.stay.checkIn) :
      s.Decision room guests stay (.error (.roomUnavailable id b.id))
  | free {id : RecordId} (hroom : RecordId.parse room = .ok id) (hstay : stay.Bookable)
      (hguests : 1 ≤ guests ∧ guests ≤ 16) (hknown : id ∈ s.rooms)
      (hfree : ∀ b, ¬ s.Conflicts id stay b) :
      s.Decision room guests stay (.ok id)

/-- A room can be had exactly if none of the reasons stands against it. -/
theorem Decision.isOk_iff {decision : Except LedgerError RecordId}
    (h : s.Decision room guests stay decision) :
    (∃ id, decision = .ok id) ↔ ∃ id, RecordId.parse room = .ok id ∧
      stay.checkIn < stay.checkOut ∧ {night | stay.HasNight night}.encard ≤ 365 ∧
      1 ≤ guests ∧ guests ≤ 16 ∧ id ∈ s.rooms ∧ ∀ b, ¬ s.Conflicts id stay b := by
  constructor
  · rintro ⟨id, rfl⟩
    cases h with
    | free hroom hstay hguests hknown hfree =>
        exact ⟨id, hroom, hstay.lasts, hstay.short, hguests.1, hguests.2, hknown, hfree⟩
  · rintro ⟨id', hroom', hlasts, hshort, hsome, hfew, hknown, hfree⟩
    cases h with
    | malformed hroom => cases hroom.symm.trans hroom'
    | backwards hroom hstay => exact absurd hlasts hstay
    | tooLong hroom hstay hlong => exact absurd hshort (not_le_of_gt hlong)
    | noGuests hroom hstay hguests =>
        subst hguests
        exact absurd hsome (by decide)
    | tooManyGuests hroom hstay hguests => exact absurd hfew (UInt32.not_le.mpr hguests)
    | noRoom hroom hstay hguests hunknown =>
        cases hroom.symm.trans hroom'
        exact absurd hknown hunknown
    | taken hroom hstay hguests hknown hconflict hfirst =>
        cases hroom.symm.trans hroom'
        exact absurd hconflict (hfree _)
    | @free id hroom hstay hguests hknown hfree => exact ⟨id, rfl⟩

theorem bookingsIn_of_currentBook? {book : RoomBook} (hbook : s.currentBook? id = some book) :
    s.bookingsIn id = book.bookings := by
  rw [bookingsIn, hbook]
  rfl

theorem Sound.sorted_current (h : s.Sound) {book : RoomBook}
    (hbook : s.currentBook? id = some book) :
    book.bookings.Pairwise fun a b => a.stay.checkIn ≤ b.stay.checkIn := by
  rw [← bookingsIn_of_currentBook? hbook]
  exact (h.chronological.bookings id).imp Booking.Before.checkIn_le

theorem Sound.room_id_current (h : s.Sound) {book : RoomBook}
    (hbook : s.currentBook? id = some book) : book.room.id = id :=
  h.coherent.houses.room_id_eq (by rw [room?, hbook]; rfl)

/-- The look for a conflict finds the conflicting bookings. -/
theorem Sound.mem_overlapping_iff (h : s.Sound) {book : RoomBook}
    (hbook : s.currentBook? id = some book) (hstay : stay.checkIn < stay.checkOut) :
    b ∈ book.overlapping stay ↔ s.Conflicts id stay b := by
  have hlasts := (h.consistent id).lasts
  rw [RoomBook.mem_overlapping_iff (h.sorted_current hbook), ← bookingsIn_of_currentBook? hbook]
  constructor
  · rintro ⟨hb, hactive, hoverlaps⟩
    exact ⟨hb, Bool.not_eq_true' _ |>.mp hactive, (Stay.overlaps_iff hstay (hlasts b hb)).mp hoverlaps⟩
  · rintro ⟨hb, hactive, hshared⟩
    refine ⟨hb, ?_, (Stay.overlaps_iff hstay (hlasts b hb)).mpr hshared⟩
    rw [Booking.isActive, hactive]
    rfl

/-- Of two conflicting bookings one begins first. -/
theorem Sound.checkIn_lt_of_conflicts (h : s.Sound) {b' : Booking} (hb : s.Conflicts id stay b)
    (hb' : s.Conflicts id stay b') (hne : b' ≠ b) (hle : b.stay.checkIn ≤ b'.stay.checkIn) :
    b.stay.checkIn < b'.stay.checkIn := by
  have hlasts := (h.consistent id).lasts b hb.mem
  have hlasts' := (h.consistent id).lasts b' hb'.mem
  have happart := (h.consistent id).apart_of_ne hb.mem hb'.mem hne.symm
  have hshared := happart (by rw [Booking.isActive, hb.active]; rfl)
    (by rw [Booking.isActive, hb'.active]; rfl)
  refine Int.lt_iff_le_and_ne.mpr ⟨hle, fun hsame => ?_⟩
  -- Both would have the night of the day on which they begin.
  have hnight : b.stay.HasNight b.stay.checkIn := ⟨Int.le_refl _, hlasts⟩
  have hnight' : b'.stay.HasNight b.stay.checkIn := by
    rw [Day.rank_injective hsame]
    exact ⟨Int.le_refl _, hlasts'⟩
  rw [(Stay.overlaps_iff hlasts hlasts').mpr ⟨_, hnight, hnight'⟩] at hshared
  cases hshared

/-! ## Decisions -/

theorem readId_eq_ok_iff : readId room = .ok id ↔ RecordId.parse room = .ok id := by
  unfold readId
  cases RecordId.parse room with
  | error error => exact iff_of_false nofun nofun
  | ok id' => exact ⟨fun h => congrArg _ (Except.ok.inj h), fun h => congrArg _ (Except.ok.inj h)⟩

/-- The plan for a booking in a room that can be had. -/
def bookingPlan (user : RecordId) (guests : UInt32) (stay : Stay) (room : RecordId) : Plan :=
  .create fun id => .bookingCreated ⟨id, room, user, guests, stay, false⟩

theorem Sound.decision_of_room (h : s.Sound) (hroom : RecordId.parse room = .ok id)
    (hstay : stay.Bookable) (hguests : 1 ≤ guests ∧ guests ≤ 16) (user : RecordId) :
    ∃ decision, s.Decision room guests stay decision ∧
      (do
        let book ← orNotFound id (s.currentBook? id)
        book.checkFree stay
        return bookingPlan user guests stay id) = decision.map (bookingPlan user guests stay) := by
  cases hbook : s.currentBook? id with
  | none =>
      have hunknown : id ∉ s.rooms := not_mem_iff_lookup.mpr (Option.map_eq_none_iff.mp hbook)
      exact ⟨_, .noRoom hroom hstay hguests hunknown, rfl⟩
  | some book =>
      obtain ⟨slot, hslot, -⟩ := Option.map_eq_some_iff.mp hbook
      have hknown : id ∈ s.rooms := mem_iff_lookup.mpr ⟨slot, hslot⟩
      have hmem (b : Booking) := h.mem_overlapping_iff (b := b) hbook hstay.lasts
      change ∃ decision, _ ∧ (book.checkFree stay >>= fun _ => _) = _
      rw [RoomBook.checkFree]
      cases hconflicts : book.overlapping stay with
      | nil =>
          refine ⟨_, .free hroom hstay hguests hknown fun b hb => ?_, rfl⟩
          have hb := (hmem b).mpr hb
          rw [hconflicts] at hb
          cases hb
      | cons b rest =>
          have hfirst := RoomBook.checkIn_le_of_overlapping (h.sorted_current hbook) hconflicts
          have hb : s.Conflicts id stay b := (hmem b).mp (hconflicts ▸ List.mem_cons_self)
          refine ⟨_, .taken hroom hstay hguests hknown hb fun b' hb' hne => ?_, ?_⟩
          · exact h.checkIn_lt_of_conflicts hb hb' hne (hfirst b' ((hmem b').mpr hb'))
          · rw [h.room_id_current hbook]
            rfl

/-- A booking is planned exactly as it is decided. -/
theorem Sound.decision (h : s.Sound) (room : String) (user : RecordId) (guests : UInt32)
    (stay : Stay) : ∃ decision, s.Decision room guests stay decision ∧
      s.plan (.createBooking room user guests stay) =
        decision.map (bookingPlan user guests stay) := by
  simp only [plan, planCreateBooking, readId]
  cases hroom : RecordId.parse room with
  | error error => exact ⟨_, .malformed hroom, rfl⟩
  | ok id =>
      change ∃ decision, _ ∧ (stay.check >>= fun _ => checkGuests guests >>= fun _ => _) = _
      by_cases hlasts : stay.checkIn < stay.checkOut
      · by_cases hshort : {night | stay.HasNight night}.encard ≤ 365
        · have hstay : stay.Bookable := ⟨hlasts, hshort⟩
          rw [Stay.check_of_bookable hstay]
          by_cases hnone : guests = 0
          · refine ⟨_, .noGuests hroom hstay hnone, ?_⟩
            rw [hnone]
            rfl
          · by_cases hmany : guests ≤ 16
            · have hone : 1 ≤ guests := UInt32.le_iff_toNat_le.mpr
                (Nat.pos_of_ne_zero fun hzero => hnone (UInt32.toNat.inj hzero))
              have hguests : 1 ≤ guests ∧ guests ≤ 16 := ⟨hone, hmany⟩
              rw [checkGuests_of_within hguests]
              exact h.decision_of_room hroom hstay hguests user
            · refine ⟨_, .tooManyGuests hroom hstay (UInt32.not_le.mp hmany), ?_⟩
              rw [checkGuests_of_many (UInt32.not_le.mp hmany)]
              rfl
        · refine ⟨_, .tooLong hroom hlasts (not_le.mp hshort), ?_⟩
          rw [Stay.check_of_tooLong hlasts (not_le.mp hshort)]
          rfl
      · refine ⟨_, .backwards hroom hlasts, ?_⟩
        rw [Stay.check, if_neg hlasts]
        rfl

end Store

end Lodging
