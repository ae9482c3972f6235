import Lodging.Proofs.Compaction
import Mathlib.Data.List.Pairwise

/-!
# Logs in the order of creation

As long as new rooms and bookings have larger identifiers than the old ones, every list of a store
stands in an order that is determined by its members. Then a snapshot rebuilds the store itself.
Such a log is also free of double bookings if every booking that it creates finds its nights free.
-/

namespace Lodging

open Std (ExtTreeMap)

namespace Store

variable {s t : Store} {events past : List Event} {e : Event}

/-! ## Growing identifiers -/

/-- A new room or booking has a larger identifier than all before it. -/
def Precede (s : Store) : Event → Prop
  | .roomCreated room => ∀ id ∈ s.rooms, id < room.id
  | .bookingCreated b => ∀ id ∈ s.roomOfBooking, id < b.id
  | _ => True

/-- Hotels list their rooms, and users their bookings, in the order of creation, and so do rooms the
bookings of one check-in day. -/
structure Chronological (s : Store) : Prop where
  rooms : ∀ {id : RecordId} {hotel : Hotel}, s.hotels[id]? = some hotel →
    hotel.rooms.Pairwise (· < ·)
  bookings : ∀ room, (s.bookingsIn room).Pairwise Booking.Before
  ofUser : ∀ user, (s.bookingIdsOf user).Pairwise (· < ·)

theorem pairwise_append_singleton {ids : List RecordId} {id : RecordId}
    (h : ids.Pairwise (· < ·)) (hid : ∀ x ∈ ids, x < id) : (ids ++ [id]).Pairwise (· < ·) := by
  refine List.pairwise_append.mpr ⟨h, List.pairwise_singleton _ _, fun x hx y hy => ?_⟩
  rw [List.mem_singleton.mp hy]
  exact hid x hx

namespace Chronological

theorem congr (h : s.Chronological) (hhotels : t.hotels = s.hotels)
    (hbookings : ∀ room, t.bookingsIn room = s.bookingsIn room)
    (hofUser : t.bookingsOfUser = s.bookingsOfUser) : t.Chronological where
  rooms := by rw [hhotels]; exact h.rooms
  bookings := by simp only [hbookings]; exact h.bookings
  ofUser := by simp only [bookingIdsOf, hofUser]; exact h.ofUser

theorem roomCreated (h : s.Chronological) (hs : s.Coherent) {room : Room}
    (hnew : s.Admits (.roomCreated room)) (hlast : s.Precede (.roomCreated room)) :
    (s.apply (.roomCreated room)).Chronological where
  rooms {id hotel} hhotel := by
    rw [hotels_apply_roomCreated] at hhotel
    split at hhotel
    · obtain ⟨old, hold, rfl⟩ := Option.map_eq_some_iff.mp hhotel
      refine pairwise_append_singleton (h.rooms hold) fun other hother => hlast other ?_
      obtain ⟨r, hr, -⟩ := (hs.houses.mem_iff hold).mp hother
      exact mem_rooms_of_room? hr
    · exact h.rooms hhotel
  bookings id := by
    rw [bookingsIn_apply_roomCreated hnew.1]
    exact h.bookings id
  ofUser := h.ofUser

theorem bookingCreated (h : s.Chronological) (hs : s.Coherent) {b : Booking}
    (hnew : s.Admits (.bookingCreated b)) (hlast : s.Precede (.bookingCreated b)) :
    (s.apply (.bookingCreated b)).Chronological where
  rooms := by
    rw [(apply_of_booked (e := .bookingCreated b) rfl).1]
    exact h.rooms
  bookings room := by
    rw [bookingsIn_apply_bookingCreated hnew.2]
    split
    · refine RoomBook.pairwise_enter (h.bookings room) fun b' hb' => hlast _ ?_
      exact mem_iff_lookup.mpr ⟨room, hs.ledger.room_iff.mpr
        ⟨b'.entry, List.mem_map_of_mem (f := Booking.entry) hb', rfl⟩⟩
    · exact h.bookings room
  ofUser user := by
    rw [bookingIdsOf_apply_bookingCreated hnew.2]
    split
    · refine pairwise_append_singleton (h.ofUser user) fun id hid => hlast _ ?_
      obtain ⟨room, x, hx, hsame, -⟩ := hs.ledger.mem_ofUser_iff.mp hid
      exact mem_iff_lookup.mpr ⟨room, hs.ledger.room_iff.mpr ⟨x, hx, hsame⟩⟩
    · exact h.ofUser user

theorem bookingCanceled (h : s.Chronological) (booking room : RecordId) :
    (s.apply (.bookingCanceled booking room)).Chronological where
  rooms := by
    rw [(apply_of_booked (e := .bookingCanceled booking room) rfl).1]
    exact h.rooms
  bookings id := by
    rw [bookingsIn_apply_bookingCanceled]
    split
    · exact RoomBook.pairwise_strike (fun _ _ => Booking.Before.cancel) (h.bookings id)
    · exact h.bookings id
  ofUser user := by
    rw [bookingIdsOf, (s.indexes_apply_bookingCanceled booking room).2]
    exact h.ofUser user

theorem hotelUpdated (h : s.Chronological) (id : RecordId) (update : HotelUpdate) :
    (s.apply (.hotelUpdated id update)).Chronological where
  rooms hhotel := by
    obtain ⟨old, hold, -, hrooms⟩ := HousesAgree.exists_of_hotelUpdated hhotel
    exact hrooms ▸ h.rooms hold
  bookings := h.bookings
  ofUser := h.ofUser

theorem apply (h : s.Chronological) (hs : s.Coherent) (he : s.Admits e) (hlast : s.Precede e) :
    (s.apply e).Chronological := by
  cases e with
  | hotelCreated id name location rating =>
      refine ⟨fun {key hotel} hhotel => ?_, h.bookings, h.ofUser⟩
      rw [hotels_apply_hotelCreated] at hhotel
      split at hhotel
      · rw [← Option.some.inj hhotel]
        exact List.Pairwise.nil
      · exact h.rooms hhotel
  | hotelUpdated id update => exact h.hotelUpdated id update
  | userDeleted id =>
      obtain ⟨users, emails, heq, -⟩ := s.apply_userDeleted id
      rw [heq]
      exact h.congr rfl (fun _ => rfl) rfl
  | roomCreated room => exact h.roomCreated hs he hlast
  | bookingCreated b => exact h.bookingCreated hs he hlast
  | bookingCanceled booking room => exact h.bookingCanceled booking room
  | _ => exact h.congr rfl (fun _ => rfl) rfl

end Chronological

/-! ## Free nights -/

/-- A new booking lasts at least one night, and if it is active its nights are free. -/
def Offers (s : Store) : Event → Prop
  | .bookingCreated b => b.stay.checkIn < b.stay.checkOut ∧ ∀ b' ∈ s.bookingsIn b.room, b.Apart b'
  | _ => True

/-- No room is booked twice for a night. -/
def Consistent (s : Store) : Prop := ∀ room, RoomBook.Consistent (s.bookingsIn room)

theorem Consistent.apply (h : s.Consistent) (he : s.Admits e) (hfree : s.Offers e) :
    (s.apply e).Consistent := by
  cases e with
  | roomCreated room =>
      intro id
      rw [bookingsIn_apply_roomCreated he.1]
      exact h id
  | bookingCreated b =>
      intro id
      rw [bookingsIn_apply_bookingCreated he.2]
      split
      · next hroom => exact (h id).enter hfree.1 (hroom ▸ hfree.2)
      · exact h id
  | bookingCanceled booking room =>
      intro id
      rw [bookingsIn_apply_bookingCanceled]
      split
      · exact (h id).strike booking
      · exact h id
  | userDeleted id =>
      obtain ⟨users, emails, heq, -⟩ := s.apply_userDeleted id
      rw [heq]
      exact h
  | _ => exact h

/-! ## Sound stores -/

/-- The event is about new documents that find what they need, comes after all before it, and books
free nights only. -/
structure Allows (s : Store) (e : Event) : Prop where
  admits : s.Admits e
  precede : s.Precede e
  offers : s.Offers e

/-- The indexes agree with the documents, lists are in the order of creation, and no room is booked
twice. -/
structure Sound (s : Store) : Prop where
  coherent : s.Coherent
  chronological : s.Chronological
  consistent : s.Consistent

theorem sound_empty : empty.Sound where
  coherent := coherent_empty
  chronological := by
    constructor <;> simp [empty, bookingsIn, currentBook?, bookingIdsOf]
  consistent room := RoomBook.Consistent.nil

theorem Sound.apply (h : s.Sound) (he : s.Allows e) : (s.apply e).Sound where
  coherent := h.coherent.apply he.admits
  chronological := h.chronological.apply h.coherent he.admits he.precede
  consistent := h.consistent.apply he.admits he.offers

theorem History.sound (h : History Allows events) : (replay events).Sound :=
  h.invariant sound_empty fun _ _ hs he => hs.apply he

/-- A snapshot creates rooms and bookings in the order of their identifiers. -/
theorem Coherent.precede_snapshot (h : s.Coherent) : History Precede s.snapshot := by
  rintro past e rest hsplit
  obtain ⟨hsmaller, -⟩ := h.keyed.snapshot_split h.distinct hsplit.symm
  cases e with
  | roomCreated room =>
      intro id hid
      obtain ⟨other, hother, rfl⟩ := mem_rooms_replay.mp hid
      exact hsmaller _ hother rfl
  | bookingCreated b =>
      intro id hid
      obtain ⟨other, hother, rfl⟩ := mem_roomOfBooking_of_replay hid
      exact hsmaller _ hother rfl
  | _ => trivial

/-- A snapshot books no night twice if the store has no double bookings. -/
theorem Sound.offers_snapshot (h : s.Sound) : History Offers s.snapshot := by
  rintro past e rest hsplit
  cases e with
  | bookingCreated b =>
      have hlists := h.coherent.lists_snapshot
      have hb : .bookingCreated b ∈ s.snapshot :=
        hsplit ▸ List.mem_append_right _ List.mem_cons_self
      have hbook := (hlists.booking_iff b).mpr hb
      refine ⟨(h.consistent b.room).lasts b hbook, fun b' hb' => ?_⟩
      have hkeyed := h.coherent.keyed
      have hdistinct := h.coherent.distinct
      have hpast : History Fresh past :=
        (hkeyed.fresh_snapshot hdistinct).of_isPrefix (hsplit ▸ List.prefix_append _ _)
      have hin : ∀ x ∈ past, x ∈ s.snapshot := fun x hx => hsplit ▸ List.mem_append_left _ hx
      -- Both bookings are in the store, and there they are apart.
      have hlisted := hpast.lists fun x hx => isCreation_of_mem_snapshot (hin x hx)
      have hroom : b'.room = b.room := ((keyed_replay past).mem_bookingsIn_iff.mp hb').2
      have hmem := (hlisted.booking_iff b').mp (hroom ▸ hb')
      have hbook' := (hlists.booking_iff b').mpr (hin _ hmem)
      have hlt := (hkeyed.snapshot_split hdistinct hsplit.symm).1 _ hmem rfl
      have hne : b ≠ b' := by
        rintro rfl
        exact RecordId.ne_of_lt hlt rfl
      exact (h.consistent b.room).apart_of_ne hbook (hroom ▸ hbook') hne
  | _ => trivial

theorem Sound.history_snapshot (h : s.Sound) : History Allows s.snapshot :=
  fun past e rest hsplit => ⟨h.coherent.history_snapshot past e rest hsplit,
    h.coherent.precede_snapshot past e rest hsplit, h.offers_snapshot past e rest hsplit⟩

/-! ## Equal stores -/

theorem eq_of_perm_of_lt {ids ids' : List RecordId} (h : ids.Perm ids')
    (hids : ids.Pairwise (· < ·)) (hids' : ids'.Pairwise (· < ·)) : ids = ids' :=
  h.eq_of_pairwise (fun _ _ _ _ hlt hgt => absurd hgt (Nat.lt_asymm hlt)) hids hids'

theorem eq_of_rel {α : Type} {r : α → α → Prop} {a? b? : Option α} (h : Option.Rel r a? b?)
    (heq : ∀ a b, a? = some a → b? = some b → r a b → a = b) : a? = b? := by
  cases h with
  | none => rfl
  | some hrel => rw [heq _ _ rfl rfl hrel]

section

variable (hs : s.Sound) (ht : t.Sound) (h : SameContents s t)
include hs ht h

theorem Sound.hotels_eq : s.hotels = t.hotels := by
  refine ExtTreeMap.ext_getElem? fun id => eq_of_rel (h.hotels id) ?_
  rintro hotel hotel' hhotel hhotel' ⟨hperm, hsame⟩
  rw [← hsame, ← eq_of_perm_of_lt hperm (hs.chronological.rooms hhotel)
    (ht.chronological.rooms hhotel')]

theorem Sound.rooms_eq : s.rooms = t.rooms := by
  refine ExtTreeMap.ext_getElem? fun id => eq_of_rel (h.rooms id) ?_
  rintro slot slot' hslot hslot' ⟨⟨hroom, hperm⟩, -⟩
  have hsorted := hs.chronological.bookings id
  have hsorted' := ht.chronological.bookings id
  rw [bookingsIn_eq hslot] at hsorted
  rw [bookingsIn_eq hslot'] at hsorted'
  have hbookings := hperm.eq_of_pairwise
    (fun _ _ _ _ hlt hgt => absurd hgt hlt.asymm) hsorted hsorted'
  have hbook : slot.current = slot'.current := RoomBook.ext hroom hbookings
  rw [hs.coherent.shown hslot, ht.coherent.shown hslot', hbook]

theorem Sound.bookingsOfUser_eq : s.bookingsOfUser = t.bookingsOfUser := by
  refine ExtTreeMap.ext_getElem? fun user => ?_
  have hids := eq_of_perm_of_lt (h.bookingIdsOf user) (hs.chronological.ofUser user)
    (ht.chronological.ofUser user)
  rw [hs.coherent.ledger.bookingsOfUser_eq, ht.coherent.ledger.bookingsOfUser_eq, hids]

/-- Sound stores with the same contents are equal. -/
theorem Sound.eq_of_sameContents : s = t := by
  ext1
  · exact hs.hotels_eq ht h
  · exact h.users
  · exact h.emails
  · exact hs.rooms_eq ht h
  · exact h.roomOfBooking
  · exact hs.bookingsOfUser_eq ht h

end

theorem Sound.replay_snapshot (h : s.Sound) : replay s.snapshot = s := by
  have hsame := h.coherent.sameContents h.coherent.history_snapshot.coherent
    h.coherent.lists_snapshot h.coherent.lists_replay_snapshot
  exact (h.eq_of_sameContents h.history_snapshot.sound hsame).symm

end Store

end Lodging
