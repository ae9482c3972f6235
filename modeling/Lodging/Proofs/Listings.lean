import Mathlib.Data.List.Sort
import Lodging.Engine.Queries
import Lodging.Proofs.EngineRuns

/-!
# What look-ups find

The indexes of a store lead to all that the books of the rooms and the lists of the hotels hold, and
to nothing else. So a booking is found by its identifier exactly if it is in the ledger, and the
bookings of a user are those of the ledger that name the user, in the same order.
-/

namespace Lodging

namespace Store

variable {s : Store}

/-- Every index says the same as the documents. Bookings are distinct over all rooms, a booking
leads to the room in whose book it stands, a user to all bookings made for the user, and a hotel
lists its rooms in the order of their identifiers. Readers of a room see what writers see. -/
structure Indexed (s : Store) : Prop where
  ids_nodup : ((s.rooms.values.flatMap (·.current.bookings)).map (·.id)).Nodup
  roomOf_iff : ∀ {id room : RecordId}, s.roomOfBooking? id = some room ↔
    ∃ b ∈ s.bookingsIn room, b.id = id
  room_eq : ∀ {room : RecordId} {b : Booking}, b ∈ s.bookingsIn room → b.room = room
  ofUser_nodup : ∀ user, (s.bookingIdsOf user).Nodup
  mem_ofUser_iff : ∀ {id user : RecordId}, id ∈ s.bookingIdsOf user ↔
    ∃ room, ∃ b ∈ s.bookingsIn room, b.id = id ∧ b.user = user
  hotel_known : ∀ {id : RecordId} {room : Room}, s.room? id = some room →
    room.id = id ∧ ∃ hotel, s.hotel? room.hotel = some hotel
  rooms_lt : ∀ {id : RecordId} {hotel : Hotel}, s.hotel? id = some hotel →
    hotel.rooms.Pairwise (· < ·)
  mem_rooms_iff : ∀ {id room : RecordId} {hotel : Hotel}, s.hotel? id = some hotel →
    (room ∈ hotel.rooms ↔ ∃ r, s.room? room = some r ∧ r.hotel = id)
  published_eq : ∀ room, s.publishedBook? room = s.currentBook? room

theorem exists_entry_iff {room : RecordId} {p : Entry → Prop} :
    (∃ x ∈ s.entriesIn room, p x) ↔ ∃ b ∈ s.bookingsIn room, p b.entry := by
  simp only [entriesIn, List.mem_map, exists_exists_and_eq_and]

theorem Coherent.publishedBook?_eq (h : s.Coherent) (room : RecordId) :
    s.publishedBook? room = s.currentBook? room := h.keyed.publishedBook?_eq room

theorem Coherent.flatMap_current (h : s.Coherent) :
    s.rooms.values.flatMap (·.current.bookings) =
      s.rooms.values.flatMap (·.published.bookings) := by
  refine List.flatMap_congr fun slot hslot => ?_
  obtain ⟨room, hslot⟩ := mem_values.mp hslot
  rw [h.slot_eq hslot]

theorem Sound.indexed (h : s.Sound) : s.Indexed where
  ids_nodup := by
    rw [h.coherent.flatMap_current]
    exact List.pairwise_map.mpr (h.coherent.keyed.pairwise_bookings h.coherent.distinct)
  roomOf_iff := h.coherent.ledger.room_iff.trans exists_entry_iff
  room_eq hb := h.coherent.ledger.room_eq (List.mem_map_of_mem (f := Booking.entry) hb)
  ofUser_nodup := h.coherent.ledger.ofUser_nodup
  mem_ofUser_iff :=
    h.coherent.ledger.mem_ofUser_iff.trans (exists_congr fun room => exists_entry_iff)
  hotel_known hroom := ⟨h.coherent.houses.room_id_eq hroom,
    mem_iff_lookup.mp (h.coherent.houses.hotel_mem hroom)⟩
  rooms_lt := h.chronological.rooms
  mem_rooms_iff := h.coherent.houses.mem_iff
  published_eq := h.coherent.publishedBook?_eq

/-! ## Bookings -/

/-- An identifier belongs to one booking only. -/
theorem Coherent.eq_of_id_eq (h : s.Coherent) {room room' : RecordId} {b b' : Booking}
    (hb : b ∈ s.bookingsIn room) (hb' : b' ∈ s.bookingsIn room') (hid : b.id = b'.id) : b = b' := by
  obtain rfl := h.ledger.room_unique (List.mem_map_of_mem (f := Booking.entry) hb)
    (List.mem_map_of_mem (f := Booking.entry) hb') hid
  have hnodup := h.ledger.nodup room
  rw [entriesIn, List.map_map] at hnodup
  exact List.inj_on_of_nodup_map hnodup hb hb' hid

/-- A booking is found by its identifier exactly if it is in the ledger. -/
theorem Coherent.booking?_eq_some_iff (h : s.Coherent) {id : RecordId} {b : Booking} :
    s.booking? id = some b ↔ b ∈ s.allBookings ∧ b.id = id := by
  simp only [booking?, Option.bind_eq_bind, Option.bind_eq_some_iff, h.mem_allBookings,
    h.publishedBook?_eq]
  constructor
  · rintro ⟨room, -, book, hbook, hfound⟩
    obtain ⟨hmem, hid⟩ := RoomBook.mem_of_booking? hfound
    have hmem : b ∈ s.bookingsIn room := by rwa [bookingsIn, hbook]
    have hroom : b.room = room := h.ledger.room_eq (List.mem_map_of_mem (f := Booking.entry) hmem)
    exact ⟨hroom ▸ hmem, hid⟩
  · rintro ⟨hmem, rfl⟩
    obtain ⟨slot, hslot⟩ := mem_iff_lookup.mp (mem_rooms_of_mem_bookingsIn hmem)
    have hentry := List.mem_map_of_mem (f := Booking.entry) hmem
    refine ⟨b.room, h.ledger.room_iff.mpr ⟨b.entry, hentry, rfl⟩, slot.current,
      congrArg (Option.map _) hslot, RoomBook.booking?_of_unique ?_ fun b' hmem' hid => ?_⟩
    · rwa [bookingsIn_eq hslot] at hmem
    · rw [← bookingsIn_eq hslot] at hmem'
      exact h.eq_of_id_eq hmem' hmem hid

/-- A list in the order of identifiers is determined by its members. -/
theorem eq_of_mem_iff_of_lt {bookings other : List Booking}
    (hmem : ∀ b, b ∈ bookings ↔ b ∈ other) (h : bookings.Pairwise fun a b => a.id < b.id)
    (h' : other.Pairwise fun a b => a.id < b.id) : bookings = other := by
  have : Std.Asymm fun a b : Booking => a.id < b.id := ⟨fun _ _ => Nat.lt_asymm⟩
  exact h.eq_of_mem_iff h' hmem

/-- The bookings of a user are those of the ledger that name the user. -/
theorem Sound.bookingsOf_eq_filter (h : s.Sound) (user : RecordId) :
    s.bookingsOf user = s.allBookings.filter (·.user = user) := by
  have hcoherent := h.coherent
  have hsorted : (s.bookingsOf user).Pairwise fun a b => a.id < b.id := by
    refine pairwise_lt_byId ((h.chronological.ofUser user).filterMap _ ?_)
    intro id id' hlt b hb b' hb'
    rw [(hcoherent.booking?_eq_some_iff.mp hb).2, (hcoherent.booking?_eq_some_iff.mp hb').2]
    exact RecordId.ne_of_lt hlt
  have hsorted' := hcoherent.pairwise_allBookings.filter (decide <| ·.user = user)
  refine eq_of_mem_iff_of_lt (fun b => ?_) hsorted hsorted'
  simp only [bookingsOf, mem_byId, List.mem_filterMap, hcoherent.booking?_eq_some_iff,
    List.mem_filter, decide_eq_true_eq, h.indexed.mem_ofUser_iff]
  constructor
  · rintro ⟨id, ⟨room, b', hb', hid, huser⟩, hb, rfl⟩
    obtain rfl := hcoherent.eq_of_id_eq hb' (hcoherent.mem_allBookings.mp hb) hid
    exact ⟨hb, huser⟩
  · rintro ⟨hb, huser⟩
    exact ⟨b.id, ⟨b.room, b, hcoherent.mem_allBookings.mp hb, rfl, huser⟩, hb, rfl⟩

end Store

namespace Engine

theorem booking_eq_ok_iff {e : Engine} {text : String} {b : Booking} :
    e.booking text = .ok b ↔ ∃ id, readId text = .ok id ∧ e.store.booking? id = some b := by
  simp only [booking, bind_eq_ok_iff, orNotFound_eq_ok_iff, Store.booking?, Option.bind_eq_bind,
    Option.bind_eq_some_iff]

/-- Every state that an engine reaches from an empty log is sound. -/
theorem sound_run (actions : List Action) : ((openOn []).run actions).store.Sound := by
  obtain ⟨log, h⟩ := describes_run actions
  exact h.sound

theorem sound_after_run (actions : List Action) (action : Action) :
    (((openOn []).run actions).after action).store.Sound := by
  have hsound := sound_run (actions ++ [action])
  rwa [run_append] at hsound

/-- Whatever is asked of an engine that began on an empty log, whatever the disk does, and wherever
its log is cut, the indexes agree with the documents. Hence the bookings of a user are those of the
whole ledger that name the user, and a booking is found exactly if it is in the ledger. -/
theorem run_indexed (actions : List Action) :
    let e := (openOn []).run actions
    e.store.Indexed ∧
      (∀ user, e.bookings (some user) = (e.bookings none).filter (·.user = user)) ∧
      ∀ text b, e.booking text = .ok b ↔ readId text = .ok b.id ∧ b ∈ e.bookings none := by
  intro e
  have h : e.store.Sound := sound_run actions
  refine ⟨h.indexed, h.bookingsOf_eq_filter, fun text b => ?_⟩
  simp only [booking_eq_ok_iff, h.coherent.booking?_eq_some_iff]
  constructor
  · rintro ⟨id, hid, hmem, rfl⟩
    exact ⟨hid, hmem⟩
  · rintro ⟨hid, hmem⟩
    exact ⟨b.id, hid, hmem, rfl⟩

end Engine

end Lodging
