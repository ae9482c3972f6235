import Lodging.Proofs.Indexes

/-!
# Stores of any log: documents under their keys

Whatever a log says, documents stand under their own identifiers, bookings stand in the books of
their rooms, and readers see what writers see. As long as a log enters no two bookings with the same
identifier, its store has no two of them either, however often rooms are created anew.
-/

namespace Lodging

open Std (ExtTreeMap)

/-- The book is of the room of the given identifier, and so are its bookings. -/
structure RoomBook.Of (book : RoomBook) (room : RecordId) : Prop where
  room_id : book.room.id = room
  bookings : ∀ b ∈ book.bookings, b.room = room

namespace RoomBook.Of

variable {book : RoomBook} {room : RecordId}

theorem new (room : Room) : (RoomBook.new room).Of room.id where
  room_id := rfl
  bookings _ hb := (List.not_mem_nil hb).elim

theorem insert {b : Booking} (h : book.Of b.room) : (book.insert b).Of b.room where
  room_id := h.room_id
  bookings b' hb' := by
    rcases mem_enter.mp hb' with rfl | hb'
    · rfl
    · exact h.bookings b' hb'

theorem cancel (h : book.Of room) (id : RecordId) : (book.cancel id).Of room where
  room_id := h.room_id
  bookings b hb := by
    rcases mem_strike hb with hb | ⟨b', hb', rfl⟩
    · exact h.bookings b hb
    · exact h.bookings b' hb'

end RoomBook.Of

namespace Store

variable {s t : Store} {e : Event} {id : RecordId} {log : List Event}

/-! ## Documents under their identifiers -/

/-- Documents stand under their own identifiers, bookings in the books of their rooms, and readers
of a room see what writers see. -/
structure Keyed (s : Store) : Prop where
  hotel_id : ∀ {id : RecordId} {hotel : Hotel}, s.hotels[id]? = some hotel → hotel.id = id
  user_id : ∀ {id : RecordId} {user : User}, s.users[id]? = some user → user.id = id
  book : ∀ {id : RecordId} {slot : RoomSlot}, s.rooms[id]? = some slot →
    ∃ book : RoomBook, slot = .shown book ∧ book.Of id

theorem keyed_empty : empty.Keyed := by
  constructor <;> simp [empty]

namespace Keyed

theorem congr (h : s.Keyed) (hhotels : t.hotels = s.hotels) (husers : t.users = s.users)
    (hrooms : t.rooms = s.rooms) : t.Keyed where
  hotel_id := by rw [hhotels]; exact h.hotel_id
  user_id := by rw [husers]; exact h.user_id
  book := by rw [hrooms]; exact h.book

/-- Readers of a room see what its writers see. -/
theorem publishedBook?_eq (h : s.Keyed) (room : RecordId) :
    s.publishedBook? room = s.currentBook? room := by
  unfold publishedBook? currentBook?
  cases hslot : s.rooms[room]? with
  | none => rfl
  | some slot =>
      obtain ⟨book, rfl, -⟩ := h.book hslot
      rfl

theorem hotel_id_of_insert (h : s.Keyed) {key : RecordId} {new hotel : Hotel} (hnew : new.id = key)
    (hhotel : (s.hotels.insert key new)[id]? = some hotel) : hotel.id = id := by
  rw [lookup_insert] at hhotel
  split at hhotel
  · next hkey => rw [← Option.some.inj hhotel, hnew, hkey]
  · exact h.hotel_id hhotel

theorem hotel_id_of_modify (h : s.Keyed) {key : RecordId} {f : Hotel → Hotel} {hotel : Hotel}
    (hf : ∀ old, (f old).id = old.id) (hhotel : (s.hotels.modify key f)[id]? = some hotel) :
    hotel.id = id := by
  rw [lookup_modify] at hhotel
  split at hhotel
  · obtain ⟨old, hold, rfl⟩ := Option.map_eq_some_iff.mp hhotel
    rw [hf, h.hotel_id hold]
  · exact h.hotel_id hhotel

theorem book_of_insert (h : s.Keyed) {room : RecordId} {new : RoomBook} (hnew : new.Of room)
    {slot : RoomSlot} (hslot : (s.rooms.insert room (.shown new))[id]? = some slot) :
    ∃ book : RoomBook, slot = .shown book ∧ book.Of id := by
  rw [lookup_insert] at hslot
  split at hslot
  · next hroom => exact ⟨new, (Option.some.inj hslot).symm, hroom ▸ hnew⟩
  · exact h.book hslot

/-- The book that an event about bookings puts in the place of the old one is of the same room. -/
theorem after (h : s.Keyed) {room : RecordId} {slot : RoomSlot}
    (hbooked : e.bookedRoom? = some room) (hslot : s.rooms[room]? = some slot) :
    (slot.current.after e).Of room := by
  obtain ⟨book, rfl, hbook⟩ := h.book hslot
  cases e with
  | bookingCreated b =>
      obtain rfl := Option.some.inj hbooked
      exact hbook.insert
  | bookingCanceled id room' => exact hbook.cancel id
  | _ => cases hbooked

theorem apply (h : s.Keyed) (e : Event) : (s.apply e).Keyed := by
  cases hbooked : e.bookedRoom? with
  | some room =>
      obtain ⟨hhotels, husers, -⟩ := apply_of_booked (s := s) hbooked
      cases hslot : s.rooms[room]? with
      | none => rwa [apply_of_unknown_room hbooked hslot]
      | some slot =>
          refine ⟨by rw [hhotels]; exact h.hotel_id, by rw [husers]; exact h.user_id, ?_⟩
          rw [rooms_apply_of_booked hbooked hslot]
          exact h.book_of_insert (h.after hbooked hslot)
  | none =>
      cases e with
      | hotelCreated id name location rating =>
          exact ⟨h.hotel_id_of_insert rfl, h.user_id, h.book⟩
      | hotelUpdated id update =>
          exact ⟨h.hotel_id_of_modify fun old => rfl, h.user_id, h.book⟩
      | userCreated user =>
          refine ⟨h.hotel_id, fun {id u} hu => ?_, h.book⟩
          rw [users_apply_userCreated] at hu
          split at hu
          · next hid => rw [← Option.some.inj hu, hid]
          · exact h.user_id hu
      | userUpdated id update =>
          refine ⟨h.hotel_id, fun {key u} hu => ?_, h.book⟩
          rw [users_apply_userUpdated] at hu
          split at hu
          · obtain ⟨old, hold, rfl⟩ := Option.map_eq_some_iff.mp hu
            exact (h.user_id hold : old.id = key)
          · exact h.user_id hu
      | userDeleted id =>
          obtain ⟨users, emails, heq, -⟩ := s.apply_userDeleted id
          refine ⟨by rw [heq]; exact h.hotel_id, fun {key u} hu => ?_, by rw [heq]; exact h.book⟩
          rw [users_apply_userDeleted] at hu
          split at hu
          · cases hu
          · exact h.user_id hu
      | roomCreated room =>
          exact ⟨h.hotel_id_of_modify fun old => rfl, h.user_id, h.book_of_insert (.new room)⟩
      | bookingCreated b => cases hbooked
      | bookingCanceled id room => cases hbooked

end Keyed

theorem keyed_replay (log : List Event) : (replay log).Keyed := by
  have hlog : History (fun _ _ => True) log := fun _ _ _ _ => trivial
  exact hlog.invariant keyed_empty fun _ e hs _ => hs.apply e

/-! ## Bookings under their identifiers -/

theorem entriesIn_apply_roomCreated (s : Store) (room : Room) (id : RecordId) :
    (s.apply (.roomCreated room)).entriesIn id = if room.id = id then [] else s.entriesIn id := by
  rw [entriesIn, bookingsIn_of_insert (rooms_apply_roomCreated s room) id]
  split
  · rfl
  · rfl

/-- An event puts one booking into the book of a room, empties it, or leaves its entries alone. -/
theorem entriesIn_apply_cases (s : Store) (e : Event) (room : RecordId) :
    (s.apply e).entriesIn room = s.entriesIn room ∨ (s.apply e).entriesIn room = [] ∨
      ∃ b, e = .bookingCreated b ∧ b.room = room ∧
        ((s.apply e).entriesIn room).Perm (b.entry :: s.entriesIn room) := by
  cases e with
  | bookingCreated b =>
      by_cases hknown : b.room ∈ s.rooms
      · have hperm := entriesIn_apply_bookingCreated hknown room
        by_cases hroom : b.room = room
        · rw [if_pos hroom] at hperm
          exact .inr (.inr ⟨b, rfl, hroom, hperm⟩)
        · refine .inl ?_
          rw [entriesIn, bookingsIn_apply_bookingCreated hknown, if_neg hroom, entriesIn]
      · rw [apply_of_unknown_room rfl (not_mem_iff_lookup.mp hknown)]
        exact .inl rfl
  | bookingCanceled id room' => exact .inl (s.entriesIn_apply_bookingCanceled id room' room)
  | roomCreated room' =>
      rw [entriesIn_apply_roomCreated]
      split
      · exact .inr (.inl rfl)
      · exact .inl rfl
  | userDeleted id =>
      obtain ⟨users, emails, heq, -⟩ := s.apply_userDeleted id
      rw [heq]
      exact .inl rfl
  | _ => exact .inl rfl

theorem mem_entriesIn_of_apply {room : RecordId} {x : Entry}
    (hx : x ∈ (s.apply e).entriesIn room) :
    x ∈ s.entriesIn room ∨ ∃ b, e = .bookingCreated b ∧ b.room = room ∧ x = b.entry := by
  rcases s.entriesIn_apply_cases e room with heq | heq | ⟨b, rfl, hroom, hperm⟩
  · exact .inl (heq ▸ hx)
  · rw [heq] at hx
    cases hx
  · rcases List.mem_cons.mp (hperm.mem_iff.mp hx) with rfl | hx
    · exact .inr ⟨b, rfl, hroom, rfl⟩
    · exact .inl hx

theorem exists_entry_of_apply {room : RecordId} (h : ∃ x ∈ (s.apply e).entriesIn room, x.id = id) :
    (∃ x ∈ s.entriesIn room, x.id = id) ∨ ∃ b, e = .bookingCreated b ∧ b.id = id := by
  obtain ⟨x, hx, hid⟩ := h
  rcases mem_entriesIn_of_apply hx with hx | ⟨b, rfl, -, rfl⟩
  · exact .inl ⟨x, hx, hid⟩
  · exact .inr ⟨b, rfl, hid⟩

/-- The entries of a replayed store are those of bookings that the log enters. -/
theorem exists_bookingCreated_of_entry {room : RecordId} {x : Entry}
    (hx : x ∈ (replay log).entriesIn room) : ∃ b, .bookingCreated b ∈ log ∧ b.id = x.id := by
  obtain ⟨_, hmem, b, rfl, hid⟩ := exists_reason_of_replay
    (P := fun s => ∃ y ∈ s.entriesIn room, y.id = x.id)
    (by simp [empty, entriesIn, bookingsIn, currentBook?]) (fun _ _ => exists_entry_of_apply)
    ⟨x, hx, rfl⟩
  exact ⟨b, hmem, hid⟩

/-- No two bookings of the ledger have the same identifier. -/
structure Distinct (s : Store) : Prop where
  nodup : ∀ room, ((s.entriesIn room).map (·.id)).Nodup
  room_unique : ∀ {room room' : RecordId} {x x' : Entry}, x ∈ s.entriesIn room →
    x' ∈ s.entriesIn room' → x.id = x'.id → room = room'

theorem distinct_empty : empty.Distinct := by
  constructor <;> simp [empty, entriesIn, bookingsIn, currentBook?]

theorem Distinct.apply (h : s.Distinct)
    (hnew : ∀ b, e = .bookingCreated b → ∀ room, ∀ x ∈ s.entriesIn room, x.id ≠ b.id) :
    (s.apply e).Distinct where
  nodup room := by
    rcases s.entriesIn_apply_cases e room with heq | heq | ⟨b, rfl, -, hperm⟩
    · exact heq ▸ h.nodup room
    · exact heq ▸ List.nodup_nil
    · refine (hperm.map _).nodup_iff.mpr (List.nodup_cons.mpr ⟨fun hmem => ?_, h.nodup room⟩)
      obtain ⟨x, hx, hid⟩ := List.mem_map.mp hmem
      exact hnew b rfl room x hx hid
  room_unique {room room' x x'} hx hx' hid := by
    rcases mem_entriesIn_of_apply hx with hold | ⟨b, rfl, hroom, rfl⟩
    · rcases mem_entriesIn_of_apply hx' with hold' | ⟨b, rfl, -, rfl⟩
      · exact h.room_unique hold hold' hid
      · exact absurd hid (hnew b rfl room x hold)
    · rcases mem_entriesIn_of_apply hx' with hold' | ⟨b', heq, hroom', -⟩
      · exact absurd hid.symm (hnew b rfl room' x' hold')
      · rw [← hroom, ← hroom', Event.bookingCreated.inj heq]

/-- No two bookings that the log enters have the same identifier. -/
def EntersOnce (log : List Event) : Prop := ((log.filterMap Event.entered?).map (·.id)).Nodup

instance (log : List Event) : Decidable (EntersOnce log) :=
  inferInstanceAs (Decidable (List.Nodup _))

theorem EntersOnce.distinct (h : EntersOnce log) : (replay log).Distinct := by
  induction log using List.reverseRecOn with
  | nil => exact replay_nil ▸ distinct_empty
  | append_singleton past e ih =>
      rw [EntersOnce, List.filterMap_append, List.map_append] at h
      obtain ⟨hpast, -, hapart⟩ := List.nodup_append.mp h
      rw [replay_append_singleton]
      refine (ih hpast).apply ?_
      rintro b rfl room x hx hid
      obtain ⟨b', hb', hid'⟩ := exists_bookingCreated_of_entry hx
      refine hapart b'.id ?_ b.id (by simp [Event.entered?]) (hid'.trans hid)
      exact List.mem_map_of_mem (List.mem_filterMap.mpr ⟨_, hb', rfl⟩)

end Store

end Lodging
