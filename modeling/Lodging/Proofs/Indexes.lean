import Lodging.Proofs.Replay
import Lodging.Proofs.RoomBooks
import Mathlib.Data.List.Nodup

/-!
# Documents and indexes

The indexes of a store follow from its documents: an email address leads to the one user who has
it, a hotel lists its rooms, a booking leads to its room, and a user to all bookings made for them.
Every event keeps it so, as long as each created document is new and names a hotel or a room that is
there.
-/

namespace Lodging

open Std (ExtTreeMap)

namespace Store

/-! ## What is looked up -/

/-- A room by its identifier. -/
def room? (s : Store) (id : RecordId) : Option Room := (s.currentBook? id).map (·.room)

/-- The bookings of a room; an unknown room has none. -/
def bookingsIn (s : Store) (room : RecordId) : List Booking :=
  ((s.currentBook? room).map (·.bookings)).getD []

/-- The bookings of a room that its readers see. -/
def bookingsShown (s : Store) (room : RecordId) : List Booking :=
  ((s.publishedBook? room).map (·.bookings)).getD []

end Store

/-- What the indexes know of a booking. -/
structure Entry where
  id : RecordId
  room : RecordId
  user : RecordId

/-- The entry of a booking. -/
def Booking.entry (b : Booking) : Entry := ⟨b.id, b.room, b.user⟩

namespace Store

/-- The entries of the bookings of a room. -/
def entriesIn (s : Store) (room : RecordId) : List Entry := (s.bookingsIn room).map Booking.entry

variable {s t : Store}

theorem room?_eq_none_iff {id : RecordId} : s.room? id = none ↔ id ∉ s.rooms := by
  rw [not_mem_iff_lookup, room?, currentBook?, Option.map_eq_none_iff, Option.map_eq_none_iff]

theorem mem_rooms_of_room? {id : RecordId} {room : Room} (h : s.room? id = some room) :
    id ∈ s.rooms := by
  by_contra hunknown
  rw [room?_eq_none_iff.mpr hunknown] at h
  cases h

theorem bookingsIn_of_unknown {room : RecordId} (h : room ∉ s.rooms) : s.bookingsIn room = [] := by
  simp only [bookingsIn, currentBook?, not_mem_iff_lookup.mp h, Option.map_none, Option.getD_none]

theorem mem_rooms_of_mem_bookingsIn {room : RecordId} {b : Booking} (h : b ∈ s.bookingsIn room) :
    room ∈ s.rooms := by
  by_contra hunknown
  rw [bookingsIn_of_unknown hunknown] at h
  cases h

theorem bookingsIn_eq {room : RecordId} {slot : RoomSlot} (h : s.rooms[room]? = some slot) :
    s.bookingsIn room = slot.current.bookings := by
  simp only [bookingsIn, currentBook?, h, Option.map_some, Option.getD_some]

theorem room?_eq {room : RecordId} {slot : RoomSlot} (h : s.rooms[room]? = some slot) :
    s.room? room = some slot.current.room := by
  simp only [room?, currentBook?, h, Option.map_some]

/-! ## What an event changes -/

section

variable {room : RecordId} {slot : RoomSlot}

theorem room?_of_insert (h : t.rooms = s.rooms.insert room slot) (id : RecordId) :
    t.room? id = if room = id then some slot.current.room else s.room? id := by
  simp only [room?, currentBook?, h, lookup_insert]
  split
  · rfl
  · rfl

theorem bookingsIn_of_insert (h : t.rooms = s.rooms.insert room slot) (id : RecordId) :
    t.bookingsIn id = if room = id then slot.current.bookings else s.bookingsIn id := by
  simp only [bookingsIn, currentBook?, h, lookup_insert]
  split
  · rfl
  · rfl

end

theorem hotels_apply_hotelCreated (s : Store) (id : RecordId) (name location : String)
    (rating : UInt8) (key : RecordId) :
    (s.apply (.hotelCreated id name location rating)).hotels[key]? =
      if id = key then some ⟨id, name, location, [], rating⟩ else s.hotels[key]? :=
  lookup_insert s.hotels id key _

theorem hotels_apply_hotelUpdated (s : Store) (id : RecordId) (update : HotelUpdate)
    (key : RecordId) :
    (s.apply (.hotelUpdated id update)).hotels[key]? =
      if id = key then s.hotels[key]?.map update.apply else s.hotels[key]? :=
  lookup_modify s.hotels id key _

theorem hotels_apply_roomCreated (s : Store) (room : Room) (key : RecordId) :
    (s.apply (.roomCreated room)).hotels[key]? =
      if room.hotel = key then
        s.hotels[key]?.map fun hotel => { hotel with rooms := hotel.rooms ++ [room.id] }
      else s.hotels[key]? :=
  lookup_modify s.hotels room.hotel key _

theorem users_apply_userCreated (s : Store) (user : User) (key : RecordId) :
    (s.apply (.userCreated user)).users[key]? =
      if user.id = key then some user else s.users[key]? :=
  lookup_insert s.users user.id key user

theorem users_apply_userUpdated (s : Store) (id : RecordId) (update : UserUpdate)
    (key : RecordId) :
    (s.apply (.userUpdated id update)).users[key]? =
      if id = key then s.users[key]?.map update.apply else s.users[key]? :=
  lookup_modify s.users id key update.apply

theorem users_apply_userDeleted (s : Store) (id key : RecordId) :
    (s.apply (.userDeleted id)).users[key]? = if id = key then none else s.users[key]? := by
  change (s.applyDocument (.userDeleted id)).users[key]? = _
  cases huser : s.users[id]? with
  | none =>
      simp only [applyDocument, user?, huser]
      split
      · next hkey => rw [← hkey, huser]
      · rfl
  | some user =>
      simp only [applyDocument, user?, huser, releaseEmail_eq]
      exact lookup_erase s.users id key

theorem rooms_apply_roomCreated (s : Store) (room : Room) :
    (s.apply (.roomCreated room)).rooms = s.rooms.insert room.id (.new room) := rfl

theorem room?_apply_roomCreated (s : Store) (room : Room) (id : RecordId) :
    (s.apply (.roomCreated room)).room? id = if room.id = id then some room else s.room? id :=
  room?_of_insert (rooms_apply_roomCreated s room) id

theorem bookingsIn_apply_roomCreated {room : Room} (h : room.id ∉ s.rooms) (id : RecordId) :
    (s.apply (.roomCreated room)).bookingsIn id = s.bookingsIn id := by
  rw [bookingsIn_of_insert (rooms_apply_roomCreated s room) id]
  split
  · next hid => rw [← hid, bookingsIn_of_unknown h]; rfl
  · rfl

theorem room?_apply_of_booked {e : Event} {room : RecordId} (hroom : e.bookedRoom? = some room)
    (id : RecordId) : (s.apply e).room? id = s.room? id := by
  cases hslot : s.rooms[room]? with
  | none => rw [apply_of_unknown_room hroom hslot]
  | some slot =>
      have hinsert := room?_of_insert (rooms_apply_of_booked hroom hslot) id
      rw [hinsert]
      split
      · next hid =>
          rw [← hid, room?_eq hslot]
          exact congrArg some (RoomBook.room_after slot.current e)
      · rfl

/-- A booking is entered into the book of its room, if the room is known. -/
theorem bookingsIn_apply_bookingCreated {b : Booking} (h : b.room ∈ s.rooms) (id : RecordId) :
    (s.apply (.bookingCreated b)).bookingsIn id =
      if b.room = id then RoomBook.enter b (s.bookingsIn id) else s.bookingsIn id := by
  obtain ⟨slot, hslot⟩ := mem_iff_lookup.mp h
  rw [bookingsIn_of_insert (rooms_apply_of_booked rfl hslot) id]
  split
  · next hid => rw [← hid, bookingsIn_eq hslot]; rfl
  · rfl

theorem bookingsIn_apply_bookingCanceled (s : Store) (booking room id : RecordId) :
    (s.apply (.bookingCanceled booking room)).bookingsIn id =
      if room = id then RoomBook.strike booking (s.bookingsIn id) else s.bookingsIn id := by
  cases hslot : s.rooms[room]? with
  | none =>
      rw [apply_of_unknown_room rfl hslot]
      split
      · next hid =>
          rw [← hid, bookingsIn_of_unknown (not_mem_iff_lookup.mpr hslot)]
          rfl
      · rfl
  | some slot =>
      rw [bookingsIn_of_insert (rooms_apply_of_booked rfl hslot) id]
      split
      · next hid => rw [← hid, bookingsIn_eq hslot]; rfl
      · rfl

/-! ## What an event needs -/

/-- What a document that is created must find: its identifier is new among the documents of its
kind, and its hotel or room is there. The email address of a new user is not in use. -/
def Admits (s : Store) : Event → Prop
  | .hotelCreated id _ _ _ => id ∉ s.hotels
  | .userCreated user => user.id ∉ s.users ∧
      ∀ (id : RecordId) (other : User), s.users[id]? = some other →
        Text.lowercase other.email ≠ Text.lowercase user.email
  | .roomCreated room => room.id ∉ s.rooms ∧ room.hotel ∈ s.hotels
  | .bookingCreated b => b.id ∉ s.roomOfBooking ∧ b.room ∈ s.rooms
  | _ => True

/-! ## Users and email addresses -/

/-- Users stand under their identifiers, and an email address leads to the one user who has it. -/
structure PeopleAgree (s : Store) : Prop where
  id_eq : ∀ {id : RecordId} {user : User}, s.users[id]? = some user → user.id = id
  holder_iff : ∀ {email : String} {id : RecordId}, s.emails[email]? = some id ↔
    ∃ user, s.users[id]? = some user ∧ Text.lowercase user.email = email

namespace PeopleAgree

theorem congr (h : s.PeopleAgree) (husers : t.users = s.users) (hemails : t.emails = s.emails) :
    t.PeopleAgree where
  id_eq := by rw [husers]; exact h.id_eq
  holder_iff := by rw [husers, hemails]; exact h.holder_iff

theorem userCreated (h : s.PeopleAgree) {user : User} (hnew : s.Admits (.userCreated user)) :
    (s.apply (.userCreated user)).PeopleAgree := by
  have hemails : ∀ email : String, (s.apply (.userCreated user)).emails[email]? =
      if Text.lowercase user.email = email then some user.id else s.emails[email]? :=
    fun email => lookup_insert s.emails (Text.lowercase user.email) email user.id
  obtain ⟨hid, hemail⟩ := hnew
  refine ⟨fun {id u} hu => ?_, fun {email id} => ?_⟩
  · rw [users_apply_userCreated] at hu
    split at hu
    · next heq => exact (Option.some.inj hu) ▸ heq
    · exact h.id_eq hu
  · rw [users_apply_userCreated, hemails]
    -- At the new address no old user can be found, and at any other not the new one.
    by_cases hemail' : Text.lowercase user.email = email
    · rw [if_pos hemail']
      constructor
      · intro heq
        exact ⟨user, if_pos (Option.some.inj heq), hemail'⟩
      · rintro ⟨other, hother, rfl⟩
        split at hother
        · next heq => rw [heq]
        · exact absurd hemail'.symm (hemail _ _ hother)
    · rw [if_neg hemail', h.holder_iff]
      constructor
      · rintro ⟨other, hother, rfl⟩
        refine ⟨other, ?_, rfl⟩
        rw [if_neg, hother]
        rintro rfl
        exact hid (mem_iff_lookup.mpr ⟨other, hother⟩)
      · rintro ⟨other, hother, rfl⟩
        split at hother
        · exact absurd (by rw [Option.some.inj hother]) hemail'
        · exact ⟨other, hother, rfl⟩

theorem userUpdated (h : s.PeopleAgree) (id : RecordId) (update : UserUpdate) :
    (s.apply (.userUpdated id update)).PeopleAgree := by
  refine ⟨fun {key u} hu => ?_, fun {email key} => ?_⟩
  · rw [users_apply_userUpdated] at hu
    split at hu
    · obtain ⟨u', hu', rfl⟩ := Option.map_eq_some_iff.mp hu
      exact (h.id_eq hu' : u'.id = key)
    · exact h.id_eq hu
  · rw [users_apply_userUpdated]
    refine (show _ ↔ _ from h.holder_iff).trans ?_
    split
    · simp only [Option.map_eq_some_iff, exists_exists_and_eq_and]
      rfl
    · rfl

theorem userDeleted (h : s.PeopleAgree) (id : RecordId) :
    (s.apply (.userDeleted id)).PeopleAgree := by
  change (s.applyDocument (.userDeleted id)).PeopleAgree
  cases huser : s.users[id]? with
  | none => simpa only [applyDocument, user?, huser] using h
  | some user =>
      -- The user holds the address, so the deletion does release it.
      have hheld : s.emails[Text.lowercase user.email]? = some user.id :=
        h.holder_iff.mpr ⟨user, by rw [h.id_eq huser, huser], rfl⟩
      simp only [applyDocument, user?, huser, releaseEmail_eq, userByEmail?, hheld, if_true]
      refine ⟨fun {key u} hu => ?_, fun {email key} => ?_⟩
      · simp only [lookup_erase] at hu
        split at hu
        · cases hu
        · exact h.id_eq hu
      · simp only [lookup_erase]
        constructor
        · intro heq
          split at heq
          · cases heq
          · next hemail =>
              obtain ⟨other, hother, rfl⟩ := h.holder_iff.mp heq
              refine ⟨other, ?_, rfl⟩
              rw [if_neg, hother]
              rintro rfl
              exact hemail (by rw [Option.some.inj (huser.symm.trans hother)])
        · rintro ⟨other, hother, rfl⟩
          split at hother
          · cases hother
          · next hkey =>
              have heq := h.holder_iff.mpr ⟨other, hother, rfl⟩
              rw [if_neg, heq]
              intro hemail
              rw [hemail, heq] at hheld
              exact hkey ((h.id_eq huser).symm.trans (Option.some.inj hheld).symm)

theorem apply (h : s.PeopleAgree) {e : Event} (he : s.Admits e) : (s.apply e).PeopleAgree := by
  cases e with
  | userCreated user => exact h.userCreated he
  | userUpdated id update => exact h.userUpdated id update
  | userDeleted id => exact h.userDeleted id
  | bookingCreated b => exact h.congr (apply_of_booked rfl).2.1 (apply_of_booked rfl).2.2
  | bookingCanceled id room => exact h.congr (apply_of_booked rfl).2.1 (apply_of_booked rfl).2.2
  | _ => exact h.congr rfl rfl

end PeopleAgree

/-! ## Hotels and rooms -/

/-- Hotels and rooms stand under their identifiers, every room has a hotel, and a hotel lists each
of its rooms once. -/
structure HousesAgree (s : Store) : Prop where
  id_eq : ∀ {id : RecordId} {hotel : Hotel}, s.hotels[id]? = some hotel → hotel.id = id
  nodup : ∀ {id : RecordId} {hotel : Hotel}, s.hotels[id]? = some hotel → hotel.rooms.Nodup
  mem_iff : ∀ {id room : RecordId} {hotel : Hotel}, s.hotels[id]? = some hotel →
    (room ∈ hotel.rooms ↔ ∃ r, s.room? room = some r ∧ r.hotel = id)
  room_id_eq : ∀ {id : RecordId} {room : Room}, s.room? id = some room → room.id = id
  hotel_mem : ∀ {id : RecordId} {room : Room}, s.room? id = some room → room.hotel ∈ s.hotels

namespace HousesAgree

theorem congr (h : s.HousesAgree) (hhotels : t.hotels = s.hotels)
    (hrooms : ∀ id, t.room? id = s.room? id) : t.HousesAgree where
  id_eq := by rw [hhotels]; exact h.id_eq
  nodup := by rw [hhotels]; exact h.nodup
  mem_iff := by simp only [hhotels, hrooms]; exact h.mem_iff
  room_id_eq := by simp only [hrooms]; exact h.room_id_eq
  hotel_mem := by simp only [hhotels, hrooms]; exact h.hotel_mem

theorem hotelCreated (h : s.HousesAgree) {id : RecordId} {name location : String} {rating : UInt8}
    (hnew : s.Admits (.hotelCreated id name location rating)) :
    (s.apply (.hotelCreated id name location rating)).HousesAgree where
  id_eq {key hotel} hhotel := by
    rw [hotels_apply_hotelCreated] at hhotel
    split at hhotel
    · next hkey => exact Option.some.inj hhotel ▸ hkey
    · exact h.id_eq hhotel
  nodup {key hotel} hhotel := by
    rw [hotels_apply_hotelCreated] at hhotel
    split at hhotel
    · exact Option.some.inj hhotel ▸ List.nodup_nil
    · exact h.nodup hhotel
  mem_iff {key room hotel} hhotel := by
    rw [hotels_apply_hotelCreated] at hhotel
    split at hhotel
    · next hkey =>
        obtain rfl := Option.some.inj hhotel
        refine iff_of_false List.not_mem_nil ?_
        -- No room can have waited for a hotel that was not there.
        rintro ⟨r, hr, hid⟩
        exact hnew ((hid.trans hkey.symm) ▸ h.hotel_mem hr)
    · exact h.mem_iff hhotel
  room_id_eq := h.room_id_eq
  hotel_mem hroom := mem_hotels_apply.mpr (.inl (h.hotel_mem hroom))

/-- An update of a hotel changes neither its identifier nor its rooms. -/
theorem exists_of_hotelUpdated {id key : RecordId} {update : HotelUpdate} {hotel : Hotel}
    (hhotel : (s.apply (.hotelUpdated id update)).hotels[key]? = some hotel) :
    ∃ old, s.hotels[key]? = some old ∧ hotel.id = old.id ∧ hotel.rooms = old.rooms := by
  rw [hotels_apply_hotelUpdated] at hhotel
  split at hhotel
  · obtain ⟨old, hold, rfl⟩ := Option.map_eq_some_iff.mp hhotel
    exact ⟨old, hold, rfl, rfl⟩
  · exact ⟨hotel, hhotel, rfl, rfl⟩

theorem hotelUpdated (h : s.HousesAgree) (id : RecordId) (update : HotelUpdate) :
    (s.apply (.hotelUpdated id update)).HousesAgree where
  id_eq hhotel := by
    obtain ⟨old, hold, hid, -⟩ := exists_of_hotelUpdated hhotel
    exact hid.trans (h.id_eq hold)
  nodup hhotel := by
    obtain ⟨old, hold, -, hrooms⟩ := exists_of_hotelUpdated hhotel
    exact hrooms ▸ h.nodup hold
  mem_iff hhotel := by
    obtain ⟨old, hold, -, hrooms⟩ := exists_of_hotelUpdated hhotel
    exact hrooms ▸ h.mem_iff hold
  room_id_eq := h.room_id_eq
  hotel_mem hroom := mem_hotels_apply.mpr (.inl (h.hotel_mem hroom))

theorem not_mem_rooms_of_admits (h : s.HousesAgree) {room : Room}
    (hnew : s.Admits (.roomCreated room)) {key : RecordId} {hotel : Hotel}
    (hhotel : s.hotels[key]? = some hotel) : room.id ∉ hotel.rooms := by
  intro hmem
  obtain ⟨r, hr, -⟩ := (h.mem_iff hhotel).mp hmem
  exact hnew.1 (mem_rooms_of_room? hr)

theorem roomCreated (h : s.HousesAgree) {room : Room} (hnew : s.Admits (.roomCreated room)) :
    (s.apply (.roomCreated room)).HousesAgree where
  id_eq {key hotel} hhotel := by
    rw [hotels_apply_roomCreated] at hhotel
    split at hhotel
    · obtain ⟨old, hold, rfl⟩ := Option.map_eq_some_iff.mp hhotel
      exact (h.id_eq hold : old.id = key)
    · exact h.id_eq hhotel
  nodup {key hotel} hhotel := by
    rw [hotels_apply_roomCreated] at hhotel
    split at hhotel
    · obtain ⟨old, hold, rfl⟩ := Option.map_eq_some_iff.mp hhotel
      exact List.concat_eq_append ▸
        List.Nodup.concat (h.not_mem_rooms_of_admits hnew hold) (h.nodup hold)
    · exact h.nodup hhotel
  mem_iff {key other hotel} hhotel := by
    rw [hotels_apply_roomCreated] at hhotel
    rw [room?_apply_roomCreated]
    split at hhotel
    · next hkey =>
        obtain ⟨old, hold, rfl⟩ := Option.map_eq_some_iff.mp hhotel
        rw [List.mem_append, List.mem_singleton, h.mem_iff hold]
        by_cases hother : room.id = other
        · rw [if_pos hother]
          exact iff_of_true (.inr hother.symm) ⟨room, rfl, hkey⟩
        · rw [if_neg hother, or_iff_left (Ne.symm hother)]
    · next hkey =>
        by_cases hother : room.id = other
        · rw [if_pos hother]
          refine iff_of_false (hother ▸ h.not_mem_rooms_of_admits hnew hhotel) ?_
          rintro ⟨r, hr, rfl⟩
          exact hkey (by rw [Option.some.inj hr])
        · rw [if_neg hother]
          exact h.mem_iff hhotel
  room_id_eq {key r} hr := by
    rw [room?_apply_roomCreated] at hr
    split at hr
    · next hkey => exact Option.some.inj hr ▸ hkey
    · exact h.room_id_eq hr
  hotel_mem {key r} hr := by
    refine mem_hotels_apply.mpr (.inl ?_)
    rw [room?_apply_roomCreated] at hr
    split at hr
    · exact Option.some.inj hr ▸ hnew.2
    · exact h.hotel_mem hr

theorem apply (h : s.HousesAgree) {e : Event} (he : s.Admits e) : (s.apply e).HousesAgree := by
  cases e with
  | hotelCreated id name location rating => exact h.hotelCreated he
  | hotelUpdated id update => exact h.hotelUpdated id update
  | roomCreated room => exact h.roomCreated he
  | userDeleted id =>
      obtain ⟨users, emails, heq, -⟩ := s.apply_userDeleted id
      rw [heq]
      exact h.congr rfl fun _ => rfl
  | bookingCreated b => exact h.congr (apply_of_booked rfl).1 (room?_apply_of_booked rfl)
  | bookingCanceled id room => exact h.congr (apply_of_booked rfl).1 (room?_apply_of_booked rfl)
  | _ => exact h.congr rfl fun _ => rfl

end HousesAgree

/-! ## Bookings -/

/-- Bookings stand under their rooms, their identifiers are distinct, and the indexes lead from each
identifier to its room and from a user to the identifiers of the user's bookings. -/
structure LedgerAgrees (s : Store) : Prop where
  room_eq : ∀ {room : RecordId} {x : Entry}, x ∈ s.entriesIn room → x.room = room
  nodup : ∀ room, ((s.entriesIn room).map (·.id)).Nodup
  room_iff : ∀ {id room : RecordId}, s.roomOfBooking[id]? = some room ↔
    ∃ x ∈ s.entriesIn room, x.id = id
  ofUser_nodup : ∀ user, (s.bookingIdsOf user).Nodup
  mem_ofUser_iff : ∀ {id user : RecordId}, id ∈ s.bookingIdsOf user ↔
    ∃ room, ∃ x ∈ s.entriesIn room, x.id = id ∧ x.user = user
  ofUser_ne_nil : ∀ user : RecordId, s.bookingsOfUser[user]? ≠ some []

theorem entriesIn_apply_bookingCanceled (s : Store) (booking room id : RecordId) :
    (s.apply (.bookingCanceled booking room)).entriesIn id = s.entriesIn id := by
  rw [entriesIn, bookingsIn_apply_bookingCanceled]
  split
  · exact RoomBook.map_strike (fun _ => rfl) _ _
  · rfl

section

variable {b : Booking} (h : b.room ∈ s.rooms)
include h

theorem entriesIn_apply_bookingCreated (room : RecordId) :
    ((s.apply (.bookingCreated b)).entriesIn room).Perm
      (if b.room = room then b.entry :: s.entriesIn room else s.entriesIn room) := by
  rw [entriesIn, bookingsIn_apply_bookingCreated h]
  split
  · exact (RoomBook.enter_perm b (s.bookingsIn room)).map Booking.entry
  · exact List.Perm.refl _

theorem mem_entriesIn_apply_bookingCreated {room : RecordId} {x : Entry} :
    x ∈ (s.apply (.bookingCreated b)).entriesIn room ↔
      b.room = room ∧ x = b.entry ∨ x ∈ s.entriesIn room := by
  rw [(entriesIn_apply_bookingCreated h room).mem_iff]
  split
  · next hroom => simp only [hroom, true_and, List.mem_cons]
  · next hroom => simp only [hroom, false_and, false_or]

theorem roomOfBooking_apply_bookingCreated (id : RecordId) :
    (s.apply (.bookingCreated b)).roomOfBooking[id]? =
      if b.id = id then some b.room else s.roomOfBooking[id]? := by
  obtain ⟨slot, hslot⟩ := mem_iff_lookup.mp h
  rw [apply_bookingCreated hslot]
  exact lookup_insert s.roomOfBooking b.id id b.room

theorem bookingsOfUser_apply_bookingCreated (user : RecordId) :
    (s.apply (.bookingCreated b)).bookingsOfUser[user]? =
      if b.user = user then some (s.bookingIdsOf user ++ [b.id]) else s.bookingsOfUser[user]? := by
  obtain ⟨slot, hslot⟩ := mem_iff_lookup.mp h
  rw [apply_bookingCreated hslot]
  refine (lookup_insert s.bookingsOfUser b.user user _).trans ?_
  split
  · next huser => rw [huser]
  · rfl

theorem bookingIdsOf_apply_bookingCreated (user : RecordId) :
    (s.apply (.bookingCreated b)).bookingIdsOf user =
      if b.user = user then s.bookingIdsOf user ++ [b.id] else s.bookingIdsOf user := by
  rw [bookingIdsOf, bookingsOfUser_apply_bookingCreated h]
  split
  · rfl
  · rfl

end

/-- A cancellation leaves both indexes as they were. -/
theorem indexes_apply_bookingCanceled (s : Store) (booking room : RecordId) :
    (s.apply (.bookingCanceled booking room)).roomOfBooking = s.roomOfBooking ∧
      (s.apply (.bookingCanceled booking room)).bookingsOfUser = s.bookingsOfUser := by
  cases hslot : s.rooms[room]? with
  | none =>
      simp only [apply_of_unknown_room (e := .bookingCanceled booking room) rfl hslot, and_self]
  | some slot =>
      rw [apply_bookingCanceled hslot]
      exact ⟨rfl, rfl⟩

namespace LedgerAgrees

theorem congr (h : s.LedgerAgrees) (hentries : ∀ room, t.entriesIn room = s.entriesIn room)
    (hroomOf : t.roomOfBooking = s.roomOfBooking) (hofUser : t.bookingsOfUser = s.bookingsOfUser) :
    t.LedgerAgrees := by
  have hids : ∀ user, t.bookingIdsOf user = s.bookingIdsOf user := by
    intro user
    rw [bookingIdsOf, hofUser, bookingIdsOf]
  constructor
  · simp only [hentries]; exact h.room_eq
  · simp only [hentries]; exact h.nodup
  · simp only [hentries, hroomOf]; exact h.room_iff
  · simp only [hids]; exact h.ofUser_nodup
  · simp only [hids, hentries]; exact h.mem_ofUser_iff
  · rw [hofUser]; exact h.ofUser_ne_nil

theorem id_ne_of_admits (h : s.LedgerAgrees) {b : Booking} (hnew : s.Admits (.bookingCreated b))
    {room : RecordId} {x : Entry} (hx : x ∈ s.entriesIn room) : x.id ≠ b.id := by
  intro hsame
  exact hnew.1 (mem_iff_lookup.mpr ⟨room, h.room_iff.mpr ⟨x, hx, hsame⟩⟩)

theorem bookingCreated (h : s.LedgerAgrees) {b : Booking} (hnew : s.Admits (.bookingCreated b)) :
    (s.apply (.bookingCreated b)).LedgerAgrees where
  room_eq {room x} hx := by
    rcases (mem_entriesIn_apply_bookingCreated hnew.2).mp hx with ⟨heq, rfl⟩ | hx
    · exact heq
    · exact h.room_eq hx
  nodup room := by
    refine ((entriesIn_apply_bookingCreated hnew.2 room).map _).nodup_iff.mpr ?_
    split
    · refine List.nodup_cons.mpr ⟨fun hmem => ?_, h.nodup room⟩
      obtain ⟨x, hx, hsame⟩ := List.mem_map.mp hmem
      exact h.id_ne_of_admits hnew hx hsame
    · exact h.nodup room
  room_iff {id room} := by
    rw [roomOfBooking_apply_bookingCreated hnew.2]
    simp only [mem_entriesIn_apply_bookingCreated hnew.2]
    split
    · next heq =>
        constructor
        · intro hsame
          exact ⟨b.entry, .inl ⟨Option.some.inj hsame, rfl⟩, heq⟩
        · rintro ⟨x, ⟨rfl, -⟩ | hx, rfl⟩
          · rfl
          · exact absurd heq.symm (h.id_ne_of_admits hnew hx)
    · next hne =>
        rw [h.room_iff]
        constructor
        · rintro ⟨x, hx, hsame⟩
          exact ⟨x, .inr hx, hsame⟩
        · rintro ⟨x, ⟨-, rfl⟩ | hx, hsame⟩
          · exact absurd hsame hne
          · exact ⟨x, hx, hsame⟩
  ofUser_nodup user := by
    rw [bookingIdsOf_apply_bookingCreated hnew.2]
    split
    · refine List.concat_eq_append ▸ List.Nodup.concat (fun hmem => ?_) (h.ofUser_nodup user)
      obtain ⟨room, x, hx, hsame, -⟩ := h.mem_ofUser_iff.mp hmem
      exact h.id_ne_of_admits hnew hx hsame
    · exact h.ofUser_nodup user
  mem_ofUser_iff {id user} := by
    rw [bookingIdsOf_apply_bookingCreated hnew.2]
    simp only [mem_entriesIn_apply_bookingCreated hnew.2]
    constructor
    · intro hmem
      -- Either the list of this user has grown by the new booking, or the booking is an old one.
      have hcases : (id = b.id ∧ b.user = user) ∨ id ∈ s.bookingIdsOf user := by
        split at hmem
        · next huser =>
            rcases List.mem_append.mp hmem with hmem | hmem
            · exact .inr hmem
            · exact .inl ⟨List.mem_singleton.mp hmem, huser⟩
        · exact .inr hmem
      rcases hcases with ⟨rfl, huser⟩ | hmem
      · exact ⟨b.room, b.entry, .inl ⟨rfl, rfl⟩, rfl, huser⟩
      · obtain ⟨room, x, hx, hsame⟩ := h.mem_ofUser_iff.mp hmem
        exact ⟨room, x, .inr hx, hsame⟩
    · rintro ⟨room, x, ⟨-, rfl⟩ | hx, rfl, huser⟩
      · rw [if_pos (show b.user = user from huser)]
        exact List.mem_append_right _ List.mem_cons_self
      · have hmem := h.mem_ofUser_iff.mpr ⟨room, x, hx, rfl, huser⟩
        split
        · exact List.mem_append_left _ hmem
        · exact hmem
  ofUser_ne_nil user := by
    rw [bookingsOfUser_apply_bookingCreated hnew.2]
    split
    · simp
    · exact h.ofUser_ne_nil user

theorem bookingCanceled (h : s.LedgerAgrees) (booking room : RecordId) :
    (s.apply (.bookingCanceled booking room)).LedgerAgrees :=
  have ⟨hroomOf, hofUser⟩ := s.indexes_apply_bookingCanceled booking room
  h.congr (s.entriesIn_apply_bookingCanceled booking room) hroomOf hofUser

theorem apply (h : s.LedgerAgrees) {e : Event} (he : s.Admits e) : (s.apply e).LedgerAgrees := by
  cases e with
  | roomCreated room =>
      refine h.congr (fun id => ?_) rfl rfl
      rw [entriesIn, bookingsIn_apply_roomCreated he.1, entriesIn]
  | bookingCreated b => exact h.bookingCreated he
  | bookingCanceled booking room => exact h.bookingCanceled booking room
  | userDeleted id =>
      obtain ⟨users, emails, heq, -⟩ := s.apply_userDeleted id
      rw [heq]
      exact h.congr (fun _ => rfl) rfl rfl
  | _ => exact h.congr (fun _ => rfl) rfl rfl

end LedgerAgrees

theorem LedgerAgrees.bookings_nodup (h : s.LedgerAgrees) (room : RecordId) :
    (s.bookingsIn room).Nodup :=
  ((h.nodup room).of_map _).of_map _

theorem LedgerAgrees.bookingsOfUser_eq (h : s.LedgerAgrees) (user : RecordId) :
    s.bookingsOfUser[user]? =
      if s.bookingIdsOf user = [] then none else some (s.bookingIdsOf user) := by
  have hne := h.ofUser_ne_nil user
  unfold bookingIdsOf
  cases hlisted : s.bookingsOfUser[user]? with
  | none => rfl
  | some ids =>
      rw [Option.getD_some, if_neg]
      rintro rfl
      exact hne hlisted

/-- An identifier belongs to bookings of one room only. -/
theorem LedgerAgrees.room_unique (h : s.LedgerAgrees) {room room' : RecordId} {x x' : Entry}
    (hx : x ∈ s.entriesIn room) (hx' : x' ∈ s.entriesIn room') (hid : x.id = x'.id) :
    room = room' := by
  have hroom := h.room_iff.mpr ⟨x, hx, rfl⟩
  have hroom' := h.room_iff.mpr ⟨x', hx', hid.symm⟩
  exact Option.some.inj (hroom.symm.trans hroom')

/-! ## The whole store -/

/-- Documents and indexes agree, and readers of a room see what writers see. -/
structure Coherent (s : Store) : Prop where
  people : s.PeopleAgree
  houses : s.HousesAgree
  ledger : s.LedgerAgrees
  shown : ∀ {id : RecordId} {slot : RoomSlot}, s.rooms[id]? = some slot →
    slot = .shown slot.current

theorem coherent_empty : empty.Coherent where
  people := ⟨by simp [empty], by simp [empty]⟩
  houses := by constructor <;> simp [empty, room?, currentBook?]
  ledger := by
    constructor <;> simp [empty, entriesIn, bookingsIn, currentBook?, bookingIdsOf]
  shown := by simp [empty]

/-- Whatever event is admitted, documents and indexes go on to agree. -/
theorem Coherent.apply (h : s.Coherent) {e : Event} (he : s.Admits e) : (s.apply e).Coherent where
  people := h.people.apply he
  houses := h.houses.apply he
  ledger := h.ledger.apply he
  shown {id slot} hslot := by
    rcases s.rooms_apply_cases e with heq | ⟨room, book, heq⟩
    · rw [heq] at hslot
      exact h.shown hslot
    · rw [heq, lookup_insert] at hslot
      split at hslot
      · rw [← Option.some.inj hslot]
        rfl
      · exact h.shown hslot

theorem Coherent.slot_eq (h : s.Coherent) {id : RecordId} {slot : RoomSlot}
    (hslot : s.rooms[id]? = some slot) : slot.published = slot.current := by
  rw [h.shown hslot]
  rfl

theorem Coherent.bookingsShown_eq (h : s.Coherent) (room : RecordId) :
    s.bookingsShown room = s.bookingsIn room := by
  unfold bookingsShown bookingsIn publishedBook? currentBook?
  cases hslot : s.rooms[room]? with
  | none => rfl
  | some slot =>
      rw [Option.map_some, h.slot_eq hslot]
      rfl

theorem History.coherent {events : List Event} (h : History Admits events) :
    (replay events).Coherent :=
  h.invariant coherent_empty fun _ _ hs he => hs.apply he

end Store

end Lodging
