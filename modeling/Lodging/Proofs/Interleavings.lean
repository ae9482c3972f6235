import Lodging.Engine.Queries
import Lodging.Proofs.Continuity

/-!
# Bookings of different rooms

Events about the bookings of different rooms may be applied in any order, as long as those of each
room keep theirs. Then the books of all rooms come out the same, and the bookings lead to the same
rooms. Only the list of a user's bookings may stand in another order, which no reader sees.
-/

namespace Lodging

open Std (ExtTreeMap)

/-- The slot after events about the room's bookings. -/
def RoomSlot.after (slot : RoomSlot) (events : List Event) : RoomSlot :=
  events.foldl (fun slot e => .shown (slot.current.after e)) slot

/-- Two orders of the same events that agree about each room. -/
structure SameForRooms (first second : List Event) : Prop where
  perm : first.Perm second
  rooms : ∀ room, first.filter (·.bookedRoom? = some room) =
    second.filter (·.bookedRoom? = some room)

namespace Store

variable {s t : Store} {e : Event} {events first second : List Event} {room : RecordId}

/-- Every event is about the bookings of a room that is there. -/
def Houses (s : Store) (events : List Event) : Prop :=
  ∀ e ∈ events, ∃ room ∈ s.rooms, e.bookedRoom? = some room

theorem Houses.apply (h : s.Houses (e :: events)) : (s.apply e).Houses events := by
  intro e' he'
  obtain ⟨room, hroom, hbooked⟩ := h e' (List.mem_cons_of_mem e he')
  exact ⟨room, mem_rooms_apply.mpr (.inl hroom), hbooked⟩

/-! ## Books -/

theorem getElem?_rooms_apply_of_booked (h : s.Houses [e]) (room : RecordId) :
    (s.apply e).rooms[room]? =
      s.rooms[room]?.map (·.after ([e].filter (·.bookedRoom? = some room))) := by
  obtain ⟨booked, hknown, hbooked⟩ := h e List.mem_cons_self
  obtain ⟨slot, hslot⟩ := mem_iff_lookup.mp hknown
  rw [rooms_apply_of_booked hbooked hslot, lookup_insert]
  split
  · next hroom =>
      subst hroom
      simp [hslot, hbooked, RoomSlot.after]
  · next hroom => simp [hbooked, hroom, RoomSlot.after]

/-- What becomes of a room depends on the events about it alone. -/
theorem getElem?_rooms_foldl (h : s.Houses events) (room : RecordId) :
    (events.foldl apply s).rooms[room]? =
      s.rooms[room]?.map (·.after (events.filter (·.bookedRoom? = some room))) := by
  induction events generalizing s with
  | nil => simp [RoomSlot.after]
  | cons e rest ih =>
      have hfirst : s.Houses [e] := List.forall_mem_singleton.mpr (h e List.mem_cons_self)
      rw [List.foldl_cons, ih h.apply, getElem?_rooms_apply_of_booked hfirst, Option.map_map]
      congr 1
      funext slot
      rw [← List.singleton_append (l := rest), List.filter_append]
      simp only [Function.comp, RoomSlot.after, List.foldl_append]

/-! ## Indexes -/

theorem roomOfBooking_foldl (h : s.Houses events) :
    (events.foldl apply s).roomOfBooking =
      (events.filterMap Event.entered?).foldl (fun m b => m.insert b.id b.room)
        s.roomOfBooking := by
  induction events generalizing s with
  | nil => rfl
  | cons e rest ih =>
      rw [List.foldl_cons, ih h.apply]
      obtain ⟨room, hroom, hbooked⟩ := h e List.mem_cons_self
      cases e with
      | bookingCreated b =>
          obtain ⟨slot, hslot⟩ := mem_iff_lookup.mp hroom
          obtain rfl := Option.some.inj hbooked
          rw [apply_bookingCreated hslot]
          rfl
      | bookingCanceled id room' =>
          rw [(s.indexes_apply_bookingCanceled id room').1]
          rfl
      | _ => cases hbooked

/-- The list of a user's bookings grows by those that are entered for the user. -/
theorem bookingIdsOf_foldl (h : s.Houses events) (user : RecordId) :
    (events.foldl apply s).bookingIdsOf user = s.bookingIdsOf user ++
      ((events.filterMap Event.entered?).filter (·.user = user)).map (·.id) := by
  induction events generalizing s with
  | nil => exact (List.append_nil _).symm
  | cons e rest ih =>
      rw [List.foldl_cons, ih h.apply]
      obtain ⟨room, hroom, hbooked⟩ := h e List.mem_cons_self
      cases e with
      | bookingCreated b =>
          obtain rfl := Option.some.inj hbooked
          rw [bookingIdsOf_apply_bookingCreated hroom]
          split
          · next huser => simp [Event.entered?, huser]
          · next huser => simp [Event.entered?, huser]
      | bookingCanceled id room' =>
          simp only [bookingIdsOf, (s.indexes_apply_bookingCanceled id room').2]
          rfl
      | _ => cases hbooked

/-- The entries of an index about different bookings may be made in any order. -/
theorem foldl_insert_perm {bookings other : List Booking} (hperm : bookings.Perm other)
    (hdistinct : (bookings.map (·.id)).Nodup) (m : ExtTreeMap RecordId RecordId) :
    bookings.foldl (fun m b => m.insert b.id b.room) m =
      other.foldl (fun m b => m.insert b.id b.room) m := by
  refine hperm.foldl_eq' (fun b hb b' hb' m => ?_) m
  by_cases hid : b.id = b'.id
  · rw [List.inj_on_of_nodup_map hdistinct hb hb' hid]
  · refine ExtTreeMap.ext_getElem? fun id => ?_
    simp only [lookup_insert]
    grind

/-! ## What readers see -/

/-- The stores differ at most in the order in which they list the bookings of a user. -/
structure SameButLists (s t : Store) : Prop where
  hotels_eq : t.hotels = s.hotels
  users_eq : t.users = s.users
  emails_eq : t.emails = s.emails
  rooms_eq : t.rooms = s.rooms
  roomOfBooking_eq : t.roomOfBooking = s.roomOfBooking
  ofUser_perm : ∀ user, (s.bookingIdsOf user).Perm (t.bookingIdsOf user)

theorem documents_foldl (h : s.Houses events) :
    (events.foldl apply s).hotels = s.hotels ∧ (events.foldl apply s).users = s.users ∧
      (events.foldl apply s).emails = s.emails := by
  induction events generalizing s with
  | nil => exact ⟨rfl, rfl, rfl⟩
  | cons e rest ih =>
      obtain ⟨room, -, hbooked⟩ := h e List.mem_cons_self
      obtain ⟨hhotels, husers, hemails⟩ := ih h.apply
      obtain ⟨hhotels', husers', hemails'⟩ := apply_of_booked (s := s) hbooked
      exact ⟨hhotels.trans hhotels', husers.trans husers', hemails.trans hemails'⟩

theorem sameButLists_foldl (h : s.Houses first) (hsame : SameForRooms first second)
    (hdistinct : ((first.filterMap Event.entered?).map (·.id)).Nodup) :
    (first.foldl apply s).SameButLists (second.foldl apply s) := by
  have h' : s.Houses second := fun e he => h e (hsame.perm.mem_iff.mpr he)
  have hentered := hsame.perm.filterMap Event.entered?
  obtain ⟨hhotels, husers, hemails⟩ := documents_foldl h
  obtain ⟨hhotels', husers', hemails'⟩ := documents_foldl h'
  refine ⟨hhotels'.trans hhotels.symm, husers'.trans husers.symm, hemails'.trans hemails.symm,
    ExtTreeMap.ext_getElem? fun room => ?_, ?_, fun user => ?_⟩
  · rw [getElem?_rooms_foldl h', getElem?_rooms_foldl h, hsame.rooms]
  · rw [roomOfBooking_foldl h', roomOfBooking_foldl h, foldl_insert_perm hentered hdistinct]
  · rw [bookingIdsOf_foldl h, bookingIdsOf_foldl h']
    exact ((hentered.filter _).map _).append_left _

theorem id_of_booking? {id : RecordId} {b : Booking} (h : s.booking? id = some b) : b.id = id := by
  simp only [booking?, Option.bind_eq_bind, Option.bind_eq_some_iff] at h
  obtain ⟨room, -, book, -, hfound⟩ := h
  exact (RoomBook.mem_of_booking? hfound).2

/-- The order by identifier does not depend on the order before, if none is ambiguous. -/
theorem byId_eq_of_perm {bookings other : List Booking} (hperm : bookings.Perm other)
    (hunique : ∀ a ∈ bookings, ∀ b ∈ bookings, a.id = b.id → a = b) :
    byId bookings = byId other := by
  have hsorted : (byId bookings).Perm (byId other) :=
    (List.mergeSort_perm _ _).trans (hperm.trans (List.mergeSort_perm _ _).symm)
  refine hsorted.eq_of_pairwise (fun a b ha hb hab hba => ?_) (pairwise_byId _) (pairwise_byId _)
  refine hunique a (mem_byId.mp ha) b (hperm.mem_iff.mpr (mem_byId.mp hb)) ?_
  exact RecordId.toNat_injective (Nat.le_antisymm hab hba)

namespace SameButLists

theorem booking?_eq (h : s.SameButLists t) : t.booking? = s.booking? := by
  funext id
  simp only [booking?, roomOfBooking?, publishedBook?, h.roomOfBooking_eq, h.rooms_eq]

/-- Listings are put in the order of identifiers, so they hide the order of the lists. -/
theorem bookingsOf_eq (h : s.SameButLists t) (user : RecordId) :
    t.bookingsOf user = s.bookingsOf user := by
  rw [bookingsOf, bookingsOf, h.booking?_eq]
  refine (byId_eq_of_perm ((h.ofUser_perm user).filterMap _) fun a ha b hb hid => ?_).symm
  obtain ⟨id, -, ha⟩ := List.mem_filterMap.mp ha
  obtain ⟨id', -, hb⟩ := List.mem_filterMap.mp hb
  obtain rfl : id = id' := by rw [← id_of_booking? ha, ← id_of_booking? hb, hid]
  exact Option.some.inj (ha.symm.trans hb)

end SameButLists

end Store

namespace Engine

/-- Whatever is looked up, the answers are the same. -/
structure AnswersLike (e e' : Engine) : Prop where
  hotel : ∀ text, e.hotel text = e'.hotel text
  user : ∀ text, e.user text = e'.user text
  userByEmail : ∀ email, e.userByEmail email = e'.userByEmail email
  room : ∀ today text, e.room today text = e'.room today text
  roomsOfHotel : ∀ text, e.roomsOfHotel text = e'.roomsOfHotel text
  booking : ∀ text, e.booking text = e'.booking text
  overlappingBookings : ∀ text stay,
    e.overlappingBookings text stay = e'.overlappingBookings text stay
  bookings : ∀ user?, e.bookings user? = e'.bookings user?
  listHotels : ∀ minRating page, e.listHotels minRating page = e'.listHotels minRating page
  listUsers : ∀ page, e.listUsers page = e'.listUsers page
  listRooms : ∀ today filter page,
    (e.listRooms today filter page).1 = (e'.listRooms today filter page).1
  listRoomsAfter : ∀ today filter page,
    (e.listRoomsAfter today filter page).1 = (e'.listRoomsAfter today filter page).1

theorem answersLike_of_sameButLists {e e' : Engine} (h : e.store.SameButLists e'.store) :
    e.AnswersLike e' := by
  have hbookings := h.bookingsOf_eq
  obtain ⟨store, journal, generator, tally⟩ := e'
  obtain ⟨lists, rfl⟩ : ∃ lists, store = { e.store with bookingsOfUser := lists } :=
    ⟨store.bookingsOfUser, Store.ext h.hotels_eq h.users_eq h.emails_eq h.rooms_eq
      h.roomOfBooking_eq rfl⟩
  refine ⟨fun _ => rfl, fun _ => rfl, fun _ => rfl, fun _ _ => rfl, fun _ => rfl, fun _ => rfl,
    fun _ _ => rfl, fun user? => ?_, fun _ _ => rfl, fun _ => rfl, fun _ _ _ => rfl,
    fun today filter page => ?_⟩
  · cases user? with
    | none => rfl
    | some user => exact (hbookings user).symm
  · unfold listRoomsAfter
    split
    · rfl
    · rfl

/-- Events about the bookings of rooms that are there, the new bookings being different, may be
applied in any order that keeps that of each room: whatever is looked up afterwards, the answers are
the same. So they are the same as after a restart, whatever order the log has. -/
theorem answersLike_of_sameForRooms (e : Engine) {first second : List Event}
    (hknown : e.store.Houses first)
    (hdistinct : ((first.filterMap Event.entered?).map (·.id)).Nodup)
    (hsame : SameForRooms first second) :
    AnswersLike { e with store := first.foldl Store.apply e.store }
        { e with store := second.foldl Store.apply e.store } ∧
      ∀ log, e.store = Store.replay log →
        AnswersLike { e with store := first.foldl Store.apply e.store }
          { e with store := Store.replay (log ++ second) } := by
  have hstores := Store.sameButLists_foldl hknown hsame hdistinct
  refine ⟨answersLike_of_sameButLists hstores, fun log hlog => answersLike_of_sameButLists ?_⟩
  change Store.SameButLists _ (Store.replay (log ++ second))
  rw [Store.replay_append, ← hlog]
  exact hstores

/-- A user books two rooms, and one of the bookings is canceled. The lists of the user's bookings
come out in different orders, but the answers alike. -/
theorem answersLike_of_two_rooms :
    let user := RecordId.ofParts 3 0
    let stay : Stay := ⟨⟨2030, 5, 1, by decide, by decide, by decide⟩,
      ⟨2030, 5, 4, by decide, by decide, by decide⟩⟩
    let e := (openOn []).run
      [.change .good ⟨5, 0⟩ (.createHotel "Inn" "Hill" 3),
        .change .good ⟨6, 0⟩ (.createRoom (RecordId.ofParts 5 0).hex .king .zero .zero),
        .change .good ⟨7, 0⟩ (.createRoom (RecordId.ofParts 5 0).hex .king .zero .zero)]
    let b : Booking := ⟨.ofParts 8 0, .ofParts 6 0, user, 1, stay, false⟩
    let other : Booking := ⟨.ofParts 9 0, .ofParts 7 0, user, 1, stay, false⟩
    let first : List Event :=
      [.bookingCreated b, .bookingCanceled b.id b.room, .bookingCreated other]
    let second : List Event :=
      [.bookingCreated other, .bookingCreated b, .bookingCanceled b.id b.room]
    let s := first.foldl Store.apply e.store
    let t := second.foldl Store.apply e.store
    s.bookingIdsOf user = [b.id, other.id] ∧ t.bookingIdsOf user = [other.id, b.id] ∧
      AnswersLike { e with store := s } { e with store := t } := by
  intro user stay e b other first second s t
  have hknown : e.store.Houses first := by
    have hroom : b.room ∈ e.store.rooms ∧ other.room ∈ e.store.rooms := by
      simp only [e, openOn_nil]
      decide +kernel
    simp [Store.Houses, first, Event.bookedRoom?, hroom]
  have hsame : SameForRooms first second := by
    refine ⟨by decide +kernel, fun room => ?_⟩
    have hne : b.room ≠ other.room := by decide
    by_cases hb : b.room = room
    · simp [first, second, Event.bookedRoom?, ← hb, hne.symm]
    · by_cases hother : other.room = room
      · simp [first, second, Event.bookedRoom?, hb, hother]
      · simp [first, second, Event.bookedRoom?, hb, hother]
  obtain ⟨hanswers, -⟩ := answersLike_of_sameForRooms e hknown (by decide) hsame
  refine ⟨?_, ?_, hanswers⟩
  · simp only [s, e, openOn_nil]
    decide +kernel
  · simp only [t, e, openOn_nil]
    decide +kernel

end Engine

end Lodging
