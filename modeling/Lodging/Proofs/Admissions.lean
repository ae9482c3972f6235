import Lodging.Proofs.Decisions
import Lodging.Proofs.Pages
import Lodging.Proofs.Refusals

/-!
# Admissions

While the log works and identifiers are left, a request for a booking is answered as it is decided.
The booking that an accepted request makes enters the book of its room and both indexes, and nothing
else is changed. Whatever can be looked up shows it at once.
-/

namespace Lodging

open Std (ExtTreeMap)
open Log (Conditions Journal)

namespace Store

variable {s t : Store} {id : RecordId} {stay : Stay} {b : Booking}

/-! ## One more booking -/

/-- The second store has one more booking than the first: in the book of its room, for writers and
readers, and at the end of both indexes. All else is the same. -/
structure Gains (s t : Store) (b : Booking) : Prop where
  above : ∀ id, s.Shows id → id < b.id
  same : t = { s with
    rooms := t.rooms, roomOfBooking := t.roomOfBooking, bookingsOfUser := t.bookingsOfUser }
  book : ∃ room before after, s.rooms[b.room]? = some (.shown ⟨room, before ++ after⟩) ∧
    t.rooms[b.room]? = some (.shown ⟨room, before ++ b :: after⟩)
  otherRooms : ∀ room, room ≠ b.room → t.rooms[room]? = s.rooms[room]?
  roomOf : ∀ id : RecordId, t.roomOfBooking[id]? =
    if b.id = id then some b.room else s.roomOfBooking[id]?
  ofUser : ∀ user, t.bookingIdsOf user =
    if b.user = user then s.bookingIdsOf user ++ [b.id] else s.bookingIdsOf user

theorem Sound.gains_apply (h : s.Sound) (hknown : b.room ∈ s.rooms)
    (habove : ∀ id, s.Shows id → id < b.id) : s.Gains (s.apply (.bookingCreated b)) b := by
  obtain ⟨slot, hslot⟩ := mem_iff_lookup.mp hknown
  have hrooms := rooms_apply_of_booked (e := .bookingCreated b) rfl hslot
  obtain ⟨before, after, hbookings, henter⟩ := RoomBook.exists_enter_eq b slot.current.bookings
  refine ⟨habove, ?_, ⟨slot.current.room, before, after, ?_, ?_⟩, fun room hne => ?_,
    roomOfBooking_apply_bookingCreated hknown, bookingIdsOf_apply_bookingCreated hknown⟩
  · rw [apply_bookingCreated hslot]
    rfl
  · rw [hslot, h.coherent.shown hslot, ← hbookings]
    rfl
  · rw [hrooms, lookup_insert, if_pos rfl, ← henter]
    rfl
  · rw [hrooms, lookup_insert, if_neg (Ne.symm hne)]

theorem conflicts_apply_bookingCreated (hknown : b.room ∈ s.rooms) (hactive : b.canceled = false)
    {b' : Booking} : (s.apply (.bookingCreated b)).Conflicts id stay b' ↔
      s.Conflicts id stay b' ∨ b' = b ∧ b.room = id ∧
        ∃ night, stay.HasNight night ∧ b.stay.HasNight night := by
  have hmem : b' ∈ (s.apply (.bookingCreated b)).bookingsIn id ↔
      b' ∈ s.bookingsIn id ∨ b' = b ∧ b.room = id := by
    rw [bookingsIn_apply_bookingCreated hknown]
    split
    · next hroom => simp only [RoomBook.mem_enter, hroom, and_true, or_comm]
    · next hroom => simp only [hroom, and_false, or_false]
  constructor
  · rintro ⟨hb', hactive', hshared⟩
    rcases hmem.mp hb' with hb' | ⟨rfl, hroom⟩
    · exact .inl ⟨hb', hactive', hshared⟩
    · exact .inr ⟨rfl, hroom, hshared⟩
  · rintro (⟨hb', hactive', hshared⟩ | ⟨rfl, hroom, hshared⟩)
    · exact ⟨hmem.mpr (.inl hb'), hactive', hshared⟩
    · exact ⟨hmem.mpr (.inr ⟨rfl, hroom⟩), hactive, hshared⟩

theorem publishedBook?_apply_bookingCreated (h : s.Sound) (hknown : b.room ∈ s.rooms)
    (room : RecordId) : (s.apply (.bookingCreated b)).publishedBook? room =
      if b.room = room then (s.publishedBook? room).map (·.insert b) else s.publishedBook? room := by
  obtain ⟨slot, hslot⟩ := mem_iff_lookup.mp hknown
  rw [publishedBook?, rooms_apply_of_booked (e := .bookingCreated b) rfl hslot, lookup_insert]
  split
  · next hroom =>
      rw [publishedBook?, ← hroom, hslot, Option.map_some, Option.map_some, h.coherent.shown hslot]
      rfl
  · rfl

/-- A booking with an identifier above all others comes last in the ledger. -/
theorem Sound.allBookings_apply_bookingCreated (h : s.Sound)
    (hallows : s.Allows (.bookingCreated b)) (habove : ∀ id, s.Shows id → id < b.id) :
    (s.apply (.bookingCreated b)).allBookings = s.allBookings ++ [b] := by
  have hsound := h.apply hallows
  have hbelow : ∀ b' ∈ s.allBookings, b'.id < b.id := by
    intro b' hb'
    have hmem := h.coherent.mem_allBookings.mp hb'
    exact habove _ (.inr (.inr (.inr ⟨_, b'.entry, List.mem_map_of_mem hmem, rfl⟩)))
  refine eq_of_mem_iff_of_lt (fun b' => ?_) hsound.coherent.pairwise_allBookings ?_
  · rw [hsound.coherent.mem_allBookings, bookingsIn_apply_bookingCreated hallows.admits.2,
      List.mem_append, List.mem_singleton, h.coherent.mem_allBookings]
    split
    · rw [RoomBook.mem_enter, or_comm]
    · next hroom =>
        refine (or_iff_left ?_).symm
        rintro rfl
        exact hroom rfl
  · refine List.pairwise_append.mpr ⟨h.coherent.pairwise_allBookings, List.pairwise_singleton _ _,
      fun b' hb' last hlast => ?_⟩
    rw [List.mem_singleton.mp hlast]
    exact hbelow b' hb'

end Store

namespace Engine

variable {e e' : Engine} {c : Conditions} {m : Moment} {id : RecordId} {b : Booking}

theorem booking_eq (h : e.store.Coherent) (text : String) : e.booking text =
    readId text >>= fun id => orNotFound id (e.store.booking? id) := by
  unfold Engine.booking Store.booking?
  congr 1
  funext id
  cases hroomOf : e.store.roomOfBooking? id with
  | none => rfl
  | some room =>
      -- The book of a room to which the index leads is there.
      obtain ⟨b, hb, -⟩ := Store.exists_entry_iff.mp (h.ledger.room_iff.mp hroomOf)
      obtain ⟨slot, hslot⟩ := mem_iff_lookup.mp (Store.mem_rooms_of_mem_bookingsIn hb)
      have hbook : e.store.publishedBook? room = some slot.published :=
        congrArg (Option.map _) hslot
      simp only [orNotFound, ok_bind, hbook, Option.bind_eq_bind, Option.bind_some]

/-- Where ledgers differ in the bookings of one identifier alone, so do the look-ups. -/
theorem booking_eq_ite (h : e.store.Coherent) (h' : e'.store.Coherent)
    (hb : b ∈ e'.store.allBookings)
    (hother : ∀ b', b'.id ≠ b.id → (b' ∈ e'.store.allBookings ↔ b' ∈ e.store.allBookings))
    (text : String) :
    e'.booking text = if readId text = .ok b.id then .ok b else e.booking text := by
  rw [booking_eq h, booking_eq h']
  cases hread : readId text with
  | error error => simp only [error_bind, reduceCtorEq, if_false]
  | ok id =>
      rw [ok_bind, ok_bind]
      by_cases hid : id = b.id
      · rw [if_pos (by rw [hid]), h'.booking?_eq_some_iff.mpr ⟨hb, hid.symm⟩]
        rfl
      · have hsame : e'.store.booking? id = e.store.booking? id := by
          ext b'
          rw [h'.booking?_eq_some_iff, h.booking?_eq_some_iff]
          refine and_congr_left fun hb' => hother b' ?_
          rintro heq
          exact hid (hb'.symm.trans heq)
        rw [if_neg fun heq => hid (Except.ok.inj heq), hsame]

theorem room_eq (e : Engine) (today : Day) (text : String) : e.room today text =
    readId text >>= fun id => orNotFound id ((e.store.publishedBook? id).map (·.listing today)) := by
  unfold Engine.room
  congr 1
  funext id
  cases e.store.publishedBook? id with
  | none => rfl
  | some book => rfl

theorem overlappingBookings_eq_ok_iff {text : String} {stay : Stay} {found : List Booking} :
    e.overlappingBookings text stay = .ok found ↔ ∃ id book, readId text = .ok id ∧
      stay.check = .ok () ∧ e.store.publishedBook? id = some book ∧
      book.overlapping stay = found := by
  simp only [overlappingBookings, bind_eq_ok_iff, orNotFound_eq_ok_iff]
  constructor
  · rintro ⟨id, hread, ⟨⟩, hcheck, book, hbook, hfound⟩
    exact ⟨id, book, hread, hcheck, hbook, Except.ok.inj hfound⟩
  · rintro ⟨id, book, hread, hcheck, hbook, rfl⟩
    exact ⟨id, hread, (), hcheck, book, hbook, rfl⟩

/-! ## What readers see -/

/-- The listing of a room with one more booking, if it is the booking's room. -/
def countIn (b : Booking) (today : Day) (x : RoomListing) : RoomListing :=
  if b.room = x.room.id then ⟨x.room, x.status.join (b.statusOn today)⟩ else x

/-- Everything that can be looked up shows the booking, and otherwise is as before. The status of a
room counts the booking in. -/
structure Registers (e e' : Engine) (b : Booking) : Prop where
  booking : ∀ text, e'.booking text =
    if readId text = .ok b.id then .ok b else e.booking text
  allBookings : e'.bookings none = e.bookings none ++ [b]
  bookings : ∀ user, e'.bookings (some user) =
    if b.user = user then e.bookings (some user) ++ [b] else e.bookings (some user)
  overlapping : ∀ text stay found, e.overlappingBookings text stay = .ok found →
    ∃ found', e'.overlappingBookings text stay = .ok found' ∧ ∀ b', b' ∈ found' ↔
      b' ∈ found ∨ b' = b ∧ readId text = .ok b.room ∧
        ∃ night, stay.HasNight night ∧ b.stay.HasNight night
  overlapping_error : ∀ text stay error, e.overlappingBookings text stay = .error error →
    e'.overlappingBookings text stay = .error error
  room : ∀ today text, e'.room today text = (e.room today text).map (countIn b today)
  passing : ∀ today filter, e'.store.passing today filter =
    ((e.store.passing today []).map (countIn b today)).filter (·.status.passes filter)
  hotel : ∀ text, e'.hotel text = e.hotel text
  user : ∀ text, e'.user text = e.user text
  userByEmail : ∀ email, e'.userByEmail email = e.userByEmail email
  roomsOfHotel : ∀ text, e'.roomsOfHotel text = e.roomsOfHotel text
  listHotels : ∀ minRating page, e'.listHotels minRating page = e.listHotels minRating page
  listUsers : ∀ page, e'.listUsers page = e.listUsers page

section

variable (h : e.store.Sound) (hallows : e.store.Allows (.bookingCreated b))
  (hafter : e'.store = e.store.apply (.bookingCreated b))
include h hallows hafter

theorem publishedBook?_of_created (room : RecordId) : e'.store.publishedBook? room =
    if b.room = room then (e.store.publishedBook? room).map (·.insert b)
    else e.store.publishedBook? room := by
  rw [hafter]
  exact Store.publishedBook?_apply_bookingCreated h hallows.admits.2 room

theorem listing_of_created (today : Day) (id : RecordId) :
    (e'.store.publishedBook? id).map (·.listing today) =
      ((e.store.publishedBook? id).map (·.listing today)).map (countIn b today) := by
  rw [publishedBook?_of_created h hallows hafter, Option.map_map]
  cases hbook : e.store.publishedBook? id with
  | none => split <;> rfl
  | some book =>
      have hid := h.room_id_current (h.coherent.publishedBook?_eq id ▸ hbook)
      simp only [Option.map_some, Function.comp, countIn, RoomBook.listing, hid]
      split
      · next hroom => rw [Option.map_some, RoomBook.status_insert]; rfl
      · rfl

theorem room_of_created (today : Day) (text : String) :
    e'.room today text = (e.room today text).map (countIn b today) := by
  rw [room_eq, room_eq]
  cases readId text with
  | error error => rfl
  | ok id =>
      rw [ok_bind, ok_bind, listing_of_created h hallows hafter]
      cases (e.store.publishedBook? id).map (·.listing today) with
      | none => rfl
      | some x => rfl

theorem passing_of_created (today : Day) (filter : List RoomStatus) :
    e'.store.passing today filter =
      ((e.store.passing today []).map (countIn b today)).filter (·.status.passes filter) := by
  have hids : e'.store.roomIds = e.store.roomIds := by
    refine eq_of_mem_iff (pairwise_roomIds _) (pairwise_roomIds _) fun id => ?_
    rw [Store.roomIds, Store.roomIds, ExtTreeMap.mem_keys, ExtTreeMap.mem_keys, hafter,
      Store.mem_rooms_apply]
    refine or_iff_left ?_
    rintro ⟨room, hroom, -⟩
    cases hroom
  have hall : (fun x : RoomListing => x.status.passes []) = fun _ => true := rfl
  simp only [Store.passing, Store.listRooms, hids, listing_of_created h hallows hafter, hall,
    List.filter_true, List.map_filterMap]

theorem overlapping_of_created (hactive : b.canceled = false) {text : String} {stay : Stay}
    {found : List Booking} (hfound : e.overlappingBookings text stay = .ok found) :
    ∃ found', e'.overlappingBookings text stay = .ok found' ∧ ∀ b', b' ∈ found' ↔
      b' ∈ found ∨ b' = b ∧ readId text = .ok b.room ∧
        ∃ night, stay.HasNight night ∧ b.stay.HasNight night := by
  obtain ⟨id, book, hread, hcheck, hbook, rfl⟩ := overlappingBookings_eq_ok_iff.mp hfound
  have hsound : e'.store.Sound := hafter ▸ h.apply hallows
  obtain ⟨book', hbook'⟩ : ∃ book', e'.store.publishedBook? id = some book' := by
    rw [publishedBook?_of_created h hallows hafter, hbook]
    split
    · exact ⟨_, rfl⟩
    · exact ⟨_, rfl⟩
  refine ⟨book'.overlapping stay, overlappingBookings_eq_ok_iff.mpr
    ⟨id, book', hread, hcheck, hbook', rfl⟩, fun b' => ?_⟩
  rw [hsound.coherent.publishedBook?_eq] at hbook'
  rw [h.coherent.publishedBook?_eq] at hbook
  have hstay := lasts_of_check hcheck
  rw [hsound.mem_overlapping_iff hbook' hstay, h.mem_overlapping_iff hbook hstay, hafter,
    Store.conflicts_apply_bookingCreated hallows.admits.2 hactive, hread]
  simp only [Except.ok.injEq, eq_comm]

theorem overlapping_error_of_created {text : String} {stay : Stay} {error : LedgerError}
    (hfound : e.overlappingBookings text stay = .error error) :
    e'.overlappingBookings text stay = .error error := by
  unfold overlappingBookings at hfound ⊢
  cases hread : readId text with
  | error error' => rwa [hread] at hfound
  | ok id =>
      rw [hread, ok_bind] at hfound
      rw [ok_bind]
      cases hcheck : stay.check with
      | error error' => rwa [hcheck] at hfound
      | ok _ =>
          rw [hcheck, ok_bind] at hfound
          rw [ok_bind, publishedBook?_of_created h hallows hafter]
          cases hbook : e.store.publishedBook? id with
          | none =>
              rw [hbook] at hfound
              split
              · exact hfound
              · exact hfound
          | some book =>
              rw [hbook] at hfound
              cases hfound

theorem roomsOfHotel_of_created (text : String) : e'.roomsOfHotel text = e.roomsOfHotel text := by
  have hroom (id : RecordId) : (e'.store.publishedBook? id).map (·.room) =
      (e.store.publishedBook? id).map (·.room) := by
    rw [publishedBook?_of_created h hallows hafter]
    split
    · rw [Option.map_map]
      rfl
    · rfl
  have hhotels : e'.store.hotels = e.store.hotels := by
    rw [hafter, (Store.apply_of_booked (e := .bookingCreated b) rfl).1]
  simp only [Engine.roomsOfHotel, Store.roomsOfHotel, Store.hotel?, hhotels, hroom]

theorem registers_of_created (hactive : b.canceled = false)
    (habove : ∀ id, e.store.Shows id → id < b.id) : e.Registers e' b := by
  have hsound := h.apply hallows
  have hall := h.allBookings_apply_bookingCreated hallows habove
  obtain ⟨hhotels, husers, hemails⟩ :=
    Store.apply_of_booked (s := e.store) (e := .bookingCreated b) rfl
  rw [← hafter] at hhotels husers hemails
  have huser? : e'.store.user? = e.store.user? :=
    funext fun id => by simp only [Store.user?, husers]
  exact {
    booking := by
      refine booking_eq_ite h.coherent (hafter ▸ hsound.coherent) ?_ fun b' hid => ?_
      · rw [hafter, hall]
        exact List.mem_append_right _ (List.mem_singleton_self b)
      · rw [hafter, hall, List.mem_append, List.mem_singleton]
        refine or_iff_left ?_
        rintro rfl
        exact hid rfl
    allBookings := by
      rw [bookings, hafter]
      exact hall
    bookings user := by
      rw [bookings, hafter, hsound.bookingsOf_eq_filter, hall, List.filter_append,
        ← h.bookingsOf_eq_filter]
      by_cases huser : b.user = user
      · simp [huser, bookings]
      · simp [huser, bookings]
    overlapping text stay found := overlapping_of_created h hallows hafter hactive
    overlapping_error text stay error := overlapping_error_of_created h hallows hafter
    room := room_of_created h hallows hafter
    hotel text := by simp only [Engine.hotel, Store.hotel?, hhotels]
    passing := passing_of_created h hallows hafter
    user text := by simp only [Engine.user, huser?]
    userByEmail email := by simp only [Engine.userByEmail, Store.userByEmail?, hemails, huser?]
    roomsOfHotel := roomsOfHotel_of_created h hallows hafter
    listHotels minRating page := by simp only [Engine.listHotels, Store.allHotels, hhotels]
    listUsers page := by simp only [Engine.listUsers, Store.allUsers, husers] }

end

/-! ## Booking a room -/

theorem perform_of_bookingPlan {change : Change} {room user : RecordId} {guests : UInt32}
    {stay : Stay} (hplan : e.store.plan change = .ok (Store.bookingPlan user guests stay room))
    (hdraw : e.generator.draw? m = some id) (hc : c.Accepts)
    (htrusted : e.journal.poisoned = false) :
    (e.perform c m change).1 = .ok (.booking ⟨id, room, user, guests, stay, false⟩) ∧
      (e.perform c m change).2.store =
        e.store.apply (.bookingCreated ⟨id, room, user, guests, stay, false⟩) := by
  obtain ⟨journal, hcommit⟩ :=
    (Proposes.create hplan (Generator.lt_of_draw? hdraw)).commit_of_accepts hc htrusted
  simp only [perform, propose, hplan, Store.bookingPlan, prepare, Generator.next, hdraw, commit,
    hcommit]
  exact ⟨rfl, rfl⟩

theorem Describes.allows_of_bookingPlan {log : List Event} (h : e.Describes log) {change : Change}
    {room user : RecordId} {guests : UInt32} {stay : Stay}
    (hplan : e.store.plan change = .ok (Store.bookingPlan user guests stay room))
    (hid : e.generator.last < id) :
    e.store.Allows (.bookingCreated ⟨id, room, user, guests, stay, false⟩) :=
  (h.sound.promises_plan hplan id).2 (h.below hid) fun _ huser => nomatch huser

/-- While the log works and identifiers are left, a request is answered as it is decided, and one
for a room that can be had is a change that the store admits. -/
theorem Describes.perform_createBooking {log : List Event} (h : e.Describes log)
    (hdraw : e.generator.draw? m = some id) (hc : c.Accepts)
    (htrusted : e.journal.poisoned = false) (room : String) (user : RecordId) (guests : UInt32)
    (stay : Stay) :
    ∃ decision, e.store.Decision room guests stay decision ∧
      (e.perform c m (.createBooking room user guests stay)).1 =
        decision.map (fun roomId => .booking ⟨id, roomId, user, guests, stay, false⟩) ∧
      ∀ roomId, decision = .ok roomId →
        let event : Event := .bookingCreated ⟨id, roomId, user, guests, stay, false⟩
        e.store.Allows event ∧
          (e.perform c m (.createBooking room user guests stay)).2.store = e.store.apply event := by
  obtain ⟨decision, hdecision, hplan⟩ := h.sound.decision room user guests stay
  cases decision with
  | error error => exact ⟨_, hdecision, perform_of_plan_error hplan, nofun⟩
  | ok roomId =>
      obtain ⟨hanswer, hafter⟩ := perform_of_bookingPlan hplan hdraw hc htrusted
      refine ⟨_, hdecision, hanswer, fun roomId' hroom => ?_⟩
      cases hroom
      exact ⟨h.allows_of_bookingPlan hplan (Generator.lt_of_draw? hdraw), hafter⟩

/-- Whatever was asked of an engine that began on an empty log before, while its log works and
identifiers are left, a request for a booking is answered with a booking exactly if the room is
there, the stay lasts one to 365 nights, one to 16 guests come, and no active booking of the room
shares a night with the stay. Otherwise the answer is the first of the reasons against it, and names
the conflicting booking that begins first. The new booking is as asked for and has an identifier
above all others; nothing else is changed, and everything that can be looked up shows it. -/
theorem run_bookings_admitted (actions : List Action) (hc : c.Accepts)
    (htrusted : ((openOn []).run actions).journal.poisoned = false)
    (hdraw : ((openOn []).run actions).generator.draw? m = some id)
    (room : String) (user : RecordId) (guests : UInt32) (stay : Stay) :
    let e := (openOn []).run actions
    let r := e.perform c m (.createBooking room user guests stay)
    ((∃ reply, r.1 = .ok reply) ↔ ∃ roomId, RecordId.parse room = .ok roomId ∧
        stay.checkIn < stay.checkOut ∧ {night | stay.HasNight night}.encard ≤ 365 ∧
        1 ≤ guests ∧ guests ≤ 16 ∧ roomId ∈ e.store.rooms ∧
        ∀ b, ¬ e.store.Conflicts roomId stay b) ∧
      (∃ decision, e.store.Decision room guests stay decision ∧
        r.1 = decision.map fun roomId => .booking ⟨id, roomId, user, guests, stay, false⟩) ∧
      ∀ reply, r.1 = .ok reply → ∃ roomId, RecordId.parse room = .ok roomId ∧
        let b : Booking := ⟨id, roomId, user, guests, stay, false⟩
        reply = .booking b ∧ e.store.Gains r.2.store b ∧ e.Registers r.2 b := by
  intro e r
  obtain ⟨log, hdescribes⟩ : ∃ log, e.Describes log := describes_run actions
  have hsteady : e.Steady := (steady_openOn []).run actions
  obtain ⟨decision, hdecision, hanswer, hafter⟩ :=
    hdescribes.perform_createBooking hdraw hc htrusted room user guests stay
  refine ⟨?_, ⟨decision, hdecision, hanswer⟩, fun reply hreply => ?_⟩
  · rw [hanswer, exists_map_eq_ok_iff, hdecision.isOk_iff]
  · rw [hanswer] at hreply
    cases hdecision with
    | @free roomId hroom hstay hguests hknown hfree =>
        obtain ⟨hallows, hafter⟩ := hafter roomId rfl
        have habove (id' : RecordId) (hshows : e.store.Shows id') : id' < id :=
          Nat.lt_of_le_of_lt (hsteady.shows_le hshows) (Generator.lt_of_draw? hdraw)
        have hgains := hdescribes.sound.gains_apply hallows.admits.2 habove
        rw [← hafter] at hgains
        exact ⟨roomId, hroom, (Except.ok.inj hreply).symm, hgains,
          registers_of_created hdescribes.sound hallows hafter rfl habove⟩
    | _ => cases hreply

/-- A room is booked up to a day, and is asked for again from that day on. -/
theorem run_bookings_admitted_of_next_guest :
    let first : Stay := ⟨⟨2030, 2, 27, by decide, by decide, by decide⟩,
      ⟨2030, 3, 2, by decide, by decide, by decide⟩⟩
    let stay : Stay := ⟨⟨2030, 3, 2, by decide, by decide, by decide⟩,
      ⟨2031, 3, 2, by decide, by decide, by decide⟩⟩
    let room := RecordId.ofParts 6 0
    let actions : List Action :=
      [.change .good ⟨5, 0⟩ (.createHotel "Inn" "Hill" 3),
        .change .good ⟨6, 0⟩ (.createRoom (RecordId.ofParts 5 0).hex .king .zero .zero),
        .change .good ⟨7, 0⟩ (.createBooking room.hex (.ofParts 3 0) 1 first)]
    let e := (openOn []).run actions
    let r := e.perform .good ⟨8, 0⟩ (.createBooking room.hex (.ofParts 4 0) 16 stay)
    let b : Booking := ⟨.ofParts 8 0, room, .ofParts 4 0, 16, stay, false⟩
    e.journal.poisoned = false ∧ e.generator.draw? ⟨8, 0⟩ = some b.id ∧
      (e.bookings none).length = 1 ∧ r.1 = .ok (.booking b) ∧ e.Registers r.2 b := by
  intro first stay room actions e r b
  have htrusted : e.journal.poisoned = false := by
    simp only [e, actions, openOn_nil]
    decide +kernel
  have hdraw : e.generator.draw? ⟨8, 0⟩ = some b.id := by
    simp only [e, actions, openOn_nil]
    decide +kernel
  have hanswer : r.1 = .ok (.booking b) := by
    simp only [r, e, actions, openOn_nil]
    decide +kernel
  have hcount : (e.bookings none).length = 1 := by
    simp only [e, actions, openOn_nil]
    decide +kernel
  have hrun : (openOn []).run actions = e := rfl
  have hadmitted := @run_bookings_admitted .good ⟨8, 0⟩ b.id actions Log.Conditions.accepts_good
  rw [hrun] at hadmitted
  clear_value e
  obtain ⟨-, -, hok⟩ := hadmitted htrusted hdraw room.hex (.ofParts 4 0) 16 stay
  obtain ⟨roomId, hroom, hreply, -, hregisters⟩ := hok _ hanswer
  rw [RecordId.parse_hex] at hroom
  cases hroom
  exact ⟨htrusted, hdraw, hcount, hanswer, hregisters⟩

end Engine

end Lodging
