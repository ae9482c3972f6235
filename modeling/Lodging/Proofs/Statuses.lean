import Lodging.Proofs.Decisions
import Lodging.Proofs.Occupancy
import Lodging.Proofs.Pages
import Mathlib.Order.Basic

/-!
# The status of the rooms

A room is occupied while a guest is in the house, else booked if a guest will come, else available.
Only the active bookings count, and their order does not: each makes something of the room, and the
busiest of that is the status. The listings by one status share the rooms out among them.
-/

namespace Lodging

namespace RoomStatus

/-! ## From the idlest to the busiest -/

def rank : RoomStatus → Nat
  | available => 0
  | booked => 1
  | occupied => 2

theorem rank_injective : Function.Injective rank := by
  intro a b h
  cases a <;> cases b <;> first | rfl | cases h

instance : LinearOrder RoomStatus := LinearOrder.lift' rank rank_injective

theorem available_le (a : RoomStatus) : available ≤ a := by
  cases a <;> decide

theorem eq_available_iff {a : RoomStatus} : a = available ↔ a ≤ available := by
  cases a <;> decide

theorem eq_booked_iff {a : RoomStatus} : a = booked ↔ a ≤ booked ∧ ¬a ≤ available := by
  cases a <;> decide

theorem eq_occupied_iff {a : RoomStatus} : a = occupied ↔ ¬a ≤ booked := by
  cases a <;> decide

theorem join_le_iff {a b c : RoomStatus} : a.join b ≤ c ↔ a ≤ c ∧ b ≤ c := by
  cases a <;> cases b <;> cases c <;> decide

end RoomStatus

/-! ## Bookings -/

namespace Booking

variable {b : Booking} {today : Day}

/-- The guest is in the house, on the days of arrival and departure included. -/
def Occupies (b : Booking) (today : Day) : Prop :=
  b.isActive = true ∧ b.stay.checkIn ≤ today ∧ today ≤ b.stay.checkOut

/-- The guest will come. -/
def LiesAhead (b : Booking) (today : Day) : Prop :=
  b.isActive = true ∧ today < b.stay.checkIn

theorem isActive_iff : b.isActive = true ↔ ¬b.canceled = true := by
  simp [isActive]

theorem covers_iff {stay : Stay} :
    stay.covers today = true ↔ stay.checkIn ≤ today ∧ today ≤ stay.checkOut := by
  simp [Stay.covers]

theorem statusOn_of_not_active (h : ¬b.isActive = true) : b.statusOn today = .available := by
  rw [isActive_iff, not_not] at h
  rw [statusOn, if_pos h]

/-- The three cases of what a booking makes of its room. -/
theorem statusOn_cases (b : Booking) (today : Day) :
    b.Occupies today ∧ b.statusOn today = .occupied ∨
      ¬b.Occupies today ∧ b.LiesAhead today ∧ b.statusOn today = .booked ∨
      ¬b.Occupies today ∧ ¬b.LiesAhead today ∧ b.statusOn today = .available := by
  unfold statusOn Occupies LiesAhead
  rw [isActive_iff, ← covers_iff]
  split_ifs with hcanceled hcovers hahead <;> simp_all

theorem statusOn_le_booked_iff : b.statusOn today ≤ .booked ↔ ¬b.Occupies today := by
  rcases statusOn_cases b today with ⟨h, heq⟩ | ⟨h, -, heq⟩ | ⟨h, -, heq⟩
  · exact iff_of_false (by rw [heq]; decide) (not_not_intro h)
  · exact iff_of_true (by rw [heq]) h
  · exact iff_of_true (by rw [heq]; decide) h

theorem statusOn_le_available_iff :
    b.statusOn today ≤ .available ↔ ¬b.Occupies today ∧ ¬b.LiesAhead today := by
  rcases statusOn_cases b today with ⟨h, heq⟩ | ⟨-, h, heq⟩ | ⟨h, h', heq⟩
  · exact iff_of_false (by rw [heq]; decide) fun hnone => hnone.1 h
  · exact iff_of_false (by rw [heq]; decide) fun hnone => hnone.2 h
  · exact iff_of_true (by rw [heq]) ⟨h, h'⟩

end Booking

namespace RoomBook

variable {book other : RoomBook} {bookings : List Booking} {today : Day} {status : RoomStatus}

/-! ## Books -/

theorem busiest_le_iff :
    busiest today bookings ≤ status ↔ ∀ b ∈ bookings, b.statusOn today ≤ status := by
  induction bookings with
  | nil => simp [busiest, RoomStatus.available_le]
  | cons b rest ih => rw [busiest_cons, RoomStatus.join_le_iff, ih, List.forall_mem_cons]

theorem status_le_iff :
    book.status today ≤ status ↔ ∀ b ∈ book.bookings, b.statusOn today ≤ status := by
  rw [status_eq, busiest_le_iff]

theorem status_le_booked_iff :
    book.status today ≤ .booked ↔ ∀ b ∈ book.bookings, ¬b.Occupies today := by
  simp only [status_le_iff, Booking.statusOn_le_booked_iff]

theorem status_le_available_iff :
    book.status today ≤ .available ↔
      ∀ b ∈ book.bookings, ¬b.Occupies today ∧ ¬b.LiesAhead today := by
  simp only [status_le_iff, Booking.statusOn_le_available_iff]

theorem status_eq_occupied_iff :
    book.status today = .occupied ↔ ∃ b ∈ book.bookings, b.Occupies today := by
  rw [RoomStatus.eq_occupied_iff, status_le_booked_iff]
  push Not
  rfl

theorem status_eq_booked_iff :
    book.status today = .booked ↔
      (¬∃ b ∈ book.bookings, b.Occupies today) ∧ ∃ b ∈ book.bookings, b.LiesAhead today := by
  rw [RoomStatus.eq_booked_iff, status_le_booked_iff, status_le_available_iff, not_exists]
  constructor
  · rintro ⟨hnone, hahead⟩
    push Not at hahead
    obtain ⟨b, hb, hahead⟩ := hahead
    exact ⟨fun b hb => hnone b hb.1 hb.2, b, hb, hahead (hnone b hb)⟩
  · rintro ⟨hnone, b, hb, hahead⟩
    exact ⟨fun b hb hoccupies => hnone b ⟨hb, hoccupies⟩, fun hidle => (hidle b hb).2 hahead⟩

theorem status_eq_available_iff :
    book.status today = .available ↔
      (¬∃ b ∈ book.bookings, b.Occupies today) ∧ ¬∃ b ∈ book.bookings, b.LiesAhead today := by
  rw [RoomStatus.eq_available_iff, status_le_available_iff]
  constructor
  · intro hidle
    exact ⟨fun ⟨b, hb, h⟩ => (hidle b hb).1 h, fun ⟨b, hb, h⟩ => (hidle b hb).2 h⟩
  · rintro ⟨hnone, hnone'⟩ b hb
    exact ⟨fun h => hnone ⟨b, hb, h⟩, fun h => hnone' ⟨b, hb, h⟩⟩

/-- A book with fewer active bookings is no busier. -/
theorem status_le_of_active_subset
    (h : ∀ b ∈ book.bookings, b.isActive = true → b ∈ other.bookings) :
    book.status today ≤ other.status today := by
  refine status_le_iff.mpr fun b hb => ?_
  by_cases hactive : b.isActive = true
  · exact status_le_iff.mp (le_refl _) b (h b hb hactive)
  · rw [Booking.statusOn_of_not_active hactive]
    exact RoomStatus.available_le _

theorem status_eq_of_perm_active (h : other.active.Perm book.active) :
    other.status today = book.status today := by
  have hsubset {book other : RoomBook} (h : other.active.Perm book.active) :
      ∀ b ∈ other.bookings, b.isActive = true → b ∈ book.bookings := fun b hb hactive =>
    (List.mem_filter.mp (h.mem_iff.mp (List.mem_filter.mpr ⟨hb, hactive⟩))).1
  exact le_antisymm (status_le_of_active_subset (hsubset h))
    (status_le_of_active_subset (hsubset h.symm))

theorem status_cancel_le (book : RoomBook) (id : RecordId) (today : Day) :
    (book.cancel id).status today ≤ book.status today := by
  refine status_le_of_active_subset fun b hb hactive => ?_
  rcases mem_strike hb with hb | ⟨b', -, rfl⟩
  · exact hb
  · cases hactive

theorem status_le_insert (book : RoomBook) (b : Booking) (today : Day) :
    book.status today ≤ (book.insert b).status today :=
  status_le_of_active_subset fun _ hb _ => mem_enter.mpr (.inr hb)

end RoomBook

/-! ## Listings -/

/-- Whatever is listed is listed under exactly one status. -/
theorem perm_flatMap_filter_status (listing : List RoomListing) :
    (RoomStatus.all.flatMap fun status => listing.filter (·.status = status)).Perm listing := by
  induction listing with
  | nil => exact List.Perm.refl _
  | cons x rest ih =>
      simp only [RoomStatus.all, List.flatMap_cons, List.flatMap_nil, List.append_nil,
        List.filter_cons, ← List.append_assoc] at ih ⊢
      cases x.status with
      | available => exact ih.cons x
      | booked =>
          have hmiddle : (rest.filter (·.status = .available) ++
              x :: rest.filter (·.status = .booked)).Perm
                (x :: (rest.filter (·.status = .available) ++ rest.filter (·.status = .booked))) :=
            List.perm_middle
          exact (hmiddle.append_right _).trans (ih.cons x)
      | occupied => exact List.perm_middle.trans (ih.cons x)

namespace Store

variable {s : Store} {today : Day} {ids : List RecordId}

theorem listRooms_status (s : Store) (today : Day) (status : RoomStatus) (ids : List RecordId) :
    s.listRooms today [status] ids = (s.listRooms today [] ids).filter (·.status = status) := by
  simp [listRooms, RoomStatus.passes]

end Store

namespace Engine

variable {e : Engine} {today : Day} {text : String} {x : RoomListing}

theorem room_eq_ok_iff :
    e.room today text = .ok x ↔ ∃ id book, RecordId.parse text = .ok id ∧
      e.store.publishedBook? id = some book ∧ x = ⟨book.room, book.status today⟩ := by
  simp only [room, bind_eq_ok_iff, Store.readId_eq_ok_iff, orNotFound_eq_ok_iff]
  constructor
  · rintro ⟨id, hread, book, hbook, hx⟩
    exact ⟨id, book, hread, hbook, (Except.ok.inj hx).symm⟩
  · rintro ⟨id, book, hread, hbook, rfl⟩
    exact ⟨id, hread, book, hbook, rfl⟩

/-- The unfiltered listing shows what the rooms show one by one. -/
theorem map_room_roomIds (e : Engine) (today : Day) :
    (e.store.roomIds.map fun id => e.room today id.hex) =
      (e.store.passing today []).map .ok := by
  have hall : e.store.passing today [] =
      e.store.roomIds.filterMap fun id => (e.store.publishedBook? id).map (·.listing today) :=
    List.filter_eq_self.mpr fun _ _ => rfl
  rw [hall, List.map_filterMap, ← List.filterMap_eq_map]
  refine List.filterMap_congr fun id hid => ?_
  obtain ⟨slot, hslot⟩ := mem_iff_lookup.mp (Std.ExtTreeMap.mem_keys.mp hid)
  have hbook : e.store.publishedBook? id = some slot.published := by
    rw [Store.publishedBook?, hslot, Option.map_some]
  have hroom : e.room today id.hex = .ok (slot.published.listing today) :=
    room_eq_ok_iff.mpr ⟨id, slot.published, RecordId.parse_hex id, hbook, rfl⟩
  rw [hbook]
  exact congrArg some hroom

/-- Whatever stands in the book of a room, and in whatever order, the room is occupied on a day on
which the guest of an active booking is in the house, else booked if such a guest will come, else
available. A canceled booking makes no difference. No cancellation makes a room busier and no entry
idler. Whatever the store, a look at a room and the listing of all rooms show this status of the
published book, and the listings by one status are its parts. -/
theorem statuses_reported (today : Day) :
    (RoomStatus.available < .booked ∧ RoomStatus.booked < .occupied) ∧
    (∀ book : RoomBook,
      (book.status today = .occupied ↔ ∃ b ∈ book.bookings, b.Occupies today) ∧
      (book.status today = .booked ↔
        (¬∃ b ∈ book.bookings, b.Occupies today) ∧ ∃ b ∈ book.bookings, b.LiesAhead today) ∧
      (book.status today = .available ↔
        (¬∃ b ∈ book.bookings, b.Occupies today) ∧ ¬∃ b ∈ book.bookings, b.LiesAhead today) ∧
      (∀ other : RoomBook, other.active.Perm book.active →
        other.status today = book.status today) ∧
      (∀ id, (book.cancel id).status today ≤ book.status today) ∧
      ∀ b, book.status today ≤ (book.insert b).status today) ∧
    ∀ e : Engine,
      (∀ text x, e.room today text = .ok x ↔ ∃ id book, RecordId.parse text = .ok id ∧
        e.store.publishedBook? id = some book ∧ x = ⟨book.room, book.status today⟩) ∧
      (e.store.roomIds.map fun id => e.room today id.hex) =
        (e.store.passing today []).map .ok ∧
      (∀ filter page,
        (e.listRooms today filter page).1 = page.apply (e.store.passing today filter)) ∧
      (∀ status, e.store.passing today [status] =
        (e.store.passing today []).filter (·.status = status)) ∧
      (RoomStatus.all.flatMap fun status => e.store.passing today [status]).Perm
        (e.store.passing today []) := by
  refine ⟨by decide, fun book => ?_, fun e => ?_⟩
  · exact ⟨RoomBook.status_eq_occupied_iff, RoomBook.status_eq_booked_iff,
      RoomBook.status_eq_available_iff, fun _ => RoomBook.status_eq_of_perm_active,
      fun id => book.status_cancel_le id today, fun b => book.status_le_insert b today⟩
  · have hstatus (status : RoomStatus) : e.store.passing today [status] =
        (e.store.passing today []).filter (·.status = status) :=
      e.store.listRooms_status today status _
    refine ⟨fun _ _ => room_eq_ok_iff, e.map_room_roomIds today, fun _ _ => rfl, hstatus, ?_⟩
    simp only [hstatus]
    exact perm_flatMap_filter_status _

end Engine

end Lodging
