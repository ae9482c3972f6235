import Lodging.Proofs.Nights
import Lodging.Proofs.RoomBooks
import Lodging.Status
import Mathlib.Data.List.TakeWhile

/-!
# What the book of a room shows

A book that is in order of check-in days shows, for a stay, all active bookings that share a night
with it, and first the one that begins first. On a day it shows the busiest of what its bookings
make of the room, each on its own. So one more booking adds what it makes of the room itself.
-/

namespace Lodging

namespace RoomStatus

/-- The busier one of two. -/
def join : RoomStatus → RoomStatus → RoomStatus
  | occupied, _ | _, occupied => occupied
  | booked, _ | _, booked => booked
  | available, available => available

theorem join_comm (a b : RoomStatus) : a.join b = b.join a := by
  cases a <;> cases b <;> rfl

theorem join_assoc (a b c : RoomStatus) : (a.join b).join c = a.join (b.join c) := by
  cases a <;> cases b <;> cases c <;> rfl

theorem occupied_join (a : RoomStatus) : occupied.join a = occupied := by
  cases a <;> rfl

theorem available_join (a : RoomStatus) : available.join a = a := by
  cases a <;> rfl

instance : LeftCommutative join where
  left_comm a b c := by rw [← join_assoc, join_comm a b, join_assoc]

end RoomStatus

/-- What a booking makes of its room on a day. -/
def Booking.statusOn (b : Booking) (today : Day) : RoomStatus :=
  if b.canceled then .available
  else if b.stay.covers today then .occupied
  else if today < b.stay.checkIn then .booked
  else .available

namespace RoomBook

variable {book : RoomBook} {bookings : List Booking} {b : Booking} {stay : Stay} {today : Day}

/-! ## Status -/

/-- The busiest of what the bookings make of their room. -/
def busiest (today : Day) (bookings : List Booking) : RoomStatus :=
  (bookings.map (·.statusOn today)).foldr .join .available

theorem busiest_cons (today : Day) (b : Booking) (rest : List Booking) :
    busiest today (b :: rest) = (b.statusOn today).join (busiest today rest) := rfl

/-- The order of the bookings makes no difference. -/
theorem busiest_eq_of_perm {other : List Booking} (h : bookings.Perm other) :
    busiest today bookings = busiest today other :=
  (h.map _).foldr_eq _

theorem statusFrom_eq (today : Day) (ahead : Bool) (bookings : List Booking) :
    statusFrom today ahead bookings =
      (if ahead then .booked else .available : RoomStatus).join (busiest today bookings) := by
  induction bookings generalizing ahead with
  | nil => cases ahead <;> rfl
  | cons b rest ih =>
      rw [statusFrom, busiest_cons, Booking.statusOn, Booking.isActive]
      by_cases hcanceled : b.canceled = true
      · rw [hcanceled, Bool.not_true, if_neg Bool.false_ne_true, if_pos rfl, ih,
          RoomStatus.available_join]
      · rw [Bool.eq_false_iff.mpr hcanceled, Bool.not_false, if_pos rfl,
          if_neg Bool.false_ne_true]
        by_cases hcovers : b.stay.covers today = true
        · rw [if_pos hcovers, if_pos hcovers, RoomStatus.occupied_join, RoomStatus.join_comm,
            RoomStatus.occupied_join]
        · rw [if_neg hcovers, if_neg hcovers, ih, ← RoomStatus.join_assoc]
          congr 1
          by_cases hlater : today < b.stay.checkIn
          · cases ahead <;> simp [hlater, RoomStatus.join]
          · cases ahead <;> simp [hlater, RoomStatus.join]

theorem status_eq (book : RoomBook) (today : Day) :
    book.status today = busiest today book.bookings := by
  rw [status, statusFrom_eq]
  exact RoomStatus.available_join _

/-- One more booking adds to the status of a room what it makes of the room itself. -/
theorem status_insert (book : RoomBook) (b : Booking) (today : Day) :
    (book.insert b).status today = (book.status today).join (b.statusOn today) := by
  rw [status_eq, status_eq, insert, busiest_eq_of_perm (enter_perm b book.bookings), busiest_cons,
    RoomStatus.join_comm]

/-! ## Conflicts -/

/-- The bookings of the book that conflict with a stay are those that are active and overlap it. -/
theorem mem_overlapping_iff
    (hsorted : book.bookings.Pairwise fun a b => a.stay.checkIn ≤ b.stay.checkIn) :
    b ∈ book.overlapping stay ↔
      b ∈ book.bookings ∧ b.isActive = true ∧ stay.overlaps b.stay = true := by
  constructor
  · intro hb
    obtain ⟨hb, hshared⟩ := List.mem_filter.mp hb
    obtain ⟨hactive, hin⟩ := (Bool.and_eq_true _ _).mp hshared
    have hout := List.mem_takeWhile_imp hb
    exact ⟨(List.takeWhile_sublist _).mem hb, hactive, (Bool.and_eq_true _ _).mpr ⟨hin, hout⟩⟩
  · rintro ⟨hb, hactive, hoverlaps⟩
    exact mem_overlapping hsorted hb hactive hoverlaps

/-- The first of the conflicting bookings begins first. -/
theorem checkIn_le_of_overlapping {rest : List Booking}
    (hsorted : book.bookings.Pairwise fun a b => a.stay.checkIn ≤ b.stay.checkIn)
    (hfirst : book.overlapping stay = b :: rest) :
    ∀ b' ∈ book.overlapping stay, b.stay.checkIn ≤ b'.stay.checkIn := by
  have hpairwise : (book.overlapping stay).Pairwise
      fun a b => a.stay.checkIn ≤ b.stay.checkIn :=
    (hsorted.sublist (List.takeWhile_sublist _)).filter _
  rw [hfirst] at hpairwise ⊢
  intro b' hb'
  rcases List.mem_cons.mp hb' with rfl | hb'
  · exact Int.le_refl _
  · exact (List.pairwise_cons.mp hpairwise).1 b' hb'

/-- A new booking is put in one place among the others, which stay in their order. -/
theorem exists_enter_eq (new : Booking) (bookings : List Booking) :
    ∃ before after, bookings = before ++ after ∧ enter new bookings = before ++ new :: after := by
  induction bookings with
  | nil => exact ⟨[], [], rfl, rfl⟩
  | cons b rest ih =>
      rw [enter]
      split
      · obtain ⟨before, after, hrest, henter⟩ := ih
        exact ⟨b :: before, after, by rw [hrest]; rfl, by rw [henter]; rfl⟩
      · exact ⟨[], b :: rest, rfl, rfl⟩

end RoomBook

end Lodging
