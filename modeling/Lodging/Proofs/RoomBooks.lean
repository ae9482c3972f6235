import Lodging.Engine.Change
import Mathlib.Data.List.Pairwise
import Mathlib.Data.List.Perm.Basic

/-!
# Entering and canceling bookings

A book is kept in the order of check-in days, and bookings of one day in the order of their
identifiers as long as these grow. No entry and no cancellation makes two active bookings of a room
share a night, and the look for a conflict may stop early since the book is in order.
-/

namespace Lodging

theorem RecordId.lt_iff_toNat {a b : RecordId} : a < b ↔ a.toNat < b.toNat := Iff.rfl

theorem RecordId.ne_of_lt {a b : RecordId} (h : a < b) : a ≠ b := by
  rintro rfl
  exact Nat.lt_irrefl _ h

/-- The first booking begins on an earlier day, or no later and has the smaller identifier. -/
def Booking.Before (a b : Booking) : Prop :=
  a.stay.checkIn < b.stay.checkIn ∨ a.stay.checkIn ≤ b.stay.checkIn ∧ a.id < b.id

/-- One of the bookings is canceled, or the stays share no night. -/
def Booking.Apart (a b : Booking) : Prop :=
  a.isActive = true → b.isActive = true → a.stay.overlaps b.stay = false

namespace Booking

theorem Before.checkIn_le {a b : Booking} (h : a.Before b) : a.stay.checkIn ≤ b.stay.checkIn := by
  rcases h with h | h
  · exact Int.le_of_lt h
  · exact h.1

theorem Before.asymm {a b : Booking} (h : a.Before b) : ¬ b.Before a := by
  simp only [Before, Day.lt_iff_rank, Day.le_iff_rank, RecordId.lt_iff_toNat] at *
  omega

theorem Before.cancel {a b : Booking} (h : a.Before b) :
    Before { a with canceled := true } b ∧ a.Before { b with canceled := true } := ⟨h, h⟩

theorem Apart.symm {a b : Booking} (h : a.Apart b) : b.Apart a := by
  intro hb ha
  rw [Stay.overlaps_comm]
  exact h ha hb

theorem apart_cancel (a b : Booking) :
    Apart { a with canceled := true } b ∧ a.Apart { b with canceled := true } := by
  refine ⟨fun ha _ => ?_, fun _ hb => ?_⟩
  · cases ha
  · cases hb

end Booking

namespace RoomBook

variable {bookings : List Booking} {new b : Booking} {id : RecordId}

/-! ## Entries -/

theorem enter_perm (new : Booking) (bookings : List Booking) :
    (enter new bookings).Perm (new :: bookings) := by
  induction bookings with
  | nil => exact List.Perm.refl _
  | cons b rest ih =>
      rw [enter]
      split
      · exact (ih.cons b).trans (List.Perm.swap new b rest)
      · exact List.Perm.refl _

@[simp] theorem mem_enter : b ∈ enter new bookings ↔ b = new ∨ b ∈ bookings :=
  (enter_perm new bookings).mem_iff.trans List.mem_cons

/-- A new booking is entered in its place in any order that goes by check-in days first. -/
theorem pairwise_enter_of {r : Booking → Booking → Prop}
    (hle : ∀ a b, r a b → a.stay.checkIn ≤ b.stay.checkIn)
    (hlt : ∀ a b, a.stay.checkIn < b.stay.checkIn → r a b) (h : bookings.Pairwise r)
    (hnew : ∀ b ∈ bookings, b.stay.checkIn ≤ new.stay.checkIn → r b new) :
    (enter new bookings).Pairwise r := by
  induction bookings with
  | nil => exact List.pairwise_singleton _ _
  | cons b rest ih =>
      obtain ⟨hb, hrest⟩ := List.pairwise_cons.mp h
      rw [enter]
      split
      · next hbefore =>
          have ih := ih hrest fun b' hb' => hnew b' (List.mem_cons_of_mem _ hb')
          refine List.pairwise_cons.mpr ⟨fun b' hb' => ?_, ih⟩
          rcases mem_enter.mp hb' with rfl | hb'
          · exact hnew b List.mem_cons_self hbefore
          · exact hb b' hb'
      · next hafter =>
          -- All that follows begins no earlier than `b`, hence after the new booking.
          refine List.pairwise_cons.mpr ⟨fun b' hb' => hlt new b' ?_, h⟩
          have hlt : new.stay.checkIn < b.stay.checkIn := Int.lt_of_not_ge hafter
          rcases List.mem_cons.mp hb' with rfl | hb'
          · exact hlt
          · exact Int.lt_of_lt_of_le hlt (hle b b' (hb b' hb'))

/-- A booking with a new, larger identifier is entered at its place. -/
theorem pairwise_enter (h : bookings.Pairwise Booking.Before)
    (hnew : ∀ b ∈ bookings, b.id < new.id) :
    (enter new bookings).Pairwise Booking.Before :=
  pairwise_enter_of (fun _ _ => Booking.Before.checkIn_le) (fun _ _ => .inl) h
    fun b hb hle => .inr ⟨hle, hnew b hb⟩

/-! ## Cancellations -/

/-- Whatever does not look at the flag does not see a cancellation. -/
theorem map_strike {α : Type} {f : Booking → α} (hf : ∀ b, f { b with canceled := true } = f b)
    (id : RecordId) (bookings : List Booking) : (strike id bookings).map f = bookings.map f := by
  induction bookings with
  | nil => rfl
  | cons b rest ih =>
      rw [strike]
      split
      · rw [List.map_cons, List.map_cons, hf]
      · rw [List.map_cons, List.map_cons, ih]

theorem mem_strike (h : b ∈ strike id bookings) :
    b ∈ bookings ∨ ∃ b' ∈ bookings, b = { b' with canceled := true } := by
  induction bookings with
  | nil => cases h
  | cons first rest ih =>
      rw [strike] at h
      split at h
      · rcases List.mem_cons.mp h with rfl | h
        · exact .inr ⟨first, List.mem_cons_self, rfl⟩
        · exact .inl (List.mem_cons_of_mem _ h)
      · rcases List.mem_cons.mp h with rfl | h
        · exact .inl List.mem_cons_self
        · rcases ih h with h | ⟨b', hb', rfl⟩
          · exact .inl (List.mem_cons_of_mem _ h)
          · exact .inr ⟨b', List.mem_cons_of_mem _ hb', rfl⟩

/-- A cancellation keeps what holds of any two bookings, if it does not depend on the first or the
second of them being active. -/
theorem pairwise_strike {r : Booking → Booking → Prop}
    (hr : ∀ a b, r a b → r { a with canceled := true } b ∧ r a { b with canceled := true })
    (h : bookings.Pairwise r) : (strike id bookings).Pairwise r := by
  induction bookings with
  | nil => exact h
  | cons first rest ih =>
      obtain ⟨hfirst, hrest⟩ := List.pairwise_cons.mp h
      rw [strike]
      split
      · exact List.pairwise_cons.mpr ⟨fun b hb => (hr first b (hfirst b hb)).1, hrest⟩
      · refine List.pairwise_cons.mpr ⟨fun b hb => ?_, ih hrest⟩
        rcases mem_strike hb with hb | ⟨b', hb', rfl⟩
        · exact hfirst b hb
        · exact (hr first b' (hfirst b' hb')).2

/-! ## Conflicts -/

/-- Every booking lasts at least one night, and no two active ones share a night. -/
structure Consistent (bookings : List Booking) : Prop where
  lasts : ∀ b ∈ bookings, b.stay.checkIn < b.stay.checkOut
  apart : bookings.Pairwise Booking.Apart

namespace Consistent

theorem nil : Consistent [] := ⟨by simp, List.Pairwise.nil⟩

theorem enter (h : Consistent bookings) (hlasts : new.stay.checkIn < new.stay.checkOut)
    (hfree : ∀ b ∈ bookings, new.Apart b) : Consistent (RoomBook.enter new bookings) where
  lasts b hb := by
    rcases mem_enter.mp hb with rfl | hb
    · exact hlasts
    · exact h.lasts b hb
  apart := ((enter_perm new bookings).pairwise_iff Booking.Apart.symm).mpr
    (List.pairwise_cons.mpr ⟨hfree, h.apart⟩)

theorem strike (h : Consistent bookings) (id : RecordId) :
    Consistent (RoomBook.strike id bookings) where
  lasts b hb := by
    rcases mem_strike hb with hb | ⟨b', hb', rfl⟩
    · exact h.lasts b hb
    · exact h.lasts b' hb'
  apart := pairwise_strike (fun a b _ => Booking.apart_cancel a b) h.apart

theorem apart_of_ne (h : Consistent bookings) {b b' : Booking} (hb : b ∈ bookings)
    (hb' : b' ∈ bookings) (hne : b ≠ b') : b.Apart b' :=
  have : Std.Symm Booking.Apart := ⟨fun _ _ h => h.symm⟩
  h.apart.forall hb hb' hne

end Consistent

theorem mem_takeWhile_of_pairwise {p : Booking → Bool}
    (hp : ∀ a b : Booking, a.stay.checkIn ≤ b.stay.checkIn → p b = true → p a = true)
    (hsorted : bookings.Pairwise fun a b => a.stay.checkIn ≤ b.stay.checkIn)
    (hb : b ∈ bookings) (hpb : p b = true) : b ∈ bookings.takeWhile p := by
  induction bookings with
  | nil => cases hb
  | cons first rest ih =>
      obtain ⟨hfirst, hrest⟩ := List.pairwise_cons.mp hsorted
      rcases List.mem_cons.mp hb with rfl | hb
      · rw [List.takeWhile_cons_of_pos hpb]
        exact List.mem_cons_self
      · rw [List.takeWhile_cons_of_pos (hp first b (hfirst b hb) hpb)]
        exact List.mem_cons_of_mem _ (ih hrest hb)

/-- The look for a conflict misses no active booking that shares a night with the stay. -/
theorem mem_overlapping {book : RoomBook} {stay : Stay}
    (hsorted : book.bookings.Pairwise fun a b => a.stay.checkIn ≤ b.stay.checkIn)
    (hb : b ∈ book.bookings) (hactive : b.isActive = true) (h : stay.overlaps b.stay = true) :
    b ∈ book.overlapping stay := by
  obtain ⟨hin, hout⟩ := (Bool.and_eq_true _ _).mp h
  refine List.mem_filter.mpr ⟨mem_takeWhile_of_pairwise ?_ hsorted hb hout, ?_⟩
  · intro a b hle hlt
    exact decide_eq_true (Int.lt_of_le_of_lt hle (of_decide_eq_true hlt))
  · rw [hactive, hin]
    rfl

theorem apart_of_checkFree {book : RoomBook} (h : book.checkFree new.stay = .ok ())
    (hsorted : book.bookings.Pairwise fun a b => a.stay.checkIn ≤ b.stay.checkIn) :
    ∀ b ∈ book.bookings, new.Apart b := by
  intro b hb _ hactive
  have hnone : book.overlapping new.stay = [] := by
    unfold checkFree at h
    split at h
    · assumption
    · cases h
  refine Bool.eq_false_iff.mpr fun hoverlaps => ?_
  have hmem := mem_overlapping hsorted hb hactive hoverlaps
  rw [hnone] at hmem
  cases hmem

/-! ## Look-ups -/

theorem mem_of_booking? {book : RoomBook} (h : book.booking? id = some b) :
    b ∈ book.bookings ∧ b.id = id :=
  ⟨List.mem_of_find?_eq_some h, by simpa using List.find?_some h⟩

/-- A booking is found if no other one of the book has its identifier. -/
theorem booking?_of_unique {book : RoomBook} (hb : b ∈ book.bookings)
    (hunique : ∀ b' ∈ book.bookings, b'.id = b.id → b' = b) : book.booking? b.id = some b := by
  cases hfound : book.booking? b.id with
  | none =>
      have hnone := List.find?_eq_none.mp hfound b hb
      exact absurd (decide_eq_true rfl) hnone
  | some b' =>
      obtain ⟨hmem, hid⟩ := mem_of_booking? hfound
      rw [hunique b' hmem hid]

end RoomBook

end Lodging
