import Lodging.Proofs.Occupancy
import Lodging.Proofs.Replay

/-!
# Books in order

Whatever is entered in the book of a room and whatever is canceled in it, the book stays in order of
check-in days, with bookings of one day in the order in which they were entered. That is all it
takes to find the place of a new booking, and the end of those that may conflict with a stay, by
halving: what is found is what a walk along the whole book finds.
-/

namespace Lodging

/-! ## Halving -/

section Halving

variable {α : Type} {p : α → Bool} {items : List α}

/-- Halves a stretch of `size` items from `base` on until one item is left to be asked. -/
def boundaryFrom (p : α → Bool) (items : List α) (base size : Nat) : Nat :=
  if 1 < size then
    let middle := base + size / 2
    boundaryFrom p items (if items[middle]?.any p then middle else base) (size - size / 2)
  else if items[base]?.any p then base + 1
  else base
termination_by size

/-- How many items are in front of the first without the property, if all that have it come
first. -/
def boundary (p : α → Bool) (items : List α) : Nat := boundaryFrom p items 0 items.length

/-- Nothing behind an item without the property has it. -/
def Parted (p : α → Bool) (items : List α) : Prop :=
  items.Pairwise fun a b => p b = true → p a = true

theorem Parted.takeWhile_eq_filter (h : Parted p items) : items.takeWhile p = items.filter p := by
  induction items with
  | nil => rfl
  | cons a rest ih =>
      obtain ⟨ha, hrest⟩ := List.pairwise_cons.mp h
      by_cases hpa : p a = true
      · rw [List.takeWhile_cons_of_pos hpa, List.filter_cons_of_pos hpa, ih hrest]
      · rw [List.takeWhile_cons_of_neg hpa, List.filter_cons_of_neg hpa]
        exact (List.filter_eq_nil_iff.mpr fun b hb hpb => hpa (ha b hb hpb)).symm

theorem Parted.any_getElem?_iff (h : Parted p items) (i : Nat) :
    items[i]?.any p = true ↔ i < (items.takeWhile p).length := by
  induction items generalizing i with
  | nil => simp
  | cons a rest ih =>
      obtain ⟨ha, hrest⟩ := List.pairwise_cons.mp h
      by_cases hpa : p a = true
      · rw [List.takeWhile_cons_of_pos hpa, List.length_cons]
        cases i with
        | zero => simp [hpa]
        | succ i =>
            rw [List.getElem?_cons_succ, ih hrest, Nat.add_lt_add_iff_right]
      · rw [List.takeWhile_cons_of_neg hpa]
        simp only [List.length_nil, Nat.not_lt_zero, iff_false, Option.any_eq_true, not_exists,
          not_and]
        intro b hb hpb
        rcases List.mem_cons.mp (List.mem_of_getElem? hb) with rfl | hmem
        · exact hpa hpb
        · exact hpa (ha b hmem hpb)

/-- Halving keeps the boundary within the stretch, and so comes down to it. -/
theorem Parted.boundaryFrom_eq (h : Parted p items) {base size : Nat}
    (hbase : base ≤ (items.takeWhile p).length)
    (hend : (items.takeWhile p).length ≤ base + size) :
    boundaryFrom p items base size = (items.takeWhile p).length := by
  induction size using Nat.strong_induction_on generalizing base with
  | _ size ih =>
      rw [boundaryFrom]
      simp only [h.any_getElem?_iff]
      split
      · refine ih _ (by omega) ?_ ?_ <;> split <;> omega
      · split <;> omega

theorem Parted.boundary_eq (h : Parted p items) : boundary p items = (items.takeWhile p).length :=
  h.boundaryFrom_eq (Nat.zero_le _) (by
    rw [Nat.zero_add]
    exact (List.takeWhile_sublist p).length_le)

theorem Parted.take_boundary (h : Parted p items) :
    items.take (boundary p items) = items.takeWhile p := by
  rw [h.boundary_eq]
  exact (List.prefix_iff_eq_take.mp (List.takeWhile_prefix p)).symm

end Halving

namespace RoomBook

variable {bookings ledger : List Booking} {new : Booking} {id : RecordId}

/-! ## The order of entry -/

/-- Marks, of the bookings of the given identifier, the one that begins first, and of those that
begin on one day the one that was entered first. -/
def strikeEarliest (id : RecordId) : List Booking → List Booking
  | [] => []
  | b :: rest =>
    if b.id = id ∧ ∀ b' ∈ rest, b'.id = id → b.stay.checkIn ≤ b'.stay.checkIn then
      { b with canceled := true } :: rest
    else b :: strikeEarliest id rest

/-- The bookings of a room in the order in which they are entered. -/
def ledgerAfter (ledger : List Booking) : Event → List Booking
  | .bookingCreated b => ledger ++ [b]
  | .bookingCanceled id _ => strikeEarliest id ledger
  | _ => ledger

def startingOn (day : Day) (bookings : List Booking) : List Booking :=
  bookings.filter (·.stay.checkIn = day)

/-- The bookings are those of the ledger, in order of check-in days, and on every day in the order
of the ledger. -/
structure Arranges (bookings ledger : List Booking) : Prop where
  sorted : bookings.Pairwise fun a b => a.stay.checkIn ≤ b.stay.checkIn
  startingOn_eq : ∀ day, startingOn day bookings = startingOn day ledger

theorem enter_eq_insertIdx (new : Booking) (bookings : List Booking) :
    enter new bookings =
      bookings.insertIdx (bookings.takeWhile (·.stay.checkIn ≤ new.stay.checkIn)).length new := by
  induction bookings with
  | nil => rfl
  | cons b rest ih =>
      rw [enter]
      split
      · next hle =>
          rw [List.takeWhile_cons_of_pos (by simpa using hle), List.length_cons,
            List.insertIdx_succ_cons, ih]
      · next hlt =>
          rw [List.takeWhile_cons_of_neg (by simpa using hlt)]
          rfl

/-! ## Day by day -/

section

variable {b : Booking} {rest : List Booking} {day : Day}

@[simp] theorem mem_startingOn :
    b ∈ startingOn day bookings ↔ b ∈ bookings ∧ b.stay.checkIn = day := by
  simp [startingOn]

theorem startingOn_append (day : Day) (front back : List Booking) :
    startingOn day (front ++ back) = startingOn day front ++ startingOn day back :=
  List.filter_append ..

theorem startingOn_cons_of_eq (h : b.stay.checkIn = day) :
    startingOn day (b :: rest) = b :: startingOn day rest :=
  List.filter_cons_of_pos (by simpa using h)

theorem startingOn_cons_of_ne (h : b.stay.checkIn ≠ day) :
    startingOn day (b :: rest) = startingOn day rest :=
  List.filter_cons_of_neg (by simpa using h)

theorem startingOn_eq_nil (h : ∀ b ∈ bookings, b.stay.checkIn ≠ day) :
    startingOn day bookings = [] :=
  List.filter_eq_nil_iff.mpr fun b hb => by simpa using h b hb

theorem startingOn_enter (hsorted : bookings.Pairwise fun a b => a.stay.checkIn ≤ b.stay.checkIn)
    (new : Booking) (day : Day) :
    startingOn day (enter new bookings) = startingOn day (bookings ++ [new]) := by
  induction bookings with
  | nil => rfl
  | cons b rest ih =>
      obtain ⟨hb, hrest⟩ := List.pairwise_cons.mp hsorted
      rw [enter]
      split
      · by_cases hday : b.stay.checkIn = day
        · rw [List.cons_append, startingOn_cons_of_eq hday, startingOn_cons_of_eq hday, ih hrest]
        · rw [List.cons_append, startingOn_cons_of_ne hday, startingOn_cons_of_ne hday, ih hrest]
      · next hlt =>
          rw [startingOn_append]
          by_cases hday : new.stay.checkIn = day
          · -- No booking from `b` on begins on the day of the new one.
            have hlater : ∀ b' ∈ b :: rest, b'.stay.checkIn ≠ day := by
              intro b' hb' heq
              have hle : b.stay.checkIn ≤ b'.stay.checkIn := by
                rcases List.mem_cons.mp hb' with rfl | hb'
                · exact Int.le_refl _
                · exact hb b' hb'
              rw [heq, ← hday] at hle
              exact hlt hle
            rw [startingOn_cons_of_eq hday, startingOn_cons_of_eq hday, startingOn_eq_nil hlater]
            rfl
          · rw [startingOn_cons_of_ne hday, startingOn_cons_of_ne hday]
            exact (List.append_nil _).symm

theorem strike_of_absent (h : ∀ b ∈ bookings, b.id ≠ id) : strike id bookings = bookings := by
  induction bookings with
  | nil => rfl
  | cons b rest ih =>
      rw [strike, if_neg (h b List.mem_cons_self),
        ih fun b' hb' => h b' (List.mem_cons_of_mem _ hb')]

/-- In a book, the first booking of an identifier begins first. -/
theorem strike_eq_strikeEarliest
    (hsorted : bookings.Pairwise fun a b => a.stay.checkIn ≤ b.stay.checkIn) (id : RecordId) :
    strike id bookings = strikeEarliest id bookings := by
  induction bookings with
  | nil => rfl
  | cons b rest ih =>
      obtain ⟨hb, hrest⟩ := List.pairwise_cons.mp hsorted
      rw [strike, strikeEarliest, ih hrest]
      have hleast : ∀ b' ∈ rest, b'.id = id → b.stay.checkIn ≤ b'.stay.checkIn :=
        fun b' hb' _ => hb b' hb'
      simp only [and_iff_left hleast]

/-- A booking of the identifier begins before the day. -/
def Precedes (id : RecordId) (day : Day) (bookings : List Booking) : Prop :=
  ∃ b ∈ bookings, b.id = id ∧ b.stay.checkIn < day

/-- A booking that is not the earliest of its identifier has an earlier one behind it. -/
theorem exists_earlier
    (h : ¬(b.id = id ∧ ∀ b' ∈ rest, b'.id = id → b.stay.checkIn ≤ b'.stay.checkIn))
    (hid : b.id = id) : Precedes id b.stay.checkIn rest := by
  by_contra hnone
  refine h ⟨hid, fun b' hb' hid' => Int.not_lt.mp fun hlt => hnone ⟨b', hb', hid', hlt⟩⟩

theorem startingOn_strikeEarliest_of_precedes (h : Precedes id day ledger) :
    startingOn day (strikeEarliest id ledger) = startingOn day ledger := by
  induction ledger with
  | nil => rfl
  | cons b rest ih =>
      obtain ⟨b', hb', hid', hlt⟩ := h
      rw [strikeEarliest]
      split
      · next hearliest =>
          have hbefore : b.stay.checkIn < day := by
            rcases List.mem_cons.mp hb' with rfl | hb'
            · exact hlt
            · exact Int.lt_of_le_of_lt (hearliest.2 b' hb' hid') hlt
          have hday : b.stay.checkIn ≠ day := by
            rintro rfl
            exact Int.lt_irrefl _ hbefore
          rw [startingOn_cons_of_ne hday]
          exact startingOn_cons_of_ne hday
      · next hlater =>
          have hrest : Precedes id day rest := by
            rcases List.mem_cons.mp hb' with rfl | hb'
            · obtain ⟨b'', hb'', hid'', hlt'⟩ := exists_earlier hlater hid'
              exact ⟨b'', hb'', hid'', Int.lt_trans hlt' hlt⟩
            · exact ⟨b', hb', hid', hlt⟩
          by_cases hday : b.stay.checkIn = day
          · rw [startingOn_cons_of_eq hday, startingOn_cons_of_eq hday, ih hrest]
          · rw [startingOn_cons_of_ne hday, startingOn_cons_of_ne hday, ih hrest]

theorem startingOn_strikeEarliest_of_not_precedes (h : ¬Precedes id day ledger) :
    startingOn day (strikeEarliest id ledger) = strike id (startingOn day ledger) := by
  induction ledger with
  | nil => rfl
  | cons b rest ih =>
      have hrest : ¬Precedes id day rest := fun ⟨b', hb', hid', hlt⟩ =>
        h ⟨b', List.mem_cons_of_mem _ hb', hid', hlt⟩
      rw [strikeEarliest]
      split
      · next hearliest =>
          obtain ⟨hid, hle⟩ := hearliest
          by_cases hday : b.stay.checkIn = day
          · rw [startingOn_cons_of_eq hday, strike, if_pos hid]
            exact startingOn_cons_of_eq hday
          · -- Its day is a later one, and so are those of all others of the identifier.
            have habsent : ∀ b' ∈ startingOn day rest, b'.id ≠ id := by
              intro b' hb' hid'
              obtain ⟨hmem, rfl⟩ := mem_startingOn.mp hb'
              have hlt : b.stay.checkIn < b'.stay.checkIn :=
                Int.lt_iff_le_and_ne.mpr
                  ⟨hle b' hmem hid', fun heq => hday (Day.rank_injective heq)⟩
              exact h ⟨b, List.mem_cons_self, hid, hlt⟩
            rw [startingOn_cons_of_ne hday, strike_of_absent habsent]
            exact startingOn_cons_of_ne hday
      · next hlater =>
          by_cases hday : b.stay.checkIn = day
          · have hid : b.id ≠ id := fun hid => hrest (hday ▸ exists_earlier hlater hid)
            rw [startingOn_cons_of_eq hday, startingOn_cons_of_eq hday, strike, if_neg hid,
              ih hrest]
          · rw [startingOn_cons_of_ne hday, startingOn_cons_of_ne hday, ih hrest]

end

/-! ## One event -/

namespace Arranges

theorem nil : Arranges [] [] := ⟨List.Pairwise.nil, fun _ => rfl⟩

theorem mem_iff (h : Arranges bookings ledger) {b : Booking} : b ∈ bookings ↔ b ∈ ledger := by
  have hday (l : List Booking) : b ∈ l ↔ b ∈ startingOn b.stay.checkIn l := by simp
  rw [hday bookings, h.startingOn_eq, ← hday]

theorem perm (h : Arranges bookings ledger) : bookings.Perm ledger := by
  refine List.perm_iff_count.mpr fun b => ?_
  have hday (l : List Booking) : (startingOn b.stay.checkIn l).count b = l.count b :=
    List.count_filter (by simp)
  rw [← hday bookings, h.startingOn_eq, hday]

theorem enter (h : Arranges bookings ledger) (new : Booking) :
    Arranges (RoomBook.enter new bookings) (ledger ++ [new]) where
  sorted := pairwise_enter_of (fun _ _ => id) (fun _ _ => Int.le_of_lt) h.sorted fun _ _ hle => hle
  startingOn_eq day := by
    rw [startingOn_enter h.sorted, startingOn_append, startingOn_append, h.startingOn_eq]

theorem strike (h : Arranges bookings ledger) (id : RecordId) :
    Arranges (RoomBook.strike id bookings) (strikeEarliest id ledger) where
  sorted := pairwise_strike (fun _ _ hle => ⟨hle, hle⟩) h.sorted
  startingOn_eq day := by
    have hprecedes : Precedes id day bookings ↔ Precedes id day ledger := by
      simp only [Precedes, h.mem_iff]
    rw [strike_eq_strikeEarliest h.sorted]
    by_cases hearlier : Precedes id day ledger
    · rw [startingOn_strikeEarliest_of_precedes (hprecedes.mpr hearlier),
        startingOn_strikeEarliest_of_precedes hearlier, h.startingOn_eq]
    · rw [startingOn_strikeEarliest_of_not_precedes (hprecedes.not.mpr hearlier),
        startingOn_strikeEarliest_of_not_precedes hearlier, h.startingOn_eq]

theorem after {book : RoomBook} (h : Arranges book.bookings ledger) (e : Event) :
    Arranges (book.after e).bookings (ledgerAfter ledger e) := by
  cases e with
  | bookingCreated b => exact h.enter b
  | bookingCanceled id _ => exact h.strike id
  | _ => exact h

theorem foldl_after {book : RoomBook} (h : Arranges book.bookings ledger) (events : List Event) :
    Arranges (events.foldl RoomBook.after book).bookings (events.foldl ledgerAfter ledger) := by
  induction events generalizing book ledger with
  | nil => exact h
  | cons e rest ih => exact ih (h.after e)

end Arranges

/-- Up to cancellations, the ledger lists what was entered. -/
theorem map_strikeEarliest {α : Type} {f : Booking → α}
    (hf : ∀ b, f { b with canceled := true } = f b) (id : RecordId) (ledger : List Booking) :
    (strikeEarliest id ledger).map f = ledger.map f := by
  induction ledger with
  | nil => rfl
  | cons b rest ih =>
      rw [strikeEarliest]
      split
      · rw [List.map_cons, List.map_cons, hf]
      · rw [List.map_cons, List.map_cons, ih]

theorem map_foldl_ledgerAfter {α : Type} {f : Booking → α}
    (hf : ∀ b, f { b with canceled := true } = f b) (events : List Event) (ledger : List Booking) :
    (events.foldl ledgerAfter ledger).map f =
      ledger.map f ++ (events.filterMap Event.entered?).map f := by
  induction events generalizing ledger with
  | nil => exact (List.append_nil _).symm
  | cons e rest ih =>
      cases e with
      | bookingCreated b => simp [ledgerAfter, Event.entered?, ih]
      | bookingCanceled id _ => rw [List.foldl_cons, ih, ledgerAfter, map_strikeEarliest hf]; rfl
      | _ => exact ih ledger

/-! ## The place of a new booking and the conflicts of a stay -/

section

variable {book : RoomBook}

theorem parted_le (hsorted : bookings.Pairwise fun a b => a.stay.checkIn ≤ b.stay.checkIn)
    (day : Day) : Parted (fun b => decide (b.stay.checkIn ≤ day)) bookings :=
  hsorted.imp fun hle hb => decide_eq_true (Int.le_trans hle (of_decide_eq_true hb))

theorem parted_lt (hsorted : bookings.Pairwise fun a b => a.stay.checkIn ≤ b.stay.checkIn)
    (day : Day) : Parted (fun b => decide (b.stay.checkIn < day)) bookings :=
  hsorted.imp fun hle hb => decide_eq_true (Int.lt_of_le_of_lt hle (of_decide_eq_true hb))

theorem insert_eq_insertIdx
    (hsorted : book.bookings.Pairwise fun a b => a.stay.checkIn ≤ b.stay.checkIn) (new : Booking) :
    (book.insert new).bookings =
      book.bookings.insertIdx
        (boundary (fun b => decide (b.stay.checkIn ≤ new.stay.checkIn)) book.bookings) new := by
  rw [(parted_le hsorted _).boundary_eq]
  exact enter_eq_insertIdx new book.bookings

theorem overlapping_eq_take
    (hsorted : book.bookings.Pairwise fun a b => a.stay.checkIn ≤ b.stay.checkIn) (stay : Stay) :
    book.overlapping stay =
      (book.bookings.take
        (boundary (fun b => decide (b.stay.checkIn < stay.checkOut)) book.bookings)).filter
          fun b => b.isActive && decide (stay.checkIn < b.stay.checkOut) := by
  rw [overlapping, (parted_lt hsorted _).take_boundary]

theorem overlapping_eq_filter
    (hsorted : book.bookings.Pairwise fun a b => a.stay.checkIn ≤ b.stay.checkIn) (stay : Stay) :
    book.overlapping stay =
      book.bookings.filter fun b => b.isActive && b.stay.overlaps stay := by
  rw [overlapping, (parted_lt hsorted _).takeWhile_eq_filter, List.filter_filter]
  refine List.filter_congr fun b _ => ?_
  rw [Stay.overlaps, Bool.and_assoc, Bool.and_comm (decide (stay.checkIn < b.stay.checkOut))]

end

/-- Whatever is entered in an empty book and canceled in it, in whatever order and with whatever
days and flags, the book is in order and holds what was entered. The place of a new booking can be
found by halving, and so can the end of what may conflict with a stay; the conflicts are those that
a look at every booking finds, in the order of the book. -/
theorem arranges_and_overlapping_eq (room : Room) (events : List Event) :
    let book := events.foldl RoomBook.after (.new room)
    let ledger := events.foldl ledgerAfter []
    Arranges book.bookings ledger ∧ book.bookings.Perm ledger ∧
      (ledger.map fun b => { b with canceled := true }) =
        ((events.filterMap Event.entered?).map fun b => { b with canceled := true }) ∧
      (∀ new, (book.insert new).bookings =
        book.bookings.insertIdx
          (boundary (fun b => decide (b.stay.checkIn ≤ new.stay.checkIn)) book.bookings) new) ∧
      ∀ stay,
        book.overlapping stay =
          ((book.bookings.take
            (boundary (fun b => decide (b.stay.checkIn < stay.checkOut)) book.bookings)).filter
              fun b => b.isActive && decide (stay.checkIn < b.stay.checkOut)) ∧
        book.overlapping stay =
          book.bookings.filter fun b => b.isActive && b.stay.overlaps stay := by
  intro book ledger
  have hnil : Arranges (RoomBook.new room).bookings [] := Arranges.nil
  have harranges : Arranges book.bookings ledger := hnil.foldl_after events
  have hentered := map_foldl_ledgerAfter (f := fun b => { b with canceled := true })
    (fun _ => rfl) events []
  exact ⟨harranges, harranges.perm, hentered, insert_eq_insertIdx harranges.sorted,
    fun stay => ⟨overlapping_eq_take harranges.sorted stay,
      overlapping_eq_filter harranges.sorted stay⟩⟩

end RoomBook

end Lodging
