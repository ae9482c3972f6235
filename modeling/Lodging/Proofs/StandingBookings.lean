import Lodging.Proofs.AnyLog

/-!
# A booking in the ledger

A booking stands in a store if the index leads to its room and the books of all rooms have, under
its identifier, this one booking alone. It goes on to stand there after every event that is not
about it or its room, and after a snapshot, and a cancellation changes nothing but its flag.
-/

namespace Lodging

namespace RoomBook

variable {bookings : List Booking} {new : Booking} {key id : RecordId}

theorem filter_enter_of_ne (h : new.id ≠ id) :
    (enter new bookings).filter (·.id = id) = bookings.filter (·.id = id) := by
  induction bookings with
  | nil => simp [enter, h]
  | cons b rest ih =>
      rw [enter]
      split
      · rw [List.filter_cons, List.filter_cons, ih]
      · rw [List.filter_cons_of_neg (by simpa using h)]

theorem filter_enter_self (h : bookings.filter (·.id = new.id) = []) :
    (enter new bookings).filter (·.id = new.id) = [new] := by
  have hperm := (enter_perm new bookings).filter (decide <| ·.id = new.id)
  have hone : (new :: bookings).filter (·.id = new.id) = [new] := by
    rw [List.filter_cons_of_pos (by simp), h]
  exact List.perm_singleton.mp (hone ▸ hperm)

theorem filter_strike_of_ne (h : key ≠ id) :
    (strike key bookings).filter (·.id = id) = bookings.filter (·.id = id) := by
  induction bookings with
  | nil => rfl
  | cons b rest ih =>
      rw [strike]
      split
      · next hb =>
          have hne : b.id ≠ id := fun hid => h (hb.symm.trans hid)
          simp [hne]
      · rw [List.filter_cons, List.filter_cons, ih]

theorem filter_strike_self (id : RecordId) (bookings : List Booking) :
    (strike id bookings).filter (·.id = id) = strike id (bookings.filter (·.id = id)) := by
  induction bookings with
  | nil => rfl
  | cons b rest ih =>
      rw [strike]
      by_cases hb : b.id = id
      · simp [hb, strike]
      · simp [hb, ih]

end RoomBook

/-- The event is not about the booking, and does not create its room. -/
def Event.Spares (b : Booking) : Event → Prop
  | .roomCreated room => room.id ≠ b.room
  | .bookingCreated b' => b'.id ≠ b.id
  | .bookingCanceled id _ => id ≠ b.id
  | _ => True

namespace Store

variable {s t : Store} {e : Event} {b : Booking} {room : RecordId} {slot : RoomSlot}

/-- The booking stands in the ledger, and no other one has its identifier. -/
structure Keeps (s : Store) (b : Booking) : Prop where
  room_eq : s.roomOfBooking[b.id]? = some b.room
  filter_eq : ∀ room, (s.bookingsIn room).filter (·.id = b.id) = if room = b.room then [b] else []

theorem Keeps.congr (h : s.Keeps b) (hroomOf : t.roomOfBooking = s.roomOfBooking)
    (hbookings : ∀ room, t.bookingsIn room = s.bookingsIn room) : t.Keeps b where
  room_eq := by rw [hroomOf]; exact h.room_eq
  filter_eq := by simp only [hbookings]; exact h.filter_eq

theorem SameButEmails.keeps (h : s.SameButEmails t) (hb : s.Keeps b) : t.Keeps b := by
  obtain ⟨emails, rfl⟩ := h
  exact hb.congr rfl fun _ => rfl

/-! ## Events -/

/-- A booking that is created with a new identifier in a known room stands in the ledger. -/
theorem keeps_apply_bookingCreated (hroom : b.room ∈ s.rooms)
    (hnew : ∀ room, ∀ x ∈ s.entriesIn room, x.id ≠ b.id) :
    (s.apply (.bookingCreated b)).Keeps b where
  room_eq := by rw [roomOfBooking_apply_bookingCreated hroom, if_pos rfl]
  filter_eq room := by
    have hnone : (s.bookingsIn room).filter (·.id = b.id) = [] := by
      refine List.filter_eq_nil_iff.mpr fun b' hb' hid => ?_
      exact hnew room b'.entry (List.mem_map_of_mem hb') (of_decide_eq_true hid)
    rw [bookingsIn_apply_bookingCreated hroom]
    by_cases heq : b.room = room
    · rw [if_pos heq, if_pos heq.symm, RoomBook.filter_enter_self hnone]
    · rw [if_neg heq, if_neg (Ne.symm heq), hnone]

namespace Keeps

theorem roomCreated (h : s.Keeps b) {room : Room} (hne : room.id ≠ b.room) :
    (s.apply (.roomCreated room)).Keeps b where
  room_eq := h.room_eq
  filter_eq id := by
    rw [bookingsIn_of_insert (rooms_apply_roomCreated s room) id]
    split
    · next hid => rw [if_neg (hid ▸ hne)]; rfl
    · exact h.filter_eq id

theorem bookingCreated (h : s.Keeps b) {b' : Booking} (hne : b'.id ≠ b.id) :
    (s.apply (.bookingCreated b')).Keeps b := by
  by_cases hknown : b'.room ∈ s.rooms
  · refine ⟨?_, fun room => ?_⟩
    · rw [roomOfBooking_apply_bookingCreated hknown, if_neg hne]
      exact h.room_eq
    · rw [bookingsIn_apply_bookingCreated hknown]
      split
      · rw [RoomBook.filter_enter_of_ne hne]
        exact h.filter_eq room
      · exact h.filter_eq room
  · rwa [apply_of_unknown_room rfl (not_mem_iff_lookup.mp hknown)]

theorem bookingCanceled_of_ne (h : s.Keeps b) {id : RecordId} (hne : id ≠ b.id) (room : RecordId) :
    (s.apply (.bookingCanceled id room)).Keeps b where
  room_eq := by
    rw [(s.indexes_apply_bookingCanceled id room).1]
    exact h.room_eq
  filter_eq room' := by
    rw [bookingsIn_apply_bookingCanceled]
    split
    · rw [RoomBook.filter_strike_of_ne hne]
      exact h.filter_eq room'
    · exact h.filter_eq room'

/-- Of a canceled booking nothing but the flag has changed. -/
theorem bookingCanceled (h : s.Keeps b) :
    (s.apply (.bookingCanceled b.id b.room)).Keeps { b with canceled := true } where
  room_eq := by
    rw [(s.indexes_apply_bookingCanceled b.id b.room).1]
    exact h.room_eq
  filter_eq room := by
    rw [bookingsIn_apply_bookingCanceled]
    split
    · next hroom =>
        rw [RoomBook.filter_strike_self, h.filter_eq, if_pos hroom.symm, if_pos hroom.symm]
        simp [RoomBook.strike]
    · next hroom => rw [h.filter_eq, if_neg (Ne.symm hroom), if_neg (Ne.symm hroom)]

theorem apply (h : s.Keeps b) (he : e.Spares b) : (s.apply e).Keeps b := by
  cases e with
  | roomCreated room => exact h.roomCreated he
  | bookingCreated b' => exact h.bookingCreated he
  | bookingCanceled id room => exact h.bookingCanceled_of_ne he room
  | userDeleted id =>
      obtain ⟨users, emails, heq, -⟩ := s.apply_userDeleted id
      rw [heq]
      exact h.congr rfl fun _ => rfl
  | _ => exact h.congr rfl fun _ => rfl

/-! ## Look-ups -/

theorem mem_bookingsIn (h : s.Keeps b) : b ∈ s.bookingsIn b.room := by
  have hmem : b ∈ (s.bookingsIn b.room).filter (·.id = b.id) := by
    rw [h.filter_eq, if_pos rfl]
    exact List.mem_singleton_self b
  exact (List.mem_filter.mp hmem).1

theorem eq_of_mem (h : s.Keeps b) {b' : Booking} (hb' : b' ∈ s.bookingsIn room)
    (hid : b'.id = b.id) : b' = b ∧ room = b.room := by
  have hmem : b' ∈ (s.bookingsIn room).filter (·.id = b.id) :=
    List.mem_filter.mpr ⟨hb', decide_eq_true hid⟩
  rw [h.filter_eq] at hmem
  split at hmem
  · next hroom => exact ⟨List.mem_singleton.mp hmem, hroom⟩
  · cases hmem

/-- The book of its room gives the booking. -/
theorem booking?_current (h : s.Keeps b) (hslot : s.rooms[b.room]? = some slot) :
    slot.current.booking? b.id = some b := by
  rw [RoomBook.booking?, ← bookingsIn_eq hslot, ← List.head?_filter]
  exact congrArg List.head? ((h.filter_eq b.room).trans (if_pos rfl))

/-- The ledger gives the booking to its readers. -/
theorem booking?_eq (h : s.Keeps b) (hs : s.Keyed) : s.booking? b.id = some b := by
  obtain ⟨slot, hslot⟩ := mem_iff_lookup.mp (mem_rooms_of_mem_bookingsIn h.mem_bookingsIn)
  have hbook := h.booking?_current hslot
  obtain ⟨book, rfl, -⟩ := hs.book hslot
  have hpublished : s.publishedBook? b.room = some book := by rw [publishedBook?, hslot]; rfl
  simp only [booking?, roomOfBooking?, h.room_eq, Option.bind_eq_bind, Option.bind_some, hpublished]
  exact hbook

/-! ## Snapshots -/

/-- Among all bookings of the ledger no two have the identifier of one that stands in it. -/
theorem pairwise_allBookings (h : s.Keeps b) (hs : s.Keyed) :
    s.allBookings.Pairwise fun x y => x.id = b.id → y.id ≠ b.id := by
  refine ((List.mergeSort_perm _ _).pairwise_iff fun hxy hy hx => hxy hx hy).mpr ?_
  refine List.pairwise_flatMap.mpr ⟨fun slot hslot => ?_, ?_⟩
  · obtain ⟨room, hslot⟩ := mem_values.mp hslot
    obtain ⟨book, rfl, -⟩ := hs.book hslot
    have hfilter := h.filter_eq room
    rw [bookingsIn_eq hslot] at hfilter
    have hfew : ((RoomSlot.shown book).current.bookings.filter (·.id = b.id)).Pairwise
        fun _ _ => False := by
      rw [hfilter]
      split
      · exact List.pairwise_singleton _ _
      · exact List.Pairwise.nil
    refine (List.pairwise_filter.mp hfew).imp fun hxy hx hy => ?_
    exact hxy (decide_eq_true hx) (decide_eq_true hy)
  · -- The identifier leads to one room, and no two books are of this room.
    refine hs.pairwise_rooms.imp_of_mem fun {slot other} hslot hother hlt x hx y hy hxid hyid => ?_
    obtain ⟨room, hslot⟩ := mem_values.mp hslot
    obtain ⟨room', hother⟩ := mem_values.mp hother
    obtain ⟨book, rfl, hbook⟩ := hs.book hslot
    obtain ⟨book', rfl, hbook'⟩ := hs.book hother
    have hroom := (h.eq_of_mem ((bookingsIn_eq hslot).symm ▸ hx) hxid).2
    have hroom' := (h.eq_of_mem ((bookingsIn_eq hother).symm ▸ hy) hyid).2
    refine RecordId.ne_of_lt hlt ?_
    exact (hbook.room_id.trans hroom).trans (hbook'.room_id.trans hroom').symm

/-- A booking stands in the ledger again after a snapshot. -/
theorem replay_snapshot (h : s.Keeps b) (hs : s.Keyed) : (replay s.snapshot).Keeps b := by
  obtain ⟨before, after, hsplit⟩ :=
    List.append_of_mem (hs.mem_bookingsIn_iff.mp h.mem_bookingsIn).1
  have hpairwise := h.pairwise_allBookings hs
  rw [hsplit] at hpairwise
  obtain ⟨-, hafter, hbefore⟩ := List.pairwise_append.mp hpairwise
  obtain ⟨past, hsnapshot, hroom, hpast⟩ := hs.snapshot_split_at hsplit
  rw [hsnapshot, replay_append, List.foldl_cons]
  refine List.foldlRecOn (motive := fun t : Store => t.Keeps b) _ Store.apply ?_ ?_
  · refine keeps_apply_bookingCreated hroom fun room x hx hid => ?_
    obtain ⟨b', hmem, hid'⟩ := exists_bookingCreated_of_entry hx
    exact hbefore b' ((hpast b').mp hmem) b List.mem_cons_self (hid'.trans hid) rfl
  · intro t ht e he
    obtain ⟨b', hb', rfl⟩ := List.mem_map.mp he
    exact ht.apply ((List.pairwise_cons.mp hafter).1 b' hb' rfl)

end Keeps

end Store

end Lodging
