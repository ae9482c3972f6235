import Lodging.Proofs.KeyedStores
import Lodging.Store.Snapshot
import Mathlib.Data.List.Perm.Basic

/-!
# What compaction keeps

A snapshot is itself a log of creations, each of which is new at its turn, and such a log has
exactly the documents that it creates. Where documents and indexes agree, the indexes follow from
the documents, so the store that is rebuilt from a snapshot has the contents of the old one, up to
the order within the lists.
-/

namespace Lodging

open Std (ExtTreeMap)

/-! ## The values of a map -/

section

variable {β : Type} {m : ExtTreeMap RecordId β}

theorem values_eq_map_snd (m : ExtTreeMap RecordId β) : m.values = m.toList.map Prod.snd := by
  obtain ⟨⟨m⟩⟩ := m
  induction m using Quotient.ind with
  | _ m =>
      change m.inner.values = (Std.DTreeMap.Internal.Impl.Const.toList m.inner).map Prod.snd
      rw [Std.DTreeMap.Internal.Impl.values_eq_map_snd,
        Std.DTreeMap.Internal.Impl.Const.toList_eq_toListModel_map]
      simp

theorem mem_values {v : β} : v ∈ m.values ↔ ∃ id : RecordId, m[id]? = some v := by
  simp only [values_eq_map_snd, List.mem_map, Prod.exists, exists_eq_right,
    ExtTreeMap.mem_toList_iff_getElem?_eq_some]

/-- Values that know their key stand in the order of their keys. -/
theorem pairwise_values (key : β → RecordId)
    (hkey : ∀ {id : RecordId} {v : β}, m[id]? = some v → key v = id) :
    m.values.Pairwise fun v w => key v < key w := by
  rw [values_eq_map_snd, List.pairwise_map]
  refine m.ordered_keys_toList.imp_of_mem ?_
  rintro ⟨id, v⟩ ⟨id', v'⟩ hv hv' horder
  rw [hkey (ExtTreeMap.mem_toList_iff_getElem?_eq_some.mp hv),
    hkey (ExtTreeMap.mem_toList_iff_getElem?_eq_some.mp hv')]
  exact Nat.compare_eq_lt.mp horder

end

namespace Event

/-- Whether the event creates a document. -/
def isCreation : Event → Bool
  | hotelCreated .. | userCreated _ | roomCreated _ | bookingCreated _ => true
  | _ => false

/-- The place of a kind of event in a snapshot. -/
def kind : Event → Nat
  | hotelCreated .. => 0
  | userCreated _ => 1
  | roomCreated _ => 2
  | bookingCreated _ => 3
  | _ => 4

/-- The order of a snapshot: by kind, and then by identifier. -/
def Precedes (e e' : Event) : Prop := e.kind < e'.kind ∨ e.kind = e'.kind ∧ e.subject < e'.subject

end Event

/-- The hotels differ at most in the order of their rooms. -/
def Hotel.SameButOrder (h h' : Hotel) : Prop :=
  h.rooms.Perm h'.rooms ∧ { h with rooms := h'.rooms } = h'

/-- The books are of the same room and differ at most in the order of its bookings. -/
def RoomBook.SameButOrder (book book' : RoomBook) : Prop :=
  book.room = book'.room ∧ book.bookings.Perm book'.bookings

/-- Writers see the same but the order, and so do readers. -/
def RoomSlot.SameButOrder (slot slot' : RoomSlot) : Prop :=
  slot.current.SameButOrder slot'.current ∧ slot.published.SameButOrder slot'.published

namespace Store

variable {s t : Store} {events past : List Event} {e : Event}

/-! ## Logs of creations -/

/-- The documents of the store are those that the events create. -/
structure Lists (s : Store) (events : List Event) : Prop where
  hotel_iff : ∀ (id : RecordId) name location rating,
    (∃ rooms, s.hotels[id]? = some ⟨id, name, location, rooms, rating⟩) ↔
      .hotelCreated id name location rating ∈ events
  user_iff : ∀ user : User, s.users[user.id]? = some user ↔ .userCreated user ∈ events
  room_iff : ∀ room : Room, s.room? room.id = some room ↔ .roomCreated room ∈ events
  booking_iff : ∀ b : Booking, b ∈ s.bookingsIn b.room ↔ .bookingCreated b ∈ events

theorem lists_empty : empty.Lists [] := by
  constructor <;> simp [empty, room?, bookingsIn, currentBook?]

theorem mem_append_singleton_of_ne {x : Event} (h : x ≠ e) : x ∈ past ++ [e] ↔ x ∈ past := by
  rw [List.mem_append, List.mem_singleton, or_iff_left h]

/-- A new room changes of its hotel the list of rooms alone. -/
theorem exists_hotel_apply_roomCreated (s : Store) (room : Room) (id : RecordId)
    (name location : String) (rating : UInt8) :
    (∃ rooms, (s.apply (.roomCreated room)).hotels[id]? =
      some ⟨id, name, location, rooms, rating⟩) ↔
      ∃ rooms, s.hotels[id]? = some ⟨id, name, location, rooms, rating⟩ := by
  rw [hotels_apply_roomCreated]
  split
  · constructor
    · rintro ⟨rooms, hhotel⟩
      obtain ⟨old, hold, heq⟩ := Option.map_eq_some_iff.mp hhotel
      cases old
      cases heq
      exact ⟨_, hold⟩
    · rintro ⟨rooms, hhotel⟩
      rw [hhotel]
      exact ⟨_, rfl⟩
  · rfl

/-- What is created is new among the documents of its kind, and a booking finds its room. -/
def Fresh (s : Store) : Event → Prop
  | .hotelCreated id _ _ _ => id ∉ s.hotels
  | .userCreated user => user.id ∉ s.users
  | .roomCreated room => room.id ∉ s.rooms
  | .bookingCreated b => b.room ∈ s.rooms
  | _ => True

theorem Lists.apply (h : s.Lists past) (he : s.Fresh e) (hcreation : e.isCreation = true) :
    (s.apply e).Lists (past ++ [e]) := by
  have hother {x : Event} (hx : x ≠ e) : x ∈ past ↔ x ∈ past ++ [e] :=
    (mem_append_singleton_of_ne hx).symm
  cases e with
  | hotelCreated id name location rating =>
      refine ⟨fun id' name' location' rating' => ?_, fun user => ?_, fun room => ?_, fun b => ?_⟩
      · rw [hotels_apply_hotelCreated, List.mem_append, ← h.hotel_iff]
        split
        · next hid =>
            subst hid
            simp [not_mem_iff_lookup.mp he, eq_comm]
        · next hid => simp [Ne.symm hid]
      · exact (h.user_iff user).trans (hother (by simp))
      · exact (h.room_iff room).trans (hother (by simp))
      · exact (h.booking_iff b).trans (hother (by simp))
  | userCreated user =>
      refine ⟨fun id name location rating => ?_, fun user' => ?_, fun room => ?_, fun b => ?_⟩
      · exact (h.hotel_iff id name location rating).trans (hother (by simp))
      · rw [users_apply_userCreated, List.mem_append, ← h.user_iff]
        split
        · next hid => simp [← hid, not_mem_iff_lookup.mp he, eq_comm]
        · next hid =>
            have hne : user' ≠ user := by rintro rfl; exact hid rfl
            simp [hne]
      · exact (h.room_iff room).trans (hother (by simp))
      · exact (h.booking_iff b).trans (hother (by simp))
  | roomCreated room =>
      refine ⟨fun id name location rating => ?_, fun user => ?_, fun room' => ?_, fun b => ?_⟩
      · rw [exists_hotel_apply_roomCreated]
        exact (h.hotel_iff id name location rating).trans (hother (by simp))
      · exact (h.user_iff user).trans (hother (by simp))
      · rw [room?_apply_roomCreated, List.mem_append, ← h.room_iff]
        split
        · next hid => simp [← hid, room?_eq_none_iff.mpr he, eq_comm]
        · next hid =>
            have hne : room' ≠ room := by rintro rfl; exact hid rfl
            simp [hne]
      · rw [bookingsIn_apply_roomCreated he]
        exact (h.booking_iff b).trans (hother (by simp))
  | bookingCreated b =>
      obtain ⟨hhotels, husers, -⟩ := apply_of_booked (s := s) (e := .bookingCreated b) rfl
      refine ⟨fun id name location rating => ?_, fun user => ?_, fun room => ?_, fun b' => ?_⟩
      · rw [hhotels]
        exact (h.hotel_iff id name location rating).trans (hother (by simp))
      · rw [husers]
        exact (h.user_iff user).trans (hother (by simp))
      · rw [room?_apply_of_booked rfl]
        exact (h.room_iff room).trans (hother (by simp))
      · rw [bookingsIn_apply_bookingCreated he, List.mem_append, ← h.booking_iff]
        split
        · simp [or_comm]
        · next hroom =>
            have hne : b' ≠ b := by rintro rfl; exact hroom rfl
            simp [hne]
  | _ => cases hcreation

/-- A log of creations has the documents that it creates. -/
theorem History.lists (h : History Fresh events) (hcreation : ∀ e ∈ events, e.isCreation = true) :
    (replay events).Lists events := by
  induction events using List.reverseRecOn with
  | nil => rw [replay_nil]; exact lists_empty
  | append_singleton past e ih =>
      rw [replay_append_singleton]
      have hpast := ih (h.of_isPrefix (List.prefix_append _ _)) fun e' he' =>
        hcreation e' (List.mem_append_left _ he')
      exact hpast.apply (h past e [] rfl) (hcreation e (List.mem_append_right _ List.mem_cons_self))

/-! ## The snapshot as a log -/

theorem isCreation_of_mem_snapshot (he : e ∈ s.snapshot) : e.isCreation = true := by
  simp only [snapshot, List.mem_append, List.mem_map] at he
  rcases he with ((⟨hotel, -, rfl⟩ | ⟨user, -, rfl⟩) | ⟨slot, -, rfl⟩) | ⟨b, -, rfl⟩
  · rfl
  · rfl
  · rfl
  · rfl

@[simp] theorem hotelCreated_mem_snapshot {id : RecordId} {name location : String}
    {rating : UInt8} :
    .hotelCreated id name location rating ∈ s.snapshot ↔
      ∃ rooms, (⟨id, name, location, rooms, rating⟩ : Hotel) ∈ s.allHotels := by
  constructor
  · intro h
    obtain ⟨⟨id', name', location', rooms, rating'⟩, hhotel, heq⟩ :
        ∃ hotel ∈ s.allHotels, Event.hotelCreated hotel.id hotel.name hotel.location hotel.rating =
          .hotelCreated id name location rating := by simpa [snapshot] using h
    cases heq
    exact ⟨rooms, hhotel⟩
  · rintro ⟨rooms, hhotel⟩
    simp only [snapshot, List.mem_append, List.mem_map]
    exact .inl (.inl (.inl ⟨_, hhotel, rfl⟩))

@[simp] theorem userCreated_mem_snapshot {user : User} :
    .userCreated user ∈ s.snapshot ↔ user ∈ s.allUsers := by
  simp [snapshot]

@[simp] theorem roomCreated_mem_snapshot {room : Room} :
    .roomCreated room ∈ s.snapshot ↔ ∃ slot ∈ s.rooms.values, slot.published.room = room := by
  simp [snapshot]

@[simp] theorem bookingCreated_mem_snapshot {b : Booking} :
    .bookingCreated b ∈ s.snapshot ↔ b ∈ s.allBookings := by
  simp [snapshot]

theorem mem_byId {bookings : List Booking} {b : Booking} : b ∈ byId bookings ↔ b ∈ bookings :=
  (List.mergeSort_perm _ _).mem_iff

theorem pairwise_byId (bookings : List Booking) :
    (byId bookings).Pairwise fun a b => a.id ≤ b.id := by
  have htrans : ∀ a b c : Booking, decide (a.id ≤ b.id) = true → decide (b.id ≤ c.id) = true →
      decide (a.id ≤ c.id) = true := by
    intro a b c hab hbc
    exact decide_eq_true (Nat.le_trans (of_decide_eq_true hab) (of_decide_eq_true hbc))
  have htotal : ∀ a b : Booking, (decide (a.id ≤ b.id) || decide (b.id ≤ a.id)) = true := by
    intro a b
    rw [Bool.or_eq_true, decide_eq_true_eq, decide_eq_true_eq]
    exact Nat.le_total a.id.toNat b.id.toNat
  exact (List.pairwise_mergeSort htrans htotal bookings).imp of_decide_eq_true

theorem pairwise_lt_byId {bookings : List Booking}
    (h : bookings.Pairwise fun a b => a.id ≠ b.id) :
    (byId bookings).Pairwise fun a b => a.id < b.id := by
  have hdistinct : (byId bookings).Pairwise fun a b => a.id ≠ b.id :=
    ((List.mergeSort_perm _ _).pairwise_iff Ne.symm).mpr h
  refine ((pairwise_byId _).and hdistinct).imp fun {a b} hab => ?_
  exact Nat.lt_of_le_of_ne hab.1 fun heq => hab.2 (RecordId.toNat_injective heq)

namespace Keyed

theorem mem_bookingsIn_iff (h : s.Keyed) {b : Booking} {room : RecordId} :
    b ∈ s.bookingsIn room ↔ b ∈ s.allBookings ∧ b.room = room := by
  simp only [allBookings, mem_byId, List.mem_flatMap, mem_values]
  constructor
  · intro hb
    obtain ⟨slot, hslot⟩ := mem_iff_lookup.mp (mem_rooms_of_mem_bookingsIn hb)
    obtain ⟨book, rfl, hbook⟩ := h.book hslot
    rw [bookingsIn_eq hslot] at hb
    exact ⟨⟨_, ⟨room, hslot⟩, hb⟩, hbook.bookings b hb⟩
  · rintro ⟨⟨slot, ⟨key, hslot⟩, hb⟩, hroom⟩
    obtain ⟨book, rfl, hbook⟩ := h.book hslot
    obtain rfl : key = room := (hbook.bookings b hb).symm.trans hroom
    rwa [bookingsIn_eq hslot]

theorem pairwise_rooms (h : s.Keyed) :
    s.rooms.values.Pairwise fun slot other => slot.published.room.id < other.published.room.id := by
  refine pairwise_values (fun slot : RoomSlot => slot.published.room.id) fun hslot => ?_
  obtain ⟨book, rfl, hbook⟩ := h.book hslot
  exact hbook.room_id

/-- A snapshot creates the documents of the store and no others. -/
theorem lists_snapshot (h : s.Keyed) : s.Lists s.snapshot where
  hotel_iff id name location rating := by
    simp only [hotelCreated_mem_snapshot, allHotels, mem_values]
    constructor
    · rintro ⟨rooms, hhotel⟩
      exact ⟨rooms, id, hhotel⟩
    · rintro ⟨rooms, key, hhotel⟩
      obtain rfl : id = key := h.hotel_id hhotel
      exact ⟨rooms, hhotel⟩
  user_iff user := by
    simp only [userCreated_mem_snapshot, allUsers, mem_values]
    constructor
    · intro huser
      exact ⟨user.id, huser⟩
    · rintro ⟨key, huser⟩
      exact h.user_id huser ▸ huser
  room_iff room := by
    simp only [roomCreated_mem_snapshot, mem_values]
    constructor
    · intro hroom
      obtain ⟨slot, hslot⟩ := mem_iff_lookup.mp (mem_rooms_of_room? hroom)
      rw [room?_eq hslot, Option.some.injEq] at hroom
      obtain ⟨book, rfl, -⟩ := h.book hslot
      exact ⟨_, ⟨_, hslot⟩, hroom⟩
    · rintro ⟨slot, ⟨key, hslot⟩, rfl⟩
      obtain ⟨book, rfl, hbook⟩ := h.book hslot
      obtain rfl := hbook.room_id
      exact room?_eq hslot
  booking_iff b := by
    rw [bookingCreated_mem_snapshot, h.mem_bookingsIn_iff, and_iff_left rfl]

/-- The ledger has no two bookings of one identifier. -/
theorem pairwise_bookings (h : s.Keyed) (hdistinct : s.Distinct) :
    (s.rooms.values.flatMap (·.published.bookings)).Pairwise fun a b => a.id ≠ b.id := by
  refine List.pairwise_flatMap.mpr ⟨fun slot hslot => ?_, ?_⟩
  · obtain ⟨room, hslot⟩ := mem_values.mp hslot
    obtain ⟨book, rfl, -⟩ := h.book hslot
    have hnodup := hdistinct.nodup room
    rw [entriesIn, bookingsIn_eq hslot, List.map_map] at hnodup
    exact List.pairwise_map.mp hnodup
  · -- Two rooms cannot have a booking in common, since its identifier leads to one of them.
    refine h.pairwise_rooms.imp_of_mem fun {slot other} hslot hother hlt b hb b' hb' hid => ?_
    obtain ⟨room, hslot⟩ := mem_values.mp hslot
    obtain ⟨room', hother⟩ := mem_values.mp hother
    obtain ⟨book, rfl, hbook⟩ := h.book hslot
    obtain ⟨book', rfl, hbook'⟩ := h.book hother
    have hsame : room = room' := hdistinct.room_unique
      (List.mem_map_of_mem (f := Booking.entry) ((bookingsIn_eq hslot).symm ▸ hb))
      (List.mem_map_of_mem (f := Booking.entry) ((bookingsIn_eq hother).symm ▸ hb')) hid
    refine RecordId.ne_of_lt hlt ?_
    exact hbook.room_id.trans (hsame.trans hbook'.room_id.symm)

theorem pairwise_allBookings (h : s.Keyed) (hdistinct : s.Distinct) :
    s.allBookings.Pairwise fun a b => a.id < b.id :=
  pairwise_lt_byId (h.pairwise_bookings hdistinct)

/-- A snapshot goes by kind, and within a kind by identifier. -/
theorem pairwise_snapshot (h : s.Keyed) (hdistinct : s.Distinct) :
    s.snapshot.Pairwise Event.Precedes := by
  have hkinds : ∀ (k : Nat) {events later : List Event}, events.Pairwise Event.Precedes →
      later.Pairwise Event.Precedes → (∀ e ∈ events, e.kind < k) → (∀ e ∈ later, e.kind = k) →
      (events ++ later).Pairwise Event.Precedes := by
    intro k events later hevents hlater hbelow hkind
    refine List.pairwise_append.mpr ⟨hevents, hlater, fun e he e' he' => .inl ?_⟩
    rw [hkind e' he']
    exact hbelow e he
  have hhotels : (s.allHotels.map fun hotel => Event.hotelCreated hotel.id hotel.name
      hotel.location hotel.rating).Pairwise Event.Precedes :=
    List.pairwise_map.mpr ((pairwise_values Hotel.id h.hotel_id).imp
      fun hlt => .inr ⟨rfl, hlt⟩)
  have husers : (s.allUsers.map Event.userCreated).Pairwise Event.Precedes :=
    List.pairwise_map.mpr ((pairwise_values User.id h.user_id).imp
      fun hlt => .inr ⟨rfl, hlt⟩)
  have hrooms : (s.rooms.values.map fun slot =>
      Event.roomCreated slot.published.room).Pairwise Event.Precedes :=
    List.pairwise_map.mpr (h.pairwise_rooms.imp fun hlt => .inr ⟨rfl, hlt⟩)
  have hbookings : (s.allBookings.map Event.bookingCreated).Pairwise Event.Precedes :=
    List.pairwise_map.mpr ((h.pairwise_allBookings hdistinct).imp fun hlt => .inr ⟨rfl, hlt⟩)
  -- Four pieces, one of each kind, and each piece is below all that follow.
  refine hkinds 3 (hkinds 2 (hkinds 1 hhotels husers ?_ ?_) hrooms ?_ ?_) hbookings ?_ ?_
  all_goals simp +contextual [Event.kind, or_imp, forall_and]

/-- What stands before an event of a snapshot: of its kind only smaller identifiers, and all events
of the kinds before. -/
theorem snapshot_split (h : s.Keyed) (hdistinct : s.Distinct) {rest : List Event}
    (hsplit : past ++ e :: rest = s.snapshot) :
    (∀ x ∈ past, x.kind = e.kind → x.subject < e.subject) ∧
      ∀ x ∈ s.snapshot, x.kind < e.kind → x ∈ past := by
  have horder := h.pairwise_snapshot hdistinct
  rw [← hsplit, List.pairwise_append, List.pairwise_cons] at horder
  obtain ⟨-, ⟨hlater, -⟩, hearlier⟩ := horder
  refine ⟨fun x hx hkind => ?_, fun x hx hkind => ?_⟩
  · rcases hearlier x hx e List.mem_cons_self with hlt | ⟨-, hlt⟩
    · exact absurd hkind (Nat.ne_of_lt hlt)
    · exact hlt
  · rw [← hsplit, List.mem_append, List.mem_cons] at hx
    rcases hx with hx | rfl | hx
    · exact hx
    · exact absurd hkind (Nat.lt_irrefl _)
    · rcases hlater x hx with hlt | ⟨heq, -⟩
      · exact absurd hkind (Nat.lt_asymm hlt)
      · exact absurd heq.symm (Nat.ne_of_lt hkind)

theorem roomCreated_of_bookingCreated (h : s.Keyed) {b : Booking}
    (hb : .bookingCreated b ∈ s.snapshot) :
    ∃ room, .roomCreated room ∈ s.snapshot ∧ room.id = b.room := by
  obtain ⟨slot, hslot⟩ := mem_iff_lookup.mp
    (mem_rooms_of_mem_bookingsIn ((h.lists_snapshot.booking_iff b).mpr hb))
  obtain ⟨book, rfl, hbook⟩ := h.book hslot
  exact ⟨book.room, roomCreated_mem_snapshot.mpr ⟨_, mem_values.mpr ⟨_, hslot⟩, rfl⟩, hbook.room_id⟩

/-- What a snapshot creates is new at its turn, and a booking finds its room. -/
theorem fresh_snapshot (h : s.Keyed) (hdistinct : s.Distinct) : History Fresh s.snapshot := by
  intro past e rest hsplit
  obtain ⟨hsmaller, hbefore⟩ := h.snapshot_split hdistinct hsplit.symm
  have he : e ∈ s.snapshot := hsplit ▸ List.mem_append_right _ List.mem_cons_self
  have hnew : ∀ x ∈ past, x.kind = e.kind → x.subject ≠ e.subject :=
    fun x hx hkind => RecordId.ne_of_lt (hsmaller x hx hkind)
  cases e with
  | hotelCreated id name location rating =>
      intro hmem
      obtain ⟨name', location', rating', hmem⟩ := mem_hotels_replay.mp hmem
      exact hnew _ hmem rfl rfl
  | userCreated user =>
      intro hmem
      obtain ⟨other, hmem, hid⟩ := mem_users_of_replay hmem
      exact hnew _ hmem rfl hid
  | roomCreated room =>
      intro hmem
      obtain ⟨other, hmem, hid⟩ := mem_rooms_replay.mp hmem
      exact hnew _ hmem rfl hid
  | bookingCreated b =>
      obtain ⟨room, hmem, hid⟩ := h.roomCreated_of_bookingCreated he
      exact mem_rooms_replay.mpr ⟨room, hbefore _ hmem (by simp [Event.kind]), hid⟩
  | _ => trivial

/-- The store that is rebuilt from a snapshot has the documents that the snapshot creates. -/
theorem lists_replay_snapshot (h : s.Keyed) (hdistinct : s.Distinct) :
    (replay s.snapshot).Lists s.snapshot :=
  (h.fresh_snapshot hdistinct).lists fun _ he => isCreation_of_mem_snapshot he

end Keyed

namespace Coherent

theorem keyed (h : s.Coherent) : s.Keyed where
  hotel_id := h.houses.id_eq
  user_id := h.people.id_eq
  book {id slot} hslot := by
    refine ⟨slot.current, h.shown hslot, h.houses.room_id_eq (room?_eq hslot), fun b hb => ?_⟩
    rw [← bookingsIn_eq hslot] at hb
    exact h.ledger.room_eq (List.mem_map_of_mem (f := Booking.entry) hb)

theorem distinct (h : s.Coherent) : s.Distinct where
  nodup := h.ledger.nodup
  room_unique := h.ledger.room_unique

theorem mem_allBookings (h : s.Coherent) {b : Booking} :
    b ∈ s.allBookings ↔ b ∈ s.bookingsIn b.room := by
  rw [h.keyed.mem_bookingsIn_iff, and_iff_left rfl]

theorem lists_snapshot (h : s.Coherent) : s.Lists s.snapshot := h.keyed.lists_snapshot

theorem pairwise_allBookings (h : s.Coherent) :
    s.allBookings.Pairwise fun a b => a.id < b.id :=
  h.keyed.pairwise_allBookings h.distinct

/-- Two users of a coherent store do not share an address. -/
theorem email_ne (h : s.Coherent) {user other : User} (huser : .userCreated user ∈ s.snapshot)
    (hother : .userCreated other ∈ s.snapshot) (hid : other.id ≠ user.id) :
    Text.lowercase other.email ≠ Text.lowercase user.email := by
  intro hemail
  have hholder := h.people.holder_iff.mpr ⟨user, (h.lists_snapshot.user_iff user).mpr huser, rfl⟩
  have hholder' := h.people.holder_iff.mpr
    ⟨other, (h.lists_snapshot.user_iff other).mpr hother, hemail⟩
  exact hid (Option.some.inj (hholder'.symm.trans hholder))

theorem hotelCreated_of_roomCreated (h : s.Coherent) {room : Room}
    (hroom : .roomCreated room ∈ s.snapshot) :
    ∃ name location rating, .hotelCreated room.hotel name location rating ∈ s.snapshot := by
  obtain ⟨hotel, hhotel⟩ := mem_iff_lookup.mp
    (h.houses.hotel_mem ((h.lists_snapshot.room_iff room).mpr hroom))
  have hid := h.houses.id_eq hhotel
  rw [← hid] at hhotel ⊢
  exact ⟨_, _, _, (h.lists_snapshot.hotel_iff _ _ _ _).mp ⟨hotel.rooms, hhotel⟩⟩

/-- Each creation of a snapshot finds what it needs. -/
theorem history_snapshot (h : s.Coherent) : History Admits s.snapshot := by
  intro past e rest hsplit
  have hfresh := h.keyed.fresh_snapshot h.distinct
  obtain ⟨hsmaller, hbefore⟩ := h.keyed.snapshot_split h.distinct hsplit.symm
  have he : e ∈ s.snapshot := hsplit ▸ List.mem_append_right _ List.mem_cons_self
  have hin : ∀ x ∈ past, x ∈ s.snapshot := fun x hx => hsplit ▸ List.mem_append_left _ hx
  have hnew : ∀ x ∈ past, x.kind = e.kind → x.subject ≠ e.subject :=
    fun x hx hkind => RecordId.ne_of_lt (hsmaller x hx hkind)
  have hfound := hfresh past e rest hsplit
  cases e with
  | hotelCreated id name location rating => exact hfound
  | userCreated user =>
      refine ⟨hfound, fun id other hother => ?_⟩
      have hlists := (hfresh.of_isPrefix (hsplit ▸ List.prefix_append _ _)).lists
        fun x hx => isCreation_of_mem_snapshot (hin x hx)
      obtain rfl := (keyed_replay past).user_id hother
      have hmem := (hlists.user_iff other).mp hother
      exact h.email_ne he (hin _ hmem) (hnew _ hmem rfl)
  | roomCreated room =>
      obtain ⟨name, location, rating, hmem⟩ := h.hotelCreated_of_roomCreated he
      have hmem := hbefore _ hmem (by simp [Event.kind])
      exact ⟨hfound, mem_hotels_replay.mpr ⟨name, location, rating, hmem⟩⟩
  | bookingCreated b =>
      refine ⟨fun hmem => ?_, hfound⟩
      obtain ⟨other, hmem, hid⟩ := mem_roomOfBooking_of_replay hmem
      exact hnew _ hmem rfl hid
  | _ => cases isCreation_of_mem_snapshot he

theorem lists_replay_snapshot (h : s.Coherent) : (replay s.snapshot).Lists s.snapshot :=
  h.keyed.lists_replay_snapshot h.distinct

end Coherent

/-! ## Stores of the same contents -/

/-- Look-ups that give values under their own keys agree if they have the same values. -/
theorem lookup_eq_of_iff {α : Type} {key : α → RecordId} {f g : RecordId → Option α}
    (hf : ∀ {id v}, f id = some v → key v = id) (hg : ∀ {id v}, g id = some v → key v = id)
    (h : ∀ v, f (key v) = some v ↔ g (key v) = some v) (id : RecordId) : f id = g id := by
  refine Option.ext fun v => ?_
  constructor
  · intro hv
    obtain rfl := hf hv
    exact (h v).mp hv
  · intro hv
    obtain rfl := hg hv
    exact (h v).mpr hv

/-- The same documents and indexes, up to the order of the rooms of a hotel, of the bookings in the
book of a room, and of the bookings of a user. -/
structure SameContents (s t : Store) : Prop where
  users : s.users = t.users
  emails : s.emails = t.emails
  hotels : ∀ id : RecordId, Option.Rel Hotel.SameButOrder s.hotels[id]? t.hotels[id]?
  rooms : ∀ id : RecordId, Option.Rel RoomSlot.SameButOrder s.rooms[id]? t.rooms[id]?
  roomOfBooking : s.roomOfBooking = t.roomOfBooking
  bookingIdsOf : ∀ user, (s.bookingIdsOf user).Perm (t.bookingIdsOf user)

namespace Coherent

variable (hs : s.Coherent) (ht : t.Coherent) (h : s.Lists events) (h' : t.Lists events)
include hs ht h h'

theorem users_eq : s.users = t.users :=
  ExtTreeMap.ext_getElem? (lookup_eq_of_iff hs.people.id_eq ht.people.id_eq fun user =>
    (h.user_iff user).trans (h'.user_iff user).symm)

theorem emails_eq : s.emails = t.emails := by
  refine ExtTreeMap.ext_getElem? fun email => Option.ext fun id => ?_
  rw [hs.people.holder_iff, ht.people.holder_iff, users_eq hs ht h h']

theorem room?_eq_room? (id : RecordId) : s.room? id = t.room? id :=
  lookup_eq_of_iff hs.houses.room_id_eq ht.houses.room_id_eq
    (fun room => (h.room_iff room).trans (h'.room_iff room).symm) id

theorem mem_bookingsIn_iff {room : RecordId} {b : Booking} :
    b ∈ s.bookingsIn room ↔ b ∈ t.bookingsIn room := by
  have hiff : b ∈ s.bookingsIn b.room ↔ b ∈ t.bookingsIn b.room :=
    (h.booking_iff b).trans (h'.booking_iff b).symm
  constructor
  · intro hb
    have hroom : b.room = room := hs.ledger.room_eq (List.mem_map_of_mem (f := Booking.entry) hb)
    exact hroom ▸ hiff.mp (hroom.symm ▸ hb)
  · intro hb
    have hroom : b.room = room := ht.ledger.room_eq (List.mem_map_of_mem (f := Booking.entry) hb)
    exact hroom ▸ hiff.mpr (hroom.symm ▸ hb)

theorem bookingsIn_perm (room : RecordId) : (s.bookingsIn room).Perm (t.bookingsIn room) :=
  (List.perm_ext_iff_of_nodup (hs.ledger.bookings_nodup room) (ht.ledger.bookings_nodup room)).mpr
    fun _ => mem_bookingsIn_iff hs ht h h'

theorem mem_entriesIn_iff {room : RecordId} {x : Entry} :
    x ∈ s.entriesIn room ↔ x ∈ t.entriesIn room := by
  simp only [entriesIn, List.mem_map, mem_bookingsIn_iff hs ht h h']

theorem hotels_rel (id : RecordId) : Option.Rel Hotel.SameButOrder s.hotels[id]? t.hotels[id]? := by
  have hiff : ∀ name location rating,
      (∃ rooms, s.hotels[id]? = some ⟨id, name, location, rooms, rating⟩) ↔
        ∃ rooms, t.hotels[id]? = some ⟨id, name, location, rooms, rating⟩ :=
    fun name location rating =>
      (h.hotel_iff id name location rating).trans (h'.hotel_iff id name location rating).symm
  cases hhotel : s.hotels[id]? with
  | none =>
      cases hhotel' : t.hotels[id]? with
      | none => exact .none
      | some hotel' =>
          obtain ⟨id', name, location, rooms, rating⟩ := hotel'
          obtain rfl : id' = id := ht.houses.id_eq hhotel'
          obtain ⟨rooms', hfound⟩ := (hiff name location rating).mpr ⟨rooms, hhotel'⟩
          cases hhotel.symm.trans hfound
  | some hotel =>
      obtain ⟨id', name, location, rooms, rating⟩ := hotel
      obtain rfl : id' = id := hs.houses.id_eq hhotel
      obtain ⟨rooms', hhotel'⟩ := (hiff name location rating).mp ⟨rooms, hhotel⟩
      rw [hhotel']
      refine .some ⟨?_, rfl⟩
      refine (List.perm_ext_iff_of_nodup (hs.houses.nodup hhotel) (ht.houses.nodup hhotel')).mpr
        fun room => ?_
      rw [hs.houses.mem_iff hhotel, ht.houses.mem_iff hhotel', room?_eq_room? hs ht h h']

theorem rooms_rel (id : RecordId) : Option.Rel RoomSlot.SameButOrder s.rooms[id]? t.rooms[id]? := by
  have hroom := room?_eq_room? hs ht h h' id
  have hbookings := bookingsIn_perm hs ht h h' id
  cases hslot : s.rooms[id]? with
  | none =>
      rw [room?_eq_none_iff.mpr (not_mem_iff_lookup.mpr hslot)] at hroom
      rw [not_mem_iff_lookup.mp (room?_eq_none_iff.mp hroom.symm)]
      exact .none
  | some slot =>
      cases hslot' : t.rooms[id]? with
      | none =>
          rw [room?_eq hslot, room?_eq_none_iff.mpr (not_mem_iff_lookup.mpr hslot')] at hroom
          cases hroom
      | some slot' =>
          rw [room?_eq hslot, room?_eq hslot'] at hroom
          rw [bookingsIn_eq hslot, bookingsIn_eq hslot'] at hbookings
          have hsame : slot.current.SameButOrder slot'.current := ⟨Option.some.inj hroom, hbookings⟩
          refine .some ⟨hsame, ?_⟩
          rw [hs.slot_eq hslot, ht.slot_eq hslot']
          exact hsame

/-- Coherent stores with the same documents have the same contents. -/
theorem sameContents : SameContents s t where
  users := users_eq hs ht h h'
  emails := emails_eq hs ht h h'
  hotels := hotels_rel hs ht h h'
  rooms := rooms_rel hs ht h h'
  roomOfBooking := by
    refine ExtTreeMap.ext_getElem? fun id => Option.ext fun room => ?_
    rw [hs.ledger.room_iff, ht.ledger.room_iff]
    simp only [mem_entriesIn_iff hs ht h h']
  bookingIdsOf user := by
    refine (List.perm_ext_iff_of_nodup (hs.ledger.ofUser_nodup user)
      (ht.ledger.ofUser_nodup user)).mpr fun id => ?_
    rw [hs.ledger.mem_ofUser_iff, ht.ledger.mem_ofUser_iff]
    simp only [mem_entriesIn_iff hs ht h h']

end Coherent

end Store

/-! ## Well-formed logs -/

/-- The identifier of the document that an event creates. -/
def Event.createdId? : Event → Option RecordId
  | hotelCreated id _ _ _ => some id
  | userCreated user => some user.id
  | roomCreated room => some room.id
  | bookingCreated b => some b.id
  | _ => none

namespace Store

variable {events past : List Event} {e : Event}

/-- A log in which every created document has a new identifier, a room names a hotel and a booking
names a room that were created before, and a user has an email address that no user of that moment
has. Updates, deletions and cancellations may be about anything. -/
structure WellFormed (events : List Event) : Prop where
  fresh : (events.filterMap Event.createdId?).Nodup
  hotel_known : ∀ past room rest, events = past ++ .roomCreated room :: rest →
    ∃ name location rating, .hotelCreated room.hotel name location rating ∈ past
  room_known : ∀ past b rest, events = past ++ .bookingCreated b :: rest →
    ∃ room, .roomCreated room ∈ past ∧ room.id = b.room
  email_free : ∀ past user rest, events = past ++ .userCreated user :: rest →
    ∀ (id : RecordId) (other : User), (replay past).users[id]? = some other →
      Text.lowercase other.email ≠ Text.lowercase user.email

theorem WellFormed.history (h : WellFormed events) : History Admits events := by
  rintro past e rest rfl
  have hnew : ∀ x ∈ past, ∀ id, x.createdId? = some id → e.createdId? ≠ some id := by
    intro x hx id hid he
    have hfresh := h.fresh
    rw [List.filterMap_append, List.filterMap_cons_some he] at hfresh
    exact (List.nodup_append.mp hfresh).2.2 id (List.mem_filterMap.mpr ⟨x, hx, hid⟩) id
      List.mem_cons_self rfl
  cases e with
  | hotelCreated id name location rating =>
      intro hmem
      obtain ⟨name', location', rating', hmem⟩ := mem_hotels_replay.mp hmem
      exact hnew _ hmem id rfl rfl
  | userCreated user =>
      refine ⟨fun hmem => ?_, h.email_free past user rest rfl⟩
      obtain ⟨other, hmem, hid⟩ := mem_users_of_replay hmem
      exact hnew _ hmem user.id (congrArg some hid) rfl
  | roomCreated room =>
      refine ⟨fun hmem => ?_, mem_hotels_replay.mpr (h.hotel_known past room rest rfl)⟩
      obtain ⟨other, hmem, hid⟩ := mem_rooms_replay.mp hmem
      exact hnew _ hmem room.id (congrArg some hid) rfl
  | bookingCreated b =>
      refine ⟨fun hmem => ?_, mem_rooms_replay.mpr (h.room_known past b rest rfl)⟩
      obtain ⟨other, hmem, hid⟩ := mem_roomOfBooking_of_replay hmem
      exact hnew _ hmem b.id (congrArg some hid) rfl
  | _ => trivial

/-- The store rebuilt from the snapshot of a well-formed log has the contents of the store that the
log itself leaves. -/
theorem sameContents_replay_snapshot (h : WellFormed events) :
    SameContents (replay events) (replay (replay events).snapshot) := by
  have hcoherent := h.history.coherent
  exact hcoherent.sameContents hcoherent.history_snapshot.coherent hcoherent.lists_snapshot
    hcoherent.lists_replay_snapshot

/-- A user leaves and another one takes over the email address, and of two bookings of one night,
entered against the order of their identifiers, the first is canceled. -/
theorem sameContents_replay_snapshot_of_reuse :
    let id (n : Nat) : RecordId := .ofParts 0 n
    let night : Stay := ⟨⟨2024, 1, 1, by decide, by decide, by decide⟩,
      ⟨2024, 1, 2, by decide, by decide, by decide⟩⟩
    let log : List Event :=
      [.userCreated ⟨id 1, "Ada", "L", "ada@host", false⟩, .userDeleted (id 1),
        .userCreated ⟨id 2, "Bob", "L", "ADA@host", false⟩, .hotelCreated (id 9) "Inn" "Hill" 3,
        .roomCreated ⟨id 8, .king, ⟨0⟩, ⟨0⟩, id 9⟩,
        .bookingCreated ⟨id 7, id 8, id 2, 1, night, false⟩, .bookingCanceled (id 7) (id 8),
        .bookingCreated ⟨id 6, id 8, id 2, 1, night, false⟩]
    WellFormed log ∧ SameContents (replay log) (replay (replay log).snapshot) := by
  intro id night log
  have hlog : WellFormed log := by
    refine ⟨by decide, fun past room rest h => ?_, fun past b rest h => ?_,
      fun past user rest h key other hother => ?_⟩
    · simp only [log, List.cons_eq_append_iff] at h
      simp at h
      obtain ⟨rfl, rfl, rfl⟩ := h
      simp
    · simp [log, List.cons_eq_append_iff] at h
      obtain ⟨middle, rfl, ⟨rfl, rfl, rfl⟩ | ⟨rfl, rfl, rfl⟩⟩ := h
      · simp
      · simp
    · simp [log, List.cons_eq_append_iff] at h
      rcases h with ⟨rfl, rfl, rfl⟩ | ⟨rfl, rfl, rfl⟩
      · simp [empty] at hother
      · simp [replay_eq_foldl_apply, apply, Event.bookedRoom?, applyDocument, user?, releaseEmail,
          userByEmail?, empty] at hother
  exact ⟨hlog, sameContents_replay_snapshot hlog⟩

end Store

end Lodging
