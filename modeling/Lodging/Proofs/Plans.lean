import Lodging.Proofs.Chronology

/-!
# What a plan promises

Whatever a change comes to, its event is allowed by the store for which the change was planned: what
the event is about was found there, and a new document gets an identifier above all old ones.
-/

namespace Lodging

open Std (ExtTreeMap)

/-! ## Successful steps -/

section

variable {ε α β : Type}

theorem ok_bind (a : α) (f : α → Except ε β) : (Except.ok a >>= f) = f a := rfl

theorem error_bind (error : ε) (f : α → Except ε β) :
    (Except.error error >>= f) = .error error := rfl

theorem exists_map_eq_ok_iff {x : Except ε α} {f : α → β} :
    (∃ b, x.map f = .ok b) ↔ ∃ a, x = .ok a := by
  cases x with
  | error error => exact iff_of_false (fun ⟨_, h⟩ => nomatch h) fun ⟨_, h⟩ => nomatch h
  | ok a => exact iff_of_true ⟨f a, rfl⟩ ⟨a, rfl⟩

theorem bind_eq_ok_iff {x : Except ε α} {f : α → Except ε β} {b : β} :
    (x >>= f) = .ok b ↔ ∃ a, x = .ok a ∧ f a = .ok b := by
  cases x with
  | error error => exact iff_of_false (fun h => nomatch h) fun ⟨_, h, _⟩ => nomatch h
  | ok a =>
      constructor
      · exact fun h => ⟨a, rfl, h⟩
      · rintro ⟨_, ⟨⟩, h⟩
        exact h

end

theorem orNotFound_eq_ok_iff {α : Type} {id : RecordId} {a? : Option α} {a : α} :
    orNotFound id a? = .ok a ↔ a? = some a := by
  cases a? with
  | none => exact iff_of_false nofun nofun
  | some a' =>
      exact ⟨fun h => congrArg some (Except.ok.inj h), fun h => congrArg _ (Option.some.inj h)⟩

theorem eq_some_of_orNotFound {α : Type} {id : RecordId} {a? : Option α} {a : α}
    (h : orNotFound id a? = .ok a) : a? = some a := orNotFound_eq_ok_iff.mp h

theorem lasts_of_check {stay : Stay} {u : Unit} (h : stay.check = .ok u) :
    stay.checkIn < stay.checkOut := by
  unfold Stay.check at h
  split at h
  · assumption
  · cases h

namespace Store

variable {s : Store} {change : Change}

/-- The documents of the store have smaller identifiers. -/
structure Below (s : Store) (id : RecordId) : Prop where
  hotels : ∀ x ∈ s.hotels, x < id
  users : ∀ x ∈ s.users, x < id
  rooms : ∀ x ∈ s.rooms, x < id
  bookings : ∀ x ∈ s.roomOfBooking, x < id

/-- The store has a document of the identifier. -/
def Has (s : Store) (id : RecordId) : Prop :=
  id ∈ s.hotels ∨ id ∈ s.users ∨ id ∈ s.rooms ∨ id ∈ s.roomOfBooking

/-- The event is about something that is there and may be written at once, or it may be written with
every identifier above those of the store as soon as the email address of a new user is free. -/
def Promises (s : Store) : Plan → Prop
  | .keep _ => True
  | .write event => s.Has event.subject ∧ s.Allows event ∧ ∀ user, event ≠ .userCreated user
  | .create event => ∀ id, (event id).subject = id ∧ (s.Below id →
      (∀ user, event id = .userCreated user → ∀ (key : RecordId) (other : User),
        s.users[key]? = some other → Text.lowercase other.email ≠ Text.lowercase user.email) →
      s.Allows (event id))

variable {p : Plan}

/-! ## What was found -/

/-- What a change that is not refused comes to, and what was found when it was planned. -/
inductive Means (s : Store) : Change → Plan → Prop
  | createHotel (name location : String) (rating : UInt8) :
      s.Means (.createHotel name location rating)
        (.create fun id => .hotelCreated id name location rating)
  | keepHotel {hotel : String} (update : HotelUpdate) {id : RecordId} {current : Hotel} :
      readId hotel = .ok id → s.hotels[id]? = some current →
      s.Means (.updateHotel hotel update) (.keep (.hotel current))
  | updateHotel {hotel : String} (update : HotelUpdate) {id : RecordId} :
      readId hotel = .ok id → id ∈ s.hotels →
      s.Means (.updateHotel hotel update) (.write (.hotelUpdated id update))
  | createUser (firstName lastName email : String) (isAdmin : Bool) :
      s.Means (.createUser firstName lastName email isAdmin)
        (.create fun id => .userCreated ⟨id, firstName, lastName, email, isAdmin⟩)
  | keepUser {user : String} (update : UserUpdate) {id : RecordId} {current : User} :
      readId user = .ok id → s.users[id]? = some current →
      s.Means (.updateUser user update) (.keep (.user current))
  | updateUser {user : String} (update : UserUpdate) {id : RecordId} :
      readId user = .ok id → id ∈ s.users →
      s.Means (.updateUser user update) (.write (.userUpdated id update))
  | deleteUser {user : String} {id : RecordId} :
      readId user = .ok id → id ∈ s.users →
      s.Means (.deleteUser user) (.write (.userDeleted id))
  | createRoom {hotel : String} (kind : RoomKind) (basePrice price : Amount)
      {hotelId : RecordId} :
      readId hotel = .ok hotelId → hotelId ∈ s.hotels →
      s.Means (.createRoom hotel kind basePrice price)
        (.create fun id => .roomCreated ⟨id, kind, basePrice, price, hotelId⟩)
  | createBooking {room : String} (user : RecordId) (guests : UInt32) {stay : Stay}
      {roomId : RecordId} {slot : RoomSlot} :
      readId room = .ok roomId → stay.checkIn < stay.checkOut →
      s.rooms[roomId]? = some slot → slot.current.checkFree stay = .ok () →
      s.Means (.createBooking room user guests stay)
        (.create fun id => .bookingCreated ⟨id, roomId, user, guests, stay, false⟩)
  | cancelBooking {booking : String} {owner : Option RecordId} {id room : RecordId}
      {slot : RoomSlot} {b : Booking} :
      readId booking = .ok id → s.roomOfBooking[id]? = some room →
      s.rooms[room]? = some slot → slot.current.booking? id = some b →
      owner.any (· ≠ b.user) = false → b.canceled = false →
      s.Means (.cancelBooking booking owner) (.write (.bookingCanceled id room))

theorem exists_slot_of_currentBook? {room : RecordId} {book : RoomBook}
    (h : orNotFound room (s.currentBook? room) = .ok book) :
    ∃ slot, s.rooms[room]? = some slot ∧ slot.current = book :=
  Option.map_eq_some_iff.mp (eq_some_of_orNotFound h)

theorem means_of_planCreateHotel {name location : String} {rating : UInt8}
    (h : planCreateHotel name location rating = .ok p) :
    s.Means (.createHotel name location rating) p := by
  simp only [planCreateHotel, bind_eq_ok_iff] at h
  obtain ⟨-, -, -, -, -, -, h⟩ := h
  exact Except.ok.inj h ▸ .createHotel name location rating

theorem means_of_planUpdateHotel {hotel : String} {update : HotelUpdate}
    (h : s.planUpdateHotel hotel update = .ok p) : s.Means (.updateHotel hotel update) p := by
  simp only [planUpdateHotel, bind_eq_ok_iff] at h
  obtain ⟨id, hid, -, -, -, -, current, hcurrent, h⟩ := h
  have hcurrent : s.hotels[id]? = some current := eq_some_of_orNotFound hcurrent
  obtain rfl := Except.ok.inj h
  split
  · exact .keepHotel update hid hcurrent
  · exact .updateHotel update hid (mem_iff_lookup.mpr ⟨current, hcurrent⟩)

theorem means_of_planCreateUser {firstName lastName email : String} {isAdmin : Bool}
    (h : planCreateUser firstName lastName email isAdmin = .ok p) :
    s.Means (.createUser firstName lastName email isAdmin) p := by
  simp only [planCreateUser, bind_eq_ok_iff] at h
  obtain ⟨-, -, -, -, h⟩ := h
  exact Except.ok.inj h ▸ .createUser firstName lastName email isAdmin

theorem means_of_planUpdateUser {user : String} {update : UserUpdate}
    (h : s.planUpdateUser user update = .ok p) : s.Means (.updateUser user update) p := by
  simp only [planUpdateUser, bind_eq_ok_iff] at h
  obtain ⟨id, hid, -, -, current, hcurrent, h⟩ := h
  have hcurrent : s.users[id]? = some current := eq_some_of_orNotFound hcurrent
  obtain rfl := Except.ok.inj h
  split
  · exact .keepUser update hid hcurrent
  · exact .updateUser update hid (mem_iff_lookup.mpr ⟨current, hcurrent⟩)

theorem means_of_planDeleteUser {user : String} (h : s.planDeleteUser user = .ok p) :
    s.Means (.deleteUser user) p := by
  simp only [planDeleteUser, bind_eq_ok_iff] at h
  obtain ⟨id, hid, current, hcurrent, h⟩ := h
  have hcurrent : s.users[id]? = some current := eq_some_of_orNotFound hcurrent
  exact Except.ok.inj h ▸ .deleteUser hid (mem_iff_lookup.mpr ⟨current, hcurrent⟩)

theorem means_of_planCreateRoom {hotel : String} {kind : RoomKind} {basePrice price : Amount}
    (h : s.planCreateRoom hotel kind basePrice price = .ok p) :
    s.Means (.createRoom hotel kind basePrice price) p := by
  simp only [planCreateRoom, bind_eq_ok_iff] at h
  obtain ⟨id, hid, -, -, current, hcurrent, h⟩ := h
  have hcurrent : s.hotels[id]? = some current := eq_some_of_orNotFound hcurrent
  exact Except.ok.inj h ▸
    .createRoom kind basePrice price hid (mem_iff_lookup.mpr ⟨current, hcurrent⟩)

theorem means_of_planCreateBooking {room : String} {user : RecordId} {guests : UInt32}
    {stay : Stay} (h : s.planCreateBooking room user guests stay = .ok p) :
    s.Means (.createBooking room user guests stay) p := by
  simp only [planCreateBooking, bind_eq_ok_iff] at h
  obtain ⟨id, hid, _, hstay, -, -, book, hbook, ⟨⟩, hfree, h⟩ := h
  obtain ⟨slot, hslot, rfl⟩ := exists_slot_of_currentBook? hbook
  exact Except.ok.inj h ▸ .createBooking user guests hid (lasts_of_check hstay) hslot hfree

theorem means_of_planCancelBooking {booking : String} {owner : Option RecordId}
    (h : s.planCancelBooking booking owner = .ok p) : s.Means (.cancelBooking booking owner) p := by
  simp only [planCancelBooking, bind_eq_ok_iff] at h
  obtain ⟨id, hid, room, hroom, book, hbook, b, hb, h⟩ := h
  obtain ⟨slot, hslot, rfl⟩ := exists_slot_of_currentBook? hbook
  split at h
  · cases h
  · next howner =>
      split at h
      · cases h
      · next hcanceled =>
          exact Except.ok.inj h ▸ .cancelBooking hid (eq_some_of_orNotFound hroom) hslot
            (eq_some_of_orNotFound hb) (Bool.not_eq_true _ ▸ howner)
            (Bool.not_eq_true _ ▸ hcanceled)

theorem means_of_plan (h : s.plan change = .ok p) : s.Means change p := by
  cases change with
  | createHotel name location rating => exact means_of_planCreateHotel h
  | updateHotel hotel update => exact means_of_planUpdateHotel h
  | createUser firstName lastName email isAdmin => exact means_of_planCreateUser h
  | updateUser user update => exact means_of_planUpdateUser h
  | deleteUser user => exact means_of_planDeleteUser h
  | createRoom hotel kind basePrice price => exact means_of_planCreateRoom h
  | createBooking room user guests stay => exact means_of_planCreateBooking h
  | cancelBooking booking owner => exact means_of_planCancelBooking h

/-! ## What is promised -/

/-- A plan for a sound store keeps its promises. -/
theorem Sound.promises_plan (hs : s.Sound) (h : s.plan change = .ok p) : s.Promises p := by
  cases means_of_plan h with
  | createHotel name location rating =>
      refine fun id => ⟨rfl, fun hid _ => ⟨fun hmem => ?_, trivial, trivial⟩⟩
      exact RecordId.ne_of_lt (hid.hotels id hmem) rfl
  | keepHotel update hid hcurrent => exact trivial
  | updateHotel update hid hhotel =>
      exact ⟨.inl hhotel, ⟨trivial, trivial, trivial⟩, fun _ => nofun⟩
  | createUser firstName lastName email isAdmin =>
      refine fun id => ⟨rfl, fun hid hemail => ⟨⟨fun hmem => ?_, hemail _ rfl⟩, trivial, trivial⟩⟩
      exact RecordId.ne_of_lt (hid.users id hmem) rfl
  | keepUser update hid hcurrent => exact trivial
  | updateUser update hid huser =>
      exact ⟨.inr (.inl huser), ⟨trivial, trivial, trivial⟩, fun _ => nofun⟩
  | deleteUser hid huser => exact ⟨.inr (.inl huser), ⟨trivial, trivial, trivial⟩, fun _ => nofun⟩
  | createRoom kind basePrice price hhotelId hhotel =>
      refine fun id => ⟨rfl, fun hid _ => ⟨⟨fun hmem => ?_, hhotel⟩, hid.rooms, trivial⟩⟩
      exact RecordId.ne_of_lt (hid.rooms id hmem) rfl
  | @createBooking room user guests stay roomId slot hroomId hlasts hslot hfree =>
      have hsorted : slot.current.bookings.Pairwise fun a b => a.stay.checkIn ≤ b.stay.checkIn := by
        rw [← bookingsIn_eq hslot]
        exact (hs.chronological.bookings roomId).imp Booking.Before.checkIn_le
      refine fun id => ⟨rfl, fun hid _ => ⟨⟨fun hmem => ?_, mem_iff_lookup.mpr ⟨slot, hslot⟩⟩,
        hid.bookings, hlasts, ?_⟩⟩
      · exact RecordId.ne_of_lt (hid.bookings id hmem) rfl
      · change ∀ b' ∈ s.bookingsIn roomId, _
        rw [bookingsIn_eq hslot]
        exact RoomBook.apart_of_checkFree hfree hsorted
  | cancelBooking hid hroom hslot hb howner hcanceled =>
      exact ⟨.inr (.inr (.inr (mem_iff_lookup.mpr ⟨_, hroom⟩))), ⟨trivial, trivial, trivial⟩,
        fun _ => nofun⟩

end Store

end Lodging
