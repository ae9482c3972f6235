import Lodging.Proofs.AllOrNothing
import Lodging.Proofs.Continuity

/-!
# Events that fit a frame

The limits that callers have to keep are far below the size of a frame, so no change means an event
that is too large for the log. While the disk accepts everything, every event that a change means is
committed.
-/

namespace Lodging

open Log

/-! ## Lengths of parts -/

namespace Log

/-- No character has more than four bytes. -/
theorem utf8ByteSize_ofList_le (cs : List Char) :
    (String.ofList cs).utf8ByteSize ≤ 4 * cs.length := by
  induction cs with
  | nil => simp
  | cons c rest ih =>
      have hc := c.utf8Size_le_four
      rw [← List.singleton_append, String.ofList_append, String.utf8ByteSize_append,
        ← String.singleton_eq_ofList, String.utf8ByteSize_singleton, List.length_append,
        List.length_singleton]
      omega

theorem length_utf8 (s : String) : (utf8 s).length = s.utf8ByteSize := by simp [utf8]

theorem length_textBytes_of_fits {bytes : Nat} {s : String} (h : fits bytes s = true) :
    (textBytes s).length ≤ 8 + bytes := by
  rw [length_textBytes, length_utf8]
  exact Nat.add_le_add_left (of_decide_eq_true h) 8

theorem length_optionBytes_of_fits {bytes : Nat} {s? : Option String}
    (h : fitsIfGiven bytes s? = true) : (optionBytes textBytes s?).length ≤ 9 + bytes := by
  cases s? with
  | none =>
      simp only [optionBytes, List.length_singleton]
      omega
  | some s =>
      have hs : fits bytes s = true := h
      have hs := length_textBytes_of_fits hs
      simp only [optionBytes, List.length_cons]
      omega

theorem length_idBytes_le (id : RecordId) : (idBytes id).length ≤ 136 := by
  have hchars : id.hexChars.length = 32 := Text.length_fixedDigits _ _ _
  have hbytes := utf8ByteSize_ofList_le id.hexChars
  rw [idBytes, RecordId.hex, length_textBytes, length_utf8]
  omega

theorem length_yearText_le (year : Int) : (Day.yearText year).length ≤ 7 := by
  have hwidth : Day.yearWidth year.natAbs ≤ 6 := by grind [Day.yearWidth]
  simp only [Day.yearText]
  split_ifs
  all_goals
    simp only [List.length_cons, Text.length_fixedDigits]
    omega

theorem length_dayBytes_le (d : Day) : (dayBytes d).length ≤ 60 := by
  have hchars : d.chars.length ≤ 13 := by
    have hyear := length_yearText_le d.year
    simp only [Day.chars, List.length_append, List.length_cons, Text.length_fixedDigits]
    omega
  have hbytes := utf8ByteSize_ofList_le d.chars
  rw [dayBytes, Day.text, length_textBytes, length_utf8]
  omega

theorem length_roomBytes_le (r : Room) : (roomBytes r).length ≤ 292 := by
  have hid := length_idBytes_le r.id
  have hhotel := length_idBytes_le r.hotel
  simp only [roomBytes, amountBytes, List.length_append, length_littleEndian]
  omega

theorem length_bookingBytes_le (b : Booking) : (bookingBytes b).length ≤ 533 := by
  have hid := length_idBytes_le b.id
  have hroom := length_idBytes_le b.room
  have huser := length_idBytes_le b.user
  have hcheckIn := length_dayBytes_le b.stay.checkIn
  have hcheckOut := length_dayBytes_le b.stay.checkOut
  simp only [bookingBytes, flagBytes, List.length_append, List.length_singleton,
    length_littleEndian]
  omega

end Log

/-! ## Events within the limits -/

namespace Event

variable {id : RecordId}

theorem payload_hotelCreated_lt {name location : String} {rating : UInt8}
    (hname : fits Limits.nameBytes name = true)
    (hlocation : fits Limits.locationBytes location = true) :
    (hotelCreated id name location rating).payload.length < payloadBound := by
  have hid := length_idBytes_le id
  have hname := length_textBytes_of_fits hname
  have hlocation := length_textBytes_of_fits hlocation
  simp only [payload, List.length_append, length_littleEndian, payloadBound, Limits.nameBytes,
    Limits.locationBytes] at *
  omega

theorem payload_hotelUpdated_lt {update : HotelUpdate}
    (hname : fitsIfGiven Limits.nameBytes update.name = true)
    (hlocation : fitsIfGiven Limits.locationBytes update.location = true) :
    (hotelUpdated id update).payload.length < payloadBound := by
  have hid := length_idBytes_le id
  have hname := length_optionBytes_of_fits hname
  have hlocation := length_optionBytes_of_fits hlocation
  simp only [payload, List.length_append, length_littleEndian, payloadBound, Limits.nameBytes,
    Limits.locationBytes] at *
  omega

theorem payload_userCreated_lt {firstName lastName email : String} {isAdmin : Bool}
    (hfirst : fits Limits.nameBytes firstName = true)
    (hlast : fits Limits.nameBytes lastName = true)
    (hemail : fits Limits.emailBytes email = true) :
    (userCreated ⟨id, firstName, lastName, email, isAdmin⟩).payload.length < payloadBound := by
  have hid := length_idBytes_le id
  have hfirst := length_textBytes_of_fits hfirst
  have hlast := length_textBytes_of_fits hlast
  have hemail := length_textBytes_of_fits hemail
  simp only [payload, userBytes, flagBytes, List.length_append, List.length_singleton,
    length_littleEndian, payloadBound, Limits.nameBytes, Limits.emailBytes] at *
  omega

theorem payload_userUpdated_lt {update : UserUpdate}
    (hfirst : fitsIfGiven Limits.nameBytes update.firstName = true)
    (hlast : fitsIfGiven Limits.nameBytes update.lastName = true) :
    (userUpdated id update).payload.length < payloadBound := by
  have hid := length_idBytes_le id
  have hfirst := length_optionBytes_of_fits hfirst
  have hlast := length_optionBytes_of_fits hlast
  simp only [payload, List.length_append, length_littleEndian, payloadBound,
    Limits.nameBytes] at *
  omega

theorem payload_userDeleted_lt : (userDeleted id).payload.length < payloadBound := by
  have hid := length_idBytes_le id
  simp only [payload, List.length_append, length_littleEndian, payloadBound]
  omega

theorem payload_roomCreated_lt (room : Room) :
    (roomCreated room).payload.length < payloadBound := by
  have hroom := length_roomBytes_le room
  simp only [payload, List.length_append, length_littleEndian, payloadBound]
  omega

theorem payload_bookingCreated_lt (b : Booking) :
    (bookingCreated b).payload.length < payloadBound := by
  have hbooking := length_bookingBytes_le b
  simp only [payload, List.length_append, length_littleEndian, payloadBound]
  omega

theorem payload_bookingCanceled_lt (room : RecordId) :
    (bookingCanceled id room).payload.length < payloadBound := by
  have hid := length_idBytes_le id
  have hroom := length_idBytes_le room
  simp only [payload, List.length_append, length_littleEndian, payloadBound]
  omega

end Event

/-! ## What a plan writes -/

theorem Limit.guard_eq_ok_iff {limit : Limit} {within : Bool} {u : Unit} :
    limit.guard within = .ok u ↔ within = true := by
  cases within with
  | false => exact iff_of_false nofun nofun
  | true => exact iff_of_true rfl rfl

/-- Every event that the plan may mean has a payload that fits a frame. -/
def Plan.Fits : Plan → Prop
  | .keep _ => True
  | .write event => event.payload.length < payloadBound
  | .create event => ∀ id, (event id).payload.length < payloadBound

/-- No change means an event that is too large for the log. -/
theorem Store.fits_of_plan {s : Store} {change : Change} {p : Plan}
    (h : s.plan change = .ok p) : p.Fits := by
  cases change with
  | createHotel name location rating =>
      simp only [plan, planCreateHotel, bind_eq_ok_iff, Limit.guard_eq_ok_iff] at h
      obtain ⟨-, hname, -, hlocation, -, -, h⟩ := h
      exact Except.ok.inj h ▸ fun id => Event.payload_hotelCreated_lt hname hlocation
  | updateHotel hotel update =>
      simp only [plan, planUpdateHotel, bind_eq_ok_iff, Limit.guard_eq_ok_iff] at h
      obtain ⟨id, -, -, hname, -, hlocation, current, -, h⟩ := h
      obtain rfl := Except.ok.inj h
      split
      · trivial
      · exact Event.payload_hotelUpdated_lt hname hlocation
  | createUser firstName lastName email isAdmin =>
      simp only [plan, planCreateUser, bind_eq_ok_iff, Limit.guard_eq_ok_iff,
        Bool.and_eq_true] at h
      obtain ⟨-, ⟨hfirst, hlast⟩, -, hemail, h⟩ := h
      exact Except.ok.inj h ▸ fun id => Event.payload_userCreated_lt hfirst hlast hemail
  | updateUser user update =>
      simp only [plan, planUpdateUser, bind_eq_ok_iff, Limit.guard_eq_ok_iff,
        Bool.and_eq_true] at h
      obtain ⟨id, -, -, ⟨hfirst, hlast⟩, current, -, h⟩ := h
      obtain rfl := Except.ok.inj h
      split
      · trivial
      · exact Event.payload_userUpdated_lt hfirst hlast
  -- The other events have no texts but identifiers and days.
  | deleteUser user =>
      cases means_of_plan h with
      | deleteUser hid huser => exact Event.payload_userDeleted_lt
  | createRoom hotel kind basePrice price =>
      cases means_of_plan h with
      | createRoom _ _ _ hid hhotel => exact fun id => Event.payload_roomCreated_lt _
  | createBooking room user guests stay =>
      cases means_of_plan h with
      | createBooking _ _ hid hlasts hslot hfree => exact fun id => Event.payload_bookingCreated_lt _
  | cancelBooking booking owner =>
      cases means_of_plan h with
      | cancelBooking hid hroom hslot hb howner hcanceled =>
          exact Event.payload_bookingCanceled_lt _

namespace Engine

variable {e : Engine} {c : Conditions} {change : Change} {event : Event} {last : RecordId}

theorem Proposes.payload_lt (h : e.Proposes change event last) :
    event.payload.length < payloadBound := by
  cases h with
  | write hplan => exact Store.fits_of_plan hplan
  | create hplan hid => exact Store.fits_of_plan hplan _

/-- While the disk accepts everything, the event of a change is committed. -/
theorem Proposes.commit_of_accepts (h : e.Proposes change event last) (hc : c.Accepts)
    (htrusted : e.journal.poisoned = false) :
    ∃ j, e.journal.commit c [event] = (.ok (), j) := by
  refine Journal.commit_of_accepts hc htrusted fun e' he' => ?_
  rw [List.mem_singleton.mp he']
  exact h.payload_lt

end Engine

end Lodging
