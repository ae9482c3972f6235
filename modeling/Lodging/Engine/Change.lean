import Lodging.Error
import Lodging.Limits
import Lodging.Store.Queries

/-!
# Changes

A caller asks for a change of the ledger. Against a given store the change is refused, or leaves
everything as it is, or means one event. This module says which, with the reasons for a refusal in
the order in which they are looked at; drawing identifiers and writing the log come later.
-/

namespace Lodging

/-- A change that a caller asks for. Identifiers of documents come as texts. -/
inductive Change
  | createHotel (name location : String) (rating : UInt8)
  | updateHotel (hotel : String) (update : HotelUpdate)
  | createUser (firstName lastName email : String) (isAdmin : Bool)
  | updateUser (user : String) (update : UserUpdate)
  | deleteUser (user : String)
  | createRoom (hotel : String) (kind : RoomKind) (basePrice price : Amount)
  | createBooking (room : String) (user : RecordId) (guests : UInt32) (stay : Stay)
  /-- Cancels a booking for its owner, or for an admin when no owner is named. -/
  | cancelBooking (booking : String) (owner : Option RecordId)
deriving DecidableEq

inductive Reply
  | hotel (hotel : Hotel)
  | user (user : User)
  | room (room : Room)
  | booking (booking : Booking)
  | done
deriving DecidableEq

/-- What a change means for a store. -/
inductive Plan
  | keep (reply : Reply)
  | write (event : Event)
  /-- One event is written about a document that needs an identifier. -/
  | create (event : RecordId → Event)

/-- Refuses a call if a limit is exceeded. -/
def Limit.guard (limit : Limit) (within : Bool) : Except LedgerError Unit :=
  if within then .ok () else .error (.limitExceeded limit)

/-- What is there, or the report that it was not found. -/
def orNotFound {α : Type} (id : RecordId) : Option α → Except LedgerError α
  | some a => .ok a
  | none => .error (.notFound id)

def readId (s : String) : Except LedgerError RecordId :=
  match RecordId.parse s with
  | .ok id => .ok id
  | .error e => .error (.ofMalformed e)

/-- Whether a text has at most so many bytes of UTF-8. -/
def fits (bytes : Nat) (s : String) : Bool := decide (s.utf8ByteSize ≤ bytes)

def fitsIfGiven (bytes : Nat) (s : Option String) : Bool := s.all (fits bytes)

/-- Refuses a stay that is not at least one night long, or that is too long. -/
def Stay.check (stay : Stay) : Except LedgerError Unit :=
  if stay.checkIn < stay.checkOut then
    Limit.stayLength.guard (decide (stay.nights ≤ Limits.nights))
  else .error (.invalidStay stay.checkIn stay.checkOut)

def checkGuests (guests : UInt32) : Except LedgerError Unit := do
  Limit.noGuests.guard (decide (guests ≠ 0))
  Limit.tooManyGuests.guard (decide (guests ≤ Limits.guests))

/-- Refuses a stay that shares a night with an active booking of the room. -/
def RoomBook.checkFree (book : RoomBook) (stay : Stay) : Except LedgerError Unit :=
  match book.overlapping stay with
  | [] => .ok ()
  | b :: _ => .error (.roomUnavailable book.room.id b.id)

def Change.concernsBookings : Change → Bool
  | .createBooking .. | .cancelBooking .. => true
  | _ => false

namespace Store

def planCreateHotel (name location : String) (rating : UInt8) : Except LedgerError Plan := do
  Limit.hotelName.guard (fits Limits.nameBytes name)
  Limit.location.guard (fits Limits.locationBytes location)
  Limit.rating.guard (decide (rating ≤ Limits.rating))
  return .create fun id => .hotelCreated id name location rating

/-- What it means to update a hotel. An empty update writes nothing. -/
def planUpdateHotel (s : Store) (hotel : String) (update : HotelUpdate) :
    Except LedgerError Plan := do
  let id ← readId hotel
  Limit.hotelName.guard (fitsIfGiven Limits.nameBytes update.name)
  Limit.location.guard (fitsIfGiven Limits.locationBytes update.location)
  let current ← orNotFound id (s.hotel? id)
  return if update.isEmpty then .keep (.hotel current) else .write (.hotelUpdated id update)

def planCreateUser (firstName lastName email : String) (isAdmin : Bool) :
    Except LedgerError Plan := do
  Limit.userName.guard (fits Limits.nameBytes firstName && fits Limits.nameBytes lastName)
  Limit.email.guard (fits Limits.emailBytes email)
  return .create fun id => .userCreated ⟨id, firstName, lastName, email, isAdmin⟩

/-- What it means to update a user. An empty update writes nothing. -/
def planUpdateUser (s : Store) (user : String) (update : UserUpdate) :
    Except LedgerError Plan := do
  let id ← readId user
  Limit.userName.guard
    (fitsIfGiven Limits.nameBytes update.firstName && fitsIfGiven Limits.nameBytes update.lastName)
  let current ← orNotFound id (s.user? id)
  return if update.isEmpty then .keep (.user current) else .write (.userUpdated id update)

/-- What it means to delete a user. The user's bookings stay in the ledger. -/
def planDeleteUser (s : Store) (user : String) : Except LedgerError Plan := do
  let id ← readId user
  let _ ← orNotFound id (s.user? id)
  return .write (.userDeleted id)

def planCreateRoom (s : Store) (hotel : String) (kind : RoomKind) (basePrice price : Amount) :
    Except LedgerError Plan := do
  let hotel ← readId hotel
  Limit.price.guard (basePrice.isCharge && price.isCharge)
  let _ ← orNotFound hotel (s.hotel? hotel)
  return .create fun id => .roomCreated ⟨id, kind, basePrice, price, hotel⟩

def planCreateBooking (s : Store) (room : String) (user : RecordId) (guests : UInt32)
    (stay : Stay) : Except LedgerError Plan := do
  let room ← readId room
  stay.check
  checkGuests guests
  let book ← orNotFound room (s.currentBook? room)
  book.checkFree stay
  return .create fun id => .bookingCreated ⟨id, room, user, guests, stay, false⟩

/-- What it means to cancel a booking. To anyone but its owner, a booking is not there. -/
def planCancelBooking (s : Store) (booking : String) (owner : Option RecordId) :
    Except LedgerError Plan := do
  let id ← readId booking
  let room ← orNotFound id (s.roomOfBooking? id)
  let book ← orNotFound room (s.currentBook? room)
  let b ← orNotFound id (book.booking? id)
  if owner.any (· ≠ b.user) then throw (.notFound id)
  if b.canceled then throw (.alreadyCanceled id)
  return .write (.bookingCanceled id room)

/-- What a change means for the store. -/
def plan (s : Store) : Change → Except LedgerError Plan
  | .createHotel name location rating => planCreateHotel name location rating
  | .updateHotel hotel update => s.planUpdateHotel hotel update
  | .createUser firstName lastName email isAdmin => planCreateUser firstName lastName email isAdmin
  | .updateUser user update => s.planUpdateUser user update
  | .deleteUser user => s.planDeleteUser user
  | .createRoom hotel kind basePrice price => s.planCreateRoom hotel kind basePrice price
  | .createBooking room user guests stay => s.planCreateBooking room user guests stay
  | .cancelBooking booking owner => s.planCancelBooking booking owner

/-- What is looked at before a change of bookings takes its turn, while other changes may still be
under way. -/
def preview (s : Store) : Change → Except LedgerError Unit
  | .createBooking room _ guests stay => do
    let room ← readId room
    stay.check
    checkGuests guests
    let _ ← orNotFound room (s.currentBook? room)
  | .cancelBooking booking _ => do
    let _ ← readId booking
  | _ => .ok ()

/-- The room whose book a change is decided by, if it gets so far as to look at one. -/
def decidingRoom? (s : Store) : Change → Option RecordId
  | .createBooking room _ guests stay => do
    let room ← (readId room).toOption
    stay.check.toOption
    (checkGuests guests).toOption
    if s.rooms.contains room then some room else none
  | .cancelBooking booking _ => do
    let id ← (readId booking).toOption
    let room ← s.roomOfBooking? id
    if s.rooms.contains room then some room else none
  | _ => none

end Store

end Lodging
