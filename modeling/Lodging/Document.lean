import Lodging.Amount
import Lodging.Calendar.Stay
import Lodging.RecordId

/-!
# Documents

What the ledger keeps: hotels, their rooms, users and bookings, and the updates of hotels
and users.
-/

namespace Lodging

inductive RoomKind
  | family
  | familySuite
  | suite
  | honeymoon
  | king
deriving DecidableEq

namespace RoomKind

def all : List RoomKind := [family, familySuite, suite, honeymoon, king]

def word : RoomKind → String
  | family => "family"
  | familySuite => "family_suit"
  | suite => "suit"
  | honeymoon => "honey_moon"
  | king => "king"

def ofWord? (s : String) : Option RoomKind := all.find? (·.word = s)

end RoomKind

/-- A hotel with the rooms that were added to it, oldest first. -/
structure Hotel where
  id : RecordId
  name : String
  location : String
  rooms : List RecordId
  rating : UInt8
deriving DecidableEq

structure Room where
  id : RecordId
  kind : RoomKind
  basePrice : Amount
  price : Amount
  hotel : RecordId
deriving DecidableEq

/-- Someone who books rooms. -/
structure User where
  id : RecordId
  firstName : String
  lastName : String
  email : String
  isAdmin : Bool
deriving DecidableEq

/-- A reservation. Only its cancellation ever changes. -/
structure Booking where
  id : RecordId
  room : RecordId
  user : RecordId
  guestCount : UInt32
  stay : Stay
  canceled : Bool
deriving DecidableEq

def Booking.isActive (b : Booking) : Bool := !b.canceled

/-- New fields for a hotel; what is absent stays. -/
structure HotelUpdate where
  name : Option String := none
  location : Option String := none
deriving DecidableEq

namespace HotelUpdate

def isEmpty (u : HotelUpdate) : Bool := u.name.isNone && u.location.isNone

def apply (u : HotelUpdate) (h : Hotel) : Hotel :=
  { h with name := u.name.getD h.name, location := u.location.getD h.location }

end HotelUpdate

/-- New names for a user; what is absent stays. -/
structure UserUpdate where
  firstName : Option String := none
  lastName : Option String := none
deriving DecidableEq

namespace UserUpdate

def isEmpty (u : UserUpdate) : Bool := u.firstName.isNone && u.lastName.isNone

def apply (u : UserUpdate) (user : User) : User :=
  { user with
    firstName := u.firstName.getD user.firstName
    lastName := u.lastName.getD user.lastName }

end UserUpdate

end Lodging
