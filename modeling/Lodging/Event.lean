import Lodging.Document

/-!
# Events

The log of the ledger is a list of events. Six kinds concern documents, and two concern the bookings
of a room.
-/

namespace Lodging

/-- One change of the ledger. -/
inductive Event
  | hotelCreated (id : RecordId) (name location : String) (rating : UInt8)
  | hotelUpdated (id : RecordId) (update : HotelUpdate)
  | userCreated (user : User)
  | userUpdated (id : RecordId) (update : UserUpdate)
  | userDeleted (id : RecordId)
  | roomCreated (room : Room)
  | bookingCreated (booking : Booking)
  | bookingCanceled (id room : RecordId)
deriving DecidableEq

namespace Event

/-- The document that the event creates or changes. -/
def subject : Event → RecordId
  | hotelCreated id _ _ _ => id
  | hotelUpdated id _ => id
  | userCreated user => user.id
  | userUpdated id _ => id
  | userDeleted id => id
  | roomCreated room => room.id
  | bookingCreated booking => booking.id
  | bookingCanceled id _ => id

/-- The room whose bookings the event concerns, if it concerns any. -/
def bookedRoom? : Event → Option RecordId
  | bookingCreated booking => some booking.room
  | bookingCanceled _ room => some room
  | _ => none

end Event

end Lodging
