import Lodging.Status
import Lodging.Store

/-!
# Reading the store

Listings in the order of identifiers. Readers of a room see its published book.
-/

namespace Lodging.Store

def allHotels (s : Store) : List Hotel := s.hotels.values

def allUsers (s : Store) : List User := s.users.values

def roomIds (s : Store) : List RecordId := s.rooms.keys

def byId (bookings : List Booking) : List Booking :=
  bookings.mergeSort fun a b => decide (a.id ≤ b.id)

/-- Every booking of the ledger, canceled ones included. -/
def allBookings (s : Store) : List Booking :=
  byId (s.rooms.values.flatMap fun slot => slot.published.bookings)

/-- A booking by its identifier: the index names the room, and the room's book has the rest. -/
def booking? (s : Store) (id : RecordId) : Option Booking := do
  let room ← s.roomOfBooking? id
  let book ← s.publishedBook? room
  book.booking? id

/-- Every booking that a user ever made, canceled ones included. -/
def bookingsOf (s : Store) (user : RecordId) : List Booking :=
  byId ((s.bookingIdsOf user).filterMap s.booking?)

/-- The rooms of a hotel. An unknown hotel has none. -/
def roomsOfHotel (s : Store) (hotel : RecordId) : List Room :=
  match s.hotel? hotel with
  | some h => (h.rooms.mergeSort fun a b => decide (a ≤ b)).filterMap fun id =>
      (s.publishedBook? id).map (·.room)
  | none => []

/-- The rooms among the given ones whose status on the given day passes the filter. -/
def listRooms (s : Store) (today : Day) (filter : List RoomStatus) (ids : List RecordId) :
    List RoomListing :=
  (ids.filterMap fun id => (s.publishedBook? id).map (·.listing today)).filter
    (·.status.passes filter)

end Lodging.Store
