import Lodging.Engine
import Lodging.Paging

/-!
# Questions to the engine

What callers can look up. Nothing here waits for a change that is under way, and nothing but the
tally of listings changes.
-/

namespace Lodging.Engine

def hotel (e : Engine) (hotel : String) : Except LedgerError Hotel := do
  let id ← readId hotel
  orNotFound id (e.store.hotel? id)

def user (e : Engine) (user : String) : Except LedgerError User := do
  let id ← readId user
  orNotFound id (e.store.user? id)

/-- The user who holds an email address, without regard to letter case. -/
def userByEmail (e : Engine) (email : String) : Option User :=
  (e.store.userByEmail? email).bind e.store.user?

/-- A room with its status on the given day. -/
def room (e : Engine) (today : Day) (room : String) : Except LedgerError RoomListing := do
  let id ← readId room
  let book ← orNotFound id (e.store.publishedBook? id)
  return book.listing today

/-- The rooms of a hotel, in the order of identifiers. An unknown hotel has none. -/
def roomsOfHotel (e : Engine) (hotel : String) : Except LedgerError (List Room) := do
  let id ← readId hotel
  return e.store.roomsOfHotel id

def booking (e : Engine) (booking : String) : Except LedgerError Booking := do
  let id ← readId booking
  let room ← orNotFound id (e.store.roomOfBooking? id)
  let book ← orNotFound room (e.store.publishedBook? room)
  orNotFound id (book.booking? id)

def overlappingBookings (e : Engine) (room : String) (stay : Stay) :
    Except LedgerError (List Booking) := do
  let id ← readId room
  stay.check
  let book ← orNotFound id (e.store.publishedBook? id)
  return book.overlapping stay

/-- The bookings of one user or, when none is named, of all. -/
def bookings (e : Engine) : Option RecordId → List Booking
  | some user => e.store.bookingsOf user
  | none => e.store.allBookings

def listHotels (e : Engine) (minRating : Option UInt8) (page : NumberedPage) :
    NumberedResult Hotel :=
  page.apply (e.store.allHotels.filter fun h => minRating.all (· ≤ h.rating))

def listUsers (e : Engine) (page : NumberedPage) : NumberedResult User :=
  page.apply e.store.allUsers

def countListing (strategy : PagingStrategy) (e : Engine) : Engine :=
  { e with tally := e.tally.listing strategy }

/-- A numbered page of the rooms whose status on the given day passes the filter. -/
def listRooms (today : Day) (filter : List RoomStatus) (page : NumberedPage) (e : Engine) :
    NumberedResult RoomListing × Engine :=
  (page.apply (e.store.listRooms today filter e.store.roomIds), e.countListing .numeric)

def roomIdsAfter (s : Store) (position : Option RecordId) : List RecordId :=
  s.roomIds.filter fun id => position.all (· < id)

/-- The page behind a cursor of the rooms whose status on the given day passes the filter. -/
def listRoomsAfter (today : Day) (filter : List RoomStatus) (page : CursorPage) (e : Engine) :
    Except LedgerError (CursorResult RoomListing) × Engine :=
  match page.position with
  | .error error => (.error (.ofMalformed error), e)
  | .ok position =>
    (.ok (page.apply (·.room.id) (e.store.listRooms today filter (roomIdsAfter e.store position))),
      e.countListing .cursor)

end Lodging.Engine
