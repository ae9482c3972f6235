import Lodging.Event
import Lodging.RoomBook
import Lodging.Text.Case
import Std.Data.ExtTreeMap

/-!
# The store

The documents in memory and the indexes over them. Every part is a map in the order of its keys that
is determined by its look-ups, so stores with the same contents are equal.

A room stands in the store twice: the book that writers change, and the book that was last
published, which is all that readers see.
-/

namespace Lodging

open Std (ExtTreeMap)

structure RoomSlot where
  current : RoomBook
  published : RoomBook
deriving DecidableEq

namespace RoomSlot

def new (room : Room) : RoomSlot := ⟨.new room, .new room⟩

/-- Shows the current book to readers. -/
def publish (slot : RoomSlot) : RoomSlot := { slot with published := slot.current }

end RoomSlot

/-- Documents and indexes. An email address is looked up by its lower-case form. -/
structure Store where
  hotels : ExtTreeMap RecordId Hotel
  users : ExtTreeMap RecordId User
  emails : ExtTreeMap String RecordId
  rooms : ExtTreeMap RecordId RoomSlot
  roomOfBooking : ExtTreeMap RecordId RecordId
  bookingsOfUser : ExtTreeMap RecordId (List RecordId)

namespace Store

def empty : Store := ⟨∅, ∅, ∅, ∅, ∅, ∅⟩

/-! ## Look-ups -/

def hotel? (s : Store) (id : RecordId) : Option Hotel := s.hotels[id]?

def user? (s : Store) (id : RecordId) : Option User := s.users[id]?

/-- The book that writers of a room see. -/
def currentBook? (s : Store) (room : RecordId) : Option RoomBook := s.rooms[room]?.map (·.current)

/-- The book that readers of a room see. -/
def publishedBook? (s : Store) (room : RecordId) : Option RoomBook :=
  s.rooms[room]?.map (·.published)

def userByEmail? (s : Store) (email : String) : Option RecordId := s.emails[Text.lowercase email]?

def roomOfBooking? (s : Store) (booking : RecordId) : Option RecordId := s.roomOfBooking[booking]?

/-- The bookings of a user, oldest first, by the index. -/
def bookingIdsOf (s : Store) (user : RecordId) : List RecordId := s.bookingsOfUser[user]?.getD []

/-! ## Email addresses -/

/-- Claims an email address for a user unless another one holds it, and says whether the user has
it then. -/
def reserveEmail (s : Store) (email : String) (id : RecordId) : Bool × Store :=
  match s.userByEmail? email with
  | some holder => (holder = id, s)
  | none => (true, { s with emails := s.emails.insert (Text.lowercase email) id })

/-- Gives up an email address if the user holds it. -/
def releaseEmail (s : Store) (email : String) (id : RecordId) : Store :=
  if s.userByEmail? email = some id then
    { s with emails := s.emails.erase (Text.lowercase email) }
  else s

/-! ## Document events -/

/-- Applies an event that concerns documents; an event about bookings changes nothing here. -/
def applyDocument (s : Store) : Event → Store
  | .hotelCreated id name location rating =>
    { s with hotels := s.hotels.insert id ⟨id, name, location, [], rating⟩ }
  | .hotelUpdated id update => { s with hotels := s.hotels.modify id update.apply }
  | .userCreated user =>
    { s with
      emails := s.emails.insert (Text.lowercase user.email) user.id
      users := s.users.insert user.id user }
  | .userUpdated id update => { s with users := s.users.modify id update.apply }
  | .userDeleted id =>
    match s.user? id with
    | some user => { s with users := s.users.erase id }.releaseEmail user.email user.id
    | none => s
  | .roomCreated room =>
    { s with
      hotels := s.hotels.modify room.hotel fun h => { h with rooms := h.rooms ++ [room.id] }
      rooms := s.rooms.insert room.id (.new room) }
  | .bookingCreated _ => s
  | .bookingCanceled _ _ => s

/-! ## Booking events -/

def indexBooking (s : Store) (b : Booking) : Store :=
  { s with
    roomOfBooking := s.roomOfBooking.insert b.id b.room
    bookingsOfUser := s.bookingsOfUser.insert b.user (s.bookingIdsOf b.user ++ [b.id]) }

/-- Applies an event about bookings to the current book of a room, without publishing it. -/
def applyToCurrent (s : Store) (room : RecordId) (event : Event) : Store :=
  match s.rooms[room]? with
  -- There is no book to put it in.
  | none => s
  | some slot =>
    match event with
    | .bookingCreated b =>
      { s.indexBooking b with
        rooms := s.rooms.insert room { slot with current := slot.current.insert b } }
    | .bookingCanceled id _ =>
      { s with rooms := s.rooms.insert room { slot with current := slot.current.cancel id } }
    | _ => s

def publish (s : Store) (room : RecordId) : Store :=
  { s with rooms := s.rooms.modify room RoomSlot.publish }

/-- Applies an event about bookings to a room and publishes the room's new book. -/
def applyToRoom (s : Store) (room : RecordId) (event : Event) : Store :=
  if event.bookedRoom?.isSome then (s.applyToCurrent room event).publish room else s

/-- Applies a committed event: to the documents, or to the room whose bookings it concerns. -/
def apply (s : Store) (event : Event) : Store :=
  match event.bookedRoom? with
  | none => s.applyDocument event
  | some room => s.applyToRoom room event

end Store

end Lodging
