import Lodging.Document

/-!
# The book of a room

A room with every booking ever made for it, canceled ones included, by check-in day. Bookings of one
check-in day stand in the order in which they were entered.
-/

namespace Lodging

structure RoomBook where
  room : Room
  bookings : List Booking
deriving DecidableEq

namespace RoomBook

def new (room : Room) : RoomBook := ⟨room, []⟩

/-- Puts a booking behind all that begin no later. -/
def enter (new : Booking) : List Booking → List Booking
  | [] => [new]
  | b :: rest =>
    if b.stay.checkIn ≤ new.stay.checkIn then b :: enter new rest else new :: b :: rest

def insert (book : RoomBook) (booking : Booking) : RoomBook :=
  { book with bookings := enter booking book.bookings }

def booking? (book : RoomBook) (id : RecordId) : Option Booking :=
  book.bookings.find? (·.id = id)

/-- Marks the first booking of the given identifier as canceled. -/
def strike (id : RecordId) : List Booking → List Booking
  | [] => []
  | b :: rest => if b.id = id then { b with canceled := true } :: rest else b :: strike id rest

def cancel (book : RoomBook) (id : RecordId) : RoomBook :=
  { book with bookings := strike id book.bookings }

def active (book : RoomBook) : List Booking := book.bookings.filter (·.isActive)

/-- The active bookings that share a night with the stay. Since the book is in order of check-in,
no booking behind the first one that begins at or after the stay's end needs a look. -/
def overlapping (book : RoomBook) (stay : Stay) : List Booking :=
  (book.bookings.takeWhile fun b => decide (b.stay.checkIn < stay.checkOut)).filter fun b =>
    b.isActive && decide (stay.checkIn < b.stay.checkOut)

end RoomBook

end Lodging
