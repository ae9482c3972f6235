import Lodging.RoomBook

/-!
# Room status

The status of a room on a day is read off its book and stored nowhere: occupied while a guest is in
the house, else booked if a guest will come, else available.
-/

namespace Lodging

/-- What a room is on a day. -/
inductive RoomStatus
  | available
  | booked
  | occupied
deriving DecidableEq

structure UnknownStatus where
  text : String
deriving DecidableEq

def UnknownStatus.message (e : UnknownStatus) : String := "unknown room status: " ++ e.text

namespace RoomStatus

/-- Every status, from the idlest to the busiest. -/
def all : List RoomStatus := [available, booked, occupied]

def word : RoomStatus → String
  | available => "available"
  | booked => "booked"
  | occupied => "occupied"

def ofWord? (s : String) : Option RoomStatus := all.find? (·.word = s)

def parse (s : String) : Except UnknownStatus RoomStatus :=
  match ofWord? s with
  | some status => .ok status
  | none => .error ⟨s⟩

/-- Whether a filter lets the status through. The empty filter lets everything through. -/
def passes (status : RoomStatus) (filter : List RoomStatus) : Bool :=
  filter.isEmpty || filter.contains status

end RoomStatus

namespace RoomBook

/-- One walk along the bookings, which ends at the first active one that covers today and remembers
whether an active one lies ahead. -/
def statusFrom (today : Day) (ahead : Bool) : List Booking → RoomStatus
  | [] => if ahead then .booked else .available
  | b :: rest =>
    if b.isActive then
      if b.stay.covers today then .occupied
      else statusFrom today (ahead || decide (today < b.stay.checkIn)) rest
    else statusFrom today ahead rest

def status (book : RoomBook) (today : Day) : RoomStatus :=
  statusFrom today false book.bookings

end RoomBook

/-- A room as listings show it. -/
structure RoomListing where
  room : Room
  status : RoomStatus
deriving DecidableEq

def RoomBook.listing (book : RoomBook) (today : Day) : RoomListing :=
  ⟨book.room, book.status today⟩

end Lodging
