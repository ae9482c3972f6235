import Lodging.Store.Queries

/-!
# Snapshot of a store

The shortest log from which a store can be rebuilt: one creation for each hotel, user, room and
booking, each kind in the order of identifiers. A canceled booking is created as canceled, so
nothing is ever dropped from the ledger.
-/

namespace Lodging.Store

/-- The events that describe the published state of a store. -/
def snapshot (s : Store) : List Event :=
  s.allHotels.map (fun h => .hotelCreated h.id h.name h.location h.rating) ++
    s.allUsers.map .userCreated ++
    s.rooms.values.map (fun slot => .roomCreated slot.published.room) ++
    s.allBookings.map .bookingCreated

end Lodging.Store
