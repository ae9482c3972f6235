/-!
# Tally

What the engine has done so far, for whoever watches it.
-/

namespace Lodging

inductive Canceler
  | owner
  | admin
deriving DecidableEq

inductive PagingStrategy
  | numeric
  | cursor
deriving DecidableEq

/-- Counts of what was done, and the size of every batch that was flushed, good or bad. -/
structure Tally where
  bookingsCreated : Nat := 0
  bookingConflicts : Nat := 0
  ownerCancellations : Nat := 0
  adminCancellations : Nat := 0
  numericListings : Nat := 0
  cursorListings : Nat := 0
  compactions : Nat := 0
  batchSizes : List Nat := []
deriving DecidableEq

namespace Tally

def cancellation (t : Tally) : Canceler → Tally
  | .owner => { t with ownerCancellations := t.ownerCancellations + 1 }
  | .admin => { t with adminCancellations := t.adminCancellations + 1 }

def listing (t : Tally) : PagingStrategy → Tally
  | .numeric => { t with numericListings := t.numericListings + 1 }
  | .cursor => { t with cursorListings := t.cursorListings + 1 }

/-- The counters by name and label, in the order of their names. Those that stand at zero are left
out. -/
def counters (t : Tally) : List (String × Nat) :=
  [ ("roomledger_booking_conflicts_total\x7b\x7d", t.bookingConflicts),
    ("roomledger_bookings_canceled_total\x7bscope=admin\x7d", t.adminCancellations),
    ("roomledger_bookings_canceled_total\x7bscope=owner\x7d", t.ownerCancellations),
    ("roomledger_bookings_created_total\x7b\x7d", t.bookingsCreated),
    ("roomledger_room_listings_total\x7bstrategy=cursor\x7d", t.cursorListings),
    ("roomledger_room_listings_total\x7bstrategy=numeric\x7d", t.numericListings),
    ("roomledger_wal_compactions_total\x7b\x7d", t.compactions) ].filter (·.2 ≠ 0)

def batchSizesName : String := "roomledger_wal_flush_batch_size"

end Tally

end Lodging
