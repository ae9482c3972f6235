import Lodging.Calendar.Day

/-!
# Stays

A stay lasts from the check-in day to the check-out day. Its nights are half open, so two stays may
meet on one day; its presence is closed, so a guest is in the house on both days.
-/

namespace Lodging

/-- The nights from the check-in day up to the check-out day. Nothing says that they are in order:
a stay with its days exchanged has a negative number of nights. -/
structure Stay where
  checkIn : Day
  checkOut : Day
deriving DecidableEq

namespace Stay

def nights (s : Stay) : Int := s.checkOut.number - s.checkIn.number

/-- Whether each of two stays begins before the other one ends, that is, they share a night if both
have one. -/
def overlaps (s t : Stay) : Bool :=
  decide (s.checkIn < t.checkOut) && decide (t.checkIn < s.checkOut)

/-- Whether the guest is in the house on the day, arrival and departure included. -/
def covers (s : Stay) (d : Day) : Bool :=
  decide (s.checkIn ≤ d) && decide (d ≤ s.checkOut)

theorem overlaps_comm (s t : Stay) : s.overlaps t = t.overlaps s :=
  Bool.and_comm _ _

end Stay

end Lodging
