import Lodging.Calendar.Day
import Lodging.RecordId

/-!
# Drawing identifiers

A generator hands out identifiers that grow with every draw. Each comes from the clock and from
chance if that is above the last one drawn, and is otherwise the last one's successor, so a clock
that stands still or steps back does no harm.
-/

namespace Lodging

/-- What the world shows at one moment: a clock reading, in milliseconds since the start of 1970,
and random bits. -/
structure Moment where
  millis : Int
  chance : Nat := 0

def Moment.today (m : Moment) : Day := Day.ofMillis m.millis

/-- The identifier that a moment suggests. A clock before 1970 counts as its start. -/
def Moment.freshId (m : Moment) : RecordId := RecordId.ofParts m.millis.toNat m.chance

/-- A source of growing identifiers. -/
structure Generator where
  last : RecordId
deriving DecidableEq

namespace Generator

def new : Generator := ⟨.zero⟩

/-- A generator that draws only identifiers above the given one. -/
def startingAfter (floor : RecordId) : Generator := ⟨floor⟩

/-- The identifier that is drawn at the moment, if the last one leaves room. -/
def draw? (g : Generator) (m : Moment) : Option RecordId :=
  if g.last < m.freshId then some m.freshId else g.last.succ?

/-- Draws an identifier. Nothing is forgotten when none is left. -/
def next (g : Generator) (m : Moment) : Option RecordId × Generator :=
  match g.draw? m with
  | some id => (some id, ⟨id⟩)
  | none => (none, g)

end Generator

end Lodging
