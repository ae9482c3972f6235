import Lodging.Store

/-!
# Rebuilding a store from its log

The events of a log are applied in order, and the rooms are published once, at the end. A booking
event whose room is not known at its turn is skipped.
-/

namespace Lodging.Store

/-- Applies one event of a log. -/
def replayEvent (s : Store) (event : Event) : Store :=
  match event.bookedRoom? with
  | none => s.applyDocument event
  | some room => s.applyToCurrent room event

def publishAll (s : Store) : Store :=
  { s with rooms := s.rooms.map fun _ slot => slot.publish }

/-- The store that a log describes. -/
def replay (events : List Event) : Store :=
  (events.foldl replayEvent empty).publishAll

/-- The rooms of the booking events that are skipped when the events are applied, in order. -/
def skippedRooms (s : Store) : List Event → List RecordId
  | [] => []
  | event :: rest =>
    match event.bookedRoom? with
    | some room =>
      if s.rooms.contains room then (s.replayEvent event).skippedRooms rest
      else room :: (s.replayEvent event).skippedRooms rest
    | none => (s.replayEvent event).skippedRooms rest

end Lodging.Store
