import Lodging.Event
import Lodging.Log.Bytes

/-!
# Events as bytes

An event is written as the number of its kind and then its fields one after the other. Identifiers
and days are written as texts. Reading ignores what follows the event.
-/

namespace Lodging

open Log

def RoomKind.index : RoomKind → Nat
  | .family => 0
  | .familySuite => 1
  | .suite => 2
  | .honeymoon => 3
  | .king => 4

namespace Log

def idBytes (id : RecordId) : Bytes := textBytes id.hex

def dayBytes (d : Day) : Bytes := textBytes d.text

def amountBytes (a : Amount) : Bytes := littleEndian 8 a.bits.toNat

def userBytes (u : User) : Bytes :=
  idBytes u.id ++ textBytes u.firstName ++ textBytes u.lastName ++ textBytes u.email ++
    flagBytes u.isAdmin

def roomBytes (r : Room) : Bytes :=
  idBytes r.id ++ littleEndian 4 r.kind.index ++ amountBytes r.basePrice ++ amountBytes r.price ++
    idBytes r.hotel

def bookingBytes (b : Booking) : Bytes :=
  idBytes b.id ++ idBytes b.room ++ idBytes b.user ++ littleEndian 4 b.guestCount.toNat ++
    dayBytes b.stay.checkIn ++ dayBytes b.stay.checkOut ++ flagBytes b.canceled

namespace Reader

def recordId : Reader RecordId := do
  match RecordId.parse (← text) with
  | .ok id => return id
  | .error _ => failure

def day : Reader Day := do
  Day.ofText? (← text)

def amount : Reader Amount := do
  return ⟨(← number 8).toUInt64⟩

def roomKind : Reader RoomKind := do
  RoomKind.all[← number 4]?

def user : Reader User := do
  return {
    id := ← recordId
    firstName := ← text
    lastName := ← text
    email := ← text
    isAdmin := ← flag }

def room : Reader Room := do
  return {
    id := ← recordId
    kind := ← roomKind
    basePrice := ← amount
    price := ← amount
    hotel := ← recordId }

def booking : Reader Booking := do
  return {
    id := ← recordId
    room := ← recordId
    user := ← recordId
    guestCount := (← number 4).toUInt32
    stay := { checkIn := ← day, checkOut := ← day }
    canceled := ← flag }

/-- An event: the number of its kind, then its fields. -/
def event : Reader Event := do
  match ← number 4 with
  | 0 => return .hotelCreated (← recordId) (← text) (← text) (← byte)
  | 1 => return .hotelUpdated (← recordId) ⟨← optional text, ← optional text⟩
  | 2 => return .userCreated (← user)
  | 3 => return .userUpdated (← recordId) ⟨← optional text, ← optional text⟩
  | 4 => return .userDeleted (← recordId)
  | 5 => return .roomCreated (← room)
  | 6 => return .bookingCreated (← booking)
  | 7 => return .bookingCanceled (← recordId) (← recordId)
  | _ => failure

end Reader

end Log

namespace Event

def payload : Event → Bytes
  | hotelCreated id name location rating =>
    littleEndian 4 0 ++ idBytes id ++ textBytes name ++ textBytes location ++
      littleEndian 1 rating.toNat
  | hotelUpdated id update =>
    littleEndian 4 1 ++ idBytes id ++ optionBytes textBytes update.name ++
      optionBytes textBytes update.location
  | userCreated user => littleEndian 4 2 ++ userBytes user
  | userUpdated id update =>
    littleEndian 4 3 ++ idBytes id ++ optionBytes textBytes update.firstName ++
      optionBytes textBytes update.lastName
  | userDeleted id => littleEndian 4 4 ++ idBytes id
  | roomCreated room => littleEndian 4 5 ++ roomBytes room
  | bookingCreated booking => littleEndian 4 6 ++ bookingBytes booking
  | bookingCanceled id room => littleEndian 4 7 ++ idBytes id ++ idBytes room

/-- The event whose bytes stand at the front of a payload. -/
def ofPayload? (bytes : Bytes) : Option Event :=
  (Reader.event.run bytes).map (·.1)

end Event

end Lodging
