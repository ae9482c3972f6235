import Lodging.Event
import Lodging.Json.Value
import Lodging.Status

/-!
# Documents in JSON

Reading documents and events from JSON. A record is an object with the record's fields, in any order
and perhaps among others, or an array of all its fields in their order. One of several words is a
string, or an object whose only member has the word as its key and null as its value.
-/

namespace Lodging.Json

def text? : Json → Option String
  | string text => text
  | _ => none

def flag? : Json → Option Bool
  | bool value => some value
  | _ => none

def natural? (bound : Nat) : Json → Option Nat
  | number value => value.natural?.filter (· < bound)
  | _ => none

def amount? : Json → Option Amount
  | number value => value.toAmount?
  | _ => none

/-- What may be absent or null. -/
def optional? {α : Type} (read? : Json → Option α) : Option Json → Option (Option α)
  | none | some null => some none
  | some j => (read? j).map some

/-- The items of an array, each read in the same way. -/
def list? {α : Type} (read? : Json → Option α) : Json → Option (List α)
  | array items => items.mapM read?
  | _ => none

def word? {α : Type} (ofWord? : String → Option α) : Json → Option α
  | string text => text.bind ofWord?
  | object [(key, null)] => key.bind ofWord?
  | _ => none

/-- The fields of a record, by their names. None may stand in an object twice. -/
def fields? (names : List String) : Json → Option (List (Option Json))
  | object members => do
    let members ← members.mapM fun (key, value) => key.map (·, value)
    names.mapM fun name =>
      match members.filter (·.1 = name) with
      | [] => some none
      | [(_, value)] => some (some value)
      | _ => none
  | array items => if items.length = names.length then some (items.map some) else none
  | _ => none

/-- The field of a record that must be there. -/
def given? {α : Type} (read? : Json → Option α) (field : Option Json) : Option α :=
  field.bind read?

def recordId? (j : Json) : Option RecordId :=
  j.text?.bind fun s => (RecordId.parse s).toOption

def day? (j : Json) : Option Day := j.text?.bind Day.ofText?

def roomKind? : Json → Option RoomKind := word? RoomKind.ofWord?

def status? : Json → Option RoomStatus := word? RoomStatus.ofWord?

def rating? (j : Json) : Option UInt8 := (j.natural? 0x100).map (·.toUInt8)

def guestCount? (j : Json) : Option UInt32 := (j.natural? 0x1_0000_0000).map (·.toUInt32)

def stay? (j : Json) : Option Stay := do
  match ← j.fields? ["start", "end"] with
  | [checkIn, checkOut] => return ⟨← given? day? checkIn, ← given? day? checkOut⟩
  | _ => none

def hotel? (j : Json) : Option Hotel := do
  match ← j.fields? ["id", "name", "location", "rooms", "rating"] with
  | [id, name, location, rooms, rating] =>
    return {
      id := ← given? recordId? id
      name := ← given? text? name
      location := ← given? text? location
      rooms := ← given? (list? recordId?) rooms
      rating := ← given? rating? rating }
  | _ => none

def room? (j : Json) : Option Room := do
  match ← j.fields? ["id", "type", "basePrice", "price", "hotelID"] with
  | [id, kind, basePrice, price, hotel] =>
    return {
      id := ← given? recordId? id
      kind := ← given? roomKind? kind
      basePrice := ← given? amount? basePrice
      price := ← given? amount? price
      hotel := ← given? recordId? hotel }
  | _ => none

def user? (j : Json) : Option User := do
  match ← j.fields? ["id", "firstName", "lastName", "email", "isAdmin"] with
  | [id, firstName, lastName, email, isAdmin] =>
    return {
      id := ← given? recordId? id
      firstName := ← given? text? firstName
      lastName := ← given? text? lastName
      email := ← given? text? email
      isAdmin := ← given? flag? isAdmin }
  | _ => none

def booking? (j : Json) : Option Booking := do
  match ← j.fields?
      ["id", "roomID", "userID", "guestCount", "fromDate", "tillDate", "canceled"] with
  | [id, room, user, guestCount, checkIn, checkOut, canceled] =>
    return {
      id := ← given? recordId? id
      room := ← given? recordId? room
      user := ← given? recordId? user
      guestCount := ← given? guestCount? guestCount
      stay := { checkIn := ← given? day? checkIn, checkOut := ← given? day? checkOut }
      canceled := ← given? flag? canceled }
  | _ => none

def hotelUpdate? (j : Json) : Option HotelUpdate := do
  match ← j.fields? ["name", "location"] with
  | [name, location] => return ⟨← optional? text? name, ← optional? text? location⟩
  | _ => none

def userUpdate? (j : Json) : Option UserUpdate := do
  match ← j.fields? ["firstName", "lastName"] with
  | [firstName, lastName] => return ⟨← optional? text? firstName, ← optional? text? lastName⟩
  | _ => none

/-- The event of the given kind with the given fields. -/
def eventOfKind? (kind : String) (j : Json) : Option Event := do
  match kind with
  | "HotelCreated" =>
    match ← j.fields? ["id", "name", "location", "rating"] with
    | [id, name, location, rating] =>
      return .hotelCreated (← given? recordId? id) (← given? text? name) (← given? text? location)
        (← given? rating? rating)
    | _ => none
  | "HotelUpdated" =>
    match ← j.fields? ["id", "update"] with
    | [id, update] => return .hotelUpdated (← given? recordId? id) (← given? hotelUpdate? update)
    | _ => none
  | "UserCreated" =>
    match ← j.fields? ["user"] with
    | [user] => return .userCreated (← given? user? user)
    | _ => none
  | "UserUpdated" =>
    match ← j.fields? ["id", "update"] with
    | [id, update] => return .userUpdated (← given? recordId? id) (← given? userUpdate? update)
    | _ => none
  | "UserDeleted" =>
    match ← j.fields? ["id"] with
    | [id] => return .userDeleted (← given? recordId? id)
    | _ => none
  | "RoomCreated" =>
    match ← j.fields? ["room"] with
    | [room] => return .roomCreated (← given? room? room)
    | _ => none
  | "BookingCreated" =>
    match ← j.fields? ["booking"] with
    | [booking] => return .bookingCreated (← given? booking? booking)
    | _ => none
  | "BookingCanceled" =>
    match ← j.fields? ["id", "room_id"] with
    | [id, room] => return .bookingCanceled (← given? recordId? id) (← given? recordId? room)
    | _ => none
  | _ => none

/-- An event: an object whose only member has the kind as its key. -/
def event? : Json → Option Event
  | object [(some kind, j)] => eventOfKind? kind j
  | _ => none

end Lodging.Json
