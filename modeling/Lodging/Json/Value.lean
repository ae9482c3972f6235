import Lodging.Json.Token

/-!
# Values of JSON

A value is read from its tokens by a machine with a stack of the arrays and objects that are still
open, so nesting has no bound. Members of an object stand in order, repeated ones included.
-/

namespace Lodging

/-- A value of JSON. A string that stands for no text has none. -/
inductive Json
  | null
  | bool (value : Bool)
  | number (value : Decimal)
  | string (text : Option String)
  | array (items : List Json)
  | object (members : List (Option String × Json))

namespace Json

/-- An array or object that is still open, with what it holds so far, last one first. -/
inductive Open
  | array (items : List Json)
  | object (members : List (Option String × Json)) (key : Option String)

/-- What the machine waits for, inside the values that are open, innermost first. -/
inductive Awaited
  | value (inside : List Open)
  | firstItem (inside : List Open)
  | firstKey (inside : List Open)
  | key (members : List (Option String × Json)) (inside : List Open)
  | colon (members : List (Option String × Json)) (key : Option String) (inside : List Open)
  | nextItem (items : List Json) (inside : List Open)
  | nextMember (members : List (Option String × Json)) (inside : List Open)
  /-- Nothing more: the value is complete. -/
  | nothing (value : Json)

/-- Puts a complete value where it belongs. -/
def place (value : Json) : List Open → Awaited
  | [] => .nothing value
  | .array items :: inside => .nextItem (value :: items) inside
  | .object members key :: inside => .nextMember ((key, value) :: members) inside

/-- What a token does where a value is awaited. -/
def beginValue? (inside : List Open) : Token → Option Awaited
  | .openObject => some (.firstKey inside)
  | .openArray => some (.firstItem inside)
  | .null => some (place .null inside)
  | .bool value => some (place (.bool value) inside)
  | .number value => some (place (.number value) inside)
  | .string text => some (place (.string text) inside)
  | _ => none

def accept? : Awaited → Token → Option Awaited
  | .value inside, token => beginValue? inside token
  | .firstItem inside, .closeArray => some (place (.array []) inside)
  | .firstItem inside, token => beginValue? (.array [] :: inside) token
  | .firstKey inside, .closeObject => some (place (.object []) inside)
  | .firstKey inside, .string key => some (.colon [] key inside)
  | .key members inside, .string key => some (.colon members key inside)
  | .colon members key inside, .colon => some (.value (.object members key :: inside))
  | .nextItem items inside, .comma => some (.value (.array items :: inside))
  | .nextItem items inside, .closeArray => some (place (.array items.reverse) inside)
  | .nextMember members inside, .comma => some (.key members inside)
  | .nextMember members inside, .closeObject => some (place (.object members.reverse) inside)
  | _, _ => none

/-- Reads a whole text as a value. -/
def parse? (s : String) : Option Json := do
  let tokens ← tokens? s
  match ← tokens.foldlM accept? (.value []) with
  | .nothing value => some value
  | _ => none

end Json

end Lodging
