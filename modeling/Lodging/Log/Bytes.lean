/-!
# Bytes of the log

Numbers are written in a fixed number of bytes, lowest byte first, and texts as the number of their
UTF-8 bytes followed by these bytes. A reader takes what it needs from the front of its input.
-/

namespace Lodging.Log

abbrev Bytes := List UInt8

/-- The lowest `width` bytes of a number, lowest first. -/
def littleEndian : Nat → Nat → Bytes
  | 0, _ => []
  | width + 1, n => (n % 256).toUInt8 :: littleEndian width (n / 256)

/-- The number whose bytes are given, lowest first. -/
def ofLittleEndian : Bytes → Nat
  | [] => 0
  | b :: rest => b.toNat + 256 * ofLittleEndian rest

def utf8 (s : String) : Bytes := s.toUTF8.data.toList

/-- A text with its length in front. -/
def textBytes (s : String) : Bytes :=
  littleEndian 8 (utf8 s).length ++ utf8 s

/-- What may be absent: a byte that says whether it follows. -/
def optionBytes {α : Type} (bytes : α → Bytes) : Option α → Bytes
  | none => [0]
  | some a => 1 :: bytes a

def flagBytes (b : Bool) : Bytes := [if b then 1 else 0]

/-- A reader of the front of some bytes. -/
abbrev Reader := StateT Bytes Option

namespace Reader

/-- Exactly the next `count` bytes. -/
def take (count : Nat) : Reader Bytes := fun bytes =>
  let front := bytes.take count
  if front.length = count then some (front, bytes.drop count) else none

def number (width : Nat) : Reader Nat := do
  return ofLittleEndian (← take width)

def byte : Reader UInt8 := do
  return (← number 1).toUInt8

def text : Reader String := do
  let bytes ← take (← number 8)
  String.fromUTF8? ⟨bytes.toArray⟩

/-- A flag: no byte but zero and one. -/
def flag : Reader Bool := do
  match ← number 1 with
  | 0 => return false
  | 1 => return true
  | _ => failure

def optional {α : Type} (read : Reader α) : Reader (Option α) := do
  if ← flag then return some (← read) else return none

end Reader

end Lodging.Log
