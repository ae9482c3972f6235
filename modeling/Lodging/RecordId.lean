import Lodging.Text.Digits
import Lodging.Text.Quoted

/-!
# Record identifiers

Every document has a 128-bit identifier, written as 32 hexadecimal digits. The upper 48 bits carry
a time in milliseconds and the lower 80 bits chance, so identifiers order documents by creation.
-/

namespace Lodging

open Lodging.Text

/-- A 128-bit identifier. -/
structure RecordId where
  toNat : Nat
  toNat_lt : toNat < 0x1_00000000_00000000_00000000_00000000
deriving DecidableEq

/-- A text that is no identifier, cut to the length in which it is reported. -/
structure MalformedId where
  kept : String
deriving DecidableEq

namespace RecordId

def hexLength : Nat := 32

/-- How many characters of a text that is no identifier are kept. -/
def keptLength : Nat := 64

theorem toNat_injective {a b : RecordId} (h : a.toNat = b.toNat) : a = b := by
  cases a; cases b; cases h; rfl

def zero : RecordId := ⟨0, by decide⟩

instance : Inhabited RecordId := ⟨zero⟩

def ofNat? (n : Nat) : Option RecordId :=
  if h : n < 0x1_00000000_00000000_00000000_00000000 then some ⟨n, h⟩ else none

/-! ## Order -/

instance : Ord RecordId := ⟨fun a b => compare a.toNat b.toNat⟩

instance : LT RecordId := ⟨fun a b => a.toNat < b.toNat⟩

instance : LE RecordId := ⟨fun a b => a.toNat ≤ b.toNat⟩

instance (a b : RecordId) : Decidable (a < b) := inferInstanceAs (Decidable (a.toNat < b.toNat))

instance (a b : RecordId) : Decidable (a ≤ b) := inferInstanceAs (Decidable (a.toNat ≤ b.toNat))

instance : Max RecordId := ⟨fun a b => if a ≤ b then b else a⟩

instance : Std.TransOrd RecordId where
  eq_swap {a b} := Std.OrientedOrd.eq_swap (a := a.toNat) (b := b.toNat)
  isLE_trans {a b c} := Std.TransOrd.isLE_trans (a := a.toNat) (b := b.toNat) (c := c.toNat)

instance : Std.LawfulEqOrd RecordId where
  eq_of_compare h := toNat_injective (Std.LawfulEqOrd.eq_of_compare h)
  compare_self {a} := Std.ReflOrd.compare_self (a := a.toNat)

/-! ## Written form -/

def hexChars (id : RecordId) : List Char := fixedDigits 16 hexLength id.toNat

def hex (id : RecordId) : String := String.ofList id.hexChars

/-- Reads exactly 32 hexadecimal digits of either case. -/
def ofHexChars? (cs : List Char) : Option RecordId :=
  if cs.length = hexLength then
    (cs.mapM hexValue?).bind fun values => ofNat? (ofDigitValues 16 values)
  else none

/-- Reads an identifier; another text is reported by its first characters. -/
def parse (s : String) : Except MalformedId RecordId :=
  match ofHexChars? s.toList with
  | some id => .ok id
  | none => .error ⟨String.ofList (s.toList.take keptLength)⟩

/-! ## Parts -/

/-- The time part, in milliseconds. -/
def millis (id : RecordId) : Nat := id.toNat / 0x1_0000_00000000_00000000

/-- The identifier with the given time and chance, both cut to their width. -/
def ofParts (millis chance : Nat) : RecordId where
  -- With the large factor in front, the product is not multiplied out when it is unfolded.
  toNat := 0x1_0000_00000000_00000000 * (millis % 0x1_0000_00000000) +
    chance % 0x1_0000_00000000_00000000
  toNat_lt := by omega

/-- The next identifier of the same time part, if there is one. -/
def succ? (id : RecordId) : Option RecordId :=
  if h : id.toNat % 0x1_0000_00000000_00000000 = 0xffff_ffffffff_ffffffff then none
  else some ⟨id.toNat + 1, by have := id.toNat_lt; omega⟩

end RecordId

def MalformedId.message (e : MalformedId) : String :=
  "invalid identifier: " ++ Quoted.quote e.kept

end Lodging
