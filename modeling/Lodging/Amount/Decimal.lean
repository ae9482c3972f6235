import Lodging.Amount.Rounding
import Lodging.Text.Digits

/-!
# Decimal numbers as amounts

A decimal number has a whole part, perhaps a fraction and perhaps an exponent. It is turned into an
amount in a few steps, each of which rounds: as many digits as fit 64 bits are gathered into one
whole number, and that is multiplied or divided by a power of ten.
-/

namespace Lodging

open Lodging.Text

/-- A decimal number as it is written, with the values of its digits. -/
structure Decimal where
  isNegative : Bool
  whole : List Nat
  fraction : Option (List Nat)
  /-- Whether the exponent is negative, and its digits. -/
  exponent : Option (Bool × List Nat)
deriving DecidableEq

namespace Decimal

/-- The values of the digits at the front of a text, and what follows them. -/
def digits (cs : List Char) : List Nat × List Char :=
  (cs.takeWhile (fun c => (decimalValue? c).isSome) |>.filterMap decimalValue?,
    cs.dropWhile fun c => (decimalValue? c).isSome)

/-- Reads an exponent that ends the text, if there is one, with at least one digit. -/
def readExponent? : List Char → Option (Option (Bool × List Nat))
  | [] => some none
  | e :: rest =>
    if e = 'e' ∨ e = 'E' then
      let (isNegative, rest) := match rest with
        | '-' :: rest => (true, rest)
        | '+' :: rest => (false, rest)
        | rest => (false, rest)
      match digits rest with
      | ([], _) => none
      | (ds, []) => some (some (isNegative, ds))
      | _ => none
    else none

/-- Reads a fraction, if there is one, with at least one digit, and an exponent. -/
def readFraction? : List Char → Option (Option (List Nat) × Option (Bool × List Nat))
  | '.' :: rest =>
    match digits rest with
    | ([], _) => none
    | (ds, rest) => (readExponent? rest).map (some ds, ·)
  | rest => (readExponent? rest).map (none, ·)

/-- Reads a whole text as a decimal number. The whole part has no needless zeros in front. -/
def ofChars? (cs : List Char) : Option Decimal :=
  let (isNegative, cs) := match cs with
    | '-' :: rest => (true, rest)
    | cs => (false, cs)
  match digits cs with
  | ([], _) => none
  | (0 :: _ :: _, _) => none
  | (whole, rest) => (readFraction? rest).map fun (fraction, exponent) =>
      ⟨isNegative, whole, fraction, exponent⟩

/-- The value of a number that is written by its whole part alone. -/
def natural? (d : Decimal) : Option Nat :=
  match d with
  | ⟨false, whole, none, none⟩ => some (ofDigitValues 10 whole)
  | _ => none

def gatherBound : Nat := 0x1_00000000_00000000

/-- Gathers digits behind a number for as long as it stays below the bound, and gives the digits
from the first that no longer fits. -/
def gather (n : Nat) : List Nat → Nat × List Nat
  | [] => (n, [])
  | d :: rest => if 10 * n + d < gatherBound then gather (10 * n + d) rest else (n, d :: rest)

/-- The gathered digits and the power of ten that goes with them. A digit of the whole part that is
not gathered counts for a factor of ten; one of the fraction counts for nothing. -/
def gathered (d : Decimal) : Nat × Int :=
  let (n, left) := gather 0 d.whole
  match d.fraction with
  | none => (n, left.length)
  | some fraction =>
    let (n, dropped) := gather n fraction
    (n, (left.length : Int) - (fraction.length - dropped.length : Nat))

def largestPower : Nat := 308

def tenTo (power : Nat) : Amount := .ofNat (Nat.pow 10 power)

/-- An amount divided by a power of ten, in steps if the power is too large for one. -/
def divide (a : Amount) (power : Nat) : Amount :=
  if power ≤ largestPower then a.dividedBy (tenTo power)
  else if a = .zero then a
  else divide (a.dividedBy (tenTo largestPower)) (power - largestPower)
termination_by power
decreasing_by
  simp only [largestPower] at *
  omega

/-- An amount times a power of ten, unless that is too large. -/
def scale? (a : Amount) : Int → Option Amount
  | .ofNat power =>
    if power ≤ largestPower then
      let product := a.times (tenTo power)
      if product.isFinite then some product else none
    else if a = .zero then some a
    else none
  | .negSucc power => some (divide a (power + 1))

/-- The bound from which on an exponent is not looked at in detail. -/
def exponentBound : Nat := 0x8000_0000

/-- The size of the number as an amount, unless it is too large. -/
def size? (d : Decimal) : Option Amount :=
  let (n, power) := d.gathered
  match d.exponent with
  | none => if d.fraction.isNone ∧ power = 0 then some (.ofNat n) else scale? (.ofNat n) power
  | some (isNegative, digits) =>
    let exponent := ofDigitValues 10 digits
    if exponentBound ≤ exponent then
      if n ≠ 0 ∧ !isNegative then none else some .zero
    else scale? (.ofNat n) (if isNegative then power - exponent else power + exponent)

/-- The number as an amount, unless it is too large. -/
def toAmount? (d : Decimal) : Option Amount :=
  d.size?.map fun size => if d.isNegative then size.negate else size

end Decimal

end Lodging
