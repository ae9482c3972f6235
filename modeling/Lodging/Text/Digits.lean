/-!
# Digits

Writing and reading numbers digit by digit. Only the ten ASCII digits are decimal digits, and the
hexadecimal digits above nine may be read in either case but are written in lower case.
-/

namespace Lodging.Text

def decimalValue? (c : Char) : Option Nat :=
  if '0' ≤ c ∧ c ≤ '9' then some (c.toNat - '0'.toNat) else none

def hexValue? (c : Char) : Option Nat :=
  if '0' ≤ c ∧ c ≤ '9' then some (c.toNat - '0'.toNat)
  else if 'a' ≤ c ∧ c ≤ 'f' then some (c.toNat - 'a'.toNat + 10)
  else if 'A' ≤ c ∧ c ≤ 'F' then some (c.toNat - 'A'.toNat + 10)
  else none

/-- The digit of a value below sixteen, in lower case. -/
def digitChar (n : Nat) : Char :=
  if n < 10 then Char.ofNat ('0'.toNat + n) else Char.ofNat ('a'.toNat + (n - 10))

/-- The last `width` digits of `n` in the given base, highest first. -/
def fixedDigits (base : Nat) : Nat → Nat → List Char
  | 0, _ => []
  | width + 1, n => fixedDigits base width (n / base) ++ [digitChar (n % base)]

/-- The number written by digits of the given values, highest first. -/
def ofDigitValues (base : Nat) (values : List Nat) : Nat :=
  values.foldl (fun n d => base * n + d) 0

/-- Reads at least one and at most `limit` leading decimal digits; without a limit, all of them. -/
def leadingNumber (limit : Option Nat) (cs : List Char) : Option (Nat × List Char) :=
  let all := cs.takeWhile fun c => (decimalValue? c).isSome
  let digits := match limit with
    | some n => all.take n
    | none => all
  if digits.isEmpty then none
  else some (ofDigitValues 10 (digits.filterMap decimalValue?), cs.drop digits.length)

/-- Reads a whole text as an unsigned number below `bound`: digits alone, after at most one plus
sign. -/
def readUnsigned (bound : Nat) (s : String) : Option Nat :=
  let cs := match s.toList with
    | '+' :: rest => rest
    | cs => cs
  match leadingNumber none cs with
  | some (n, []) => if n < bound then some n else none
  | _ => none

end Lodging.Text
