import Lodging.Amount

/-!
# Rounding to binary64

Arithmetic on amounts that are not negative. An operation takes the exact fraction of naturals and
rounds it to the nearest binary64 number, a tie going to the even neighbour; what is too large
becomes infinity.
-/

namespace Lodging

/-- A fraction of naturals, standing for `num / den`. -/
structure Fraction where
  num : Nat
  den : Nat

namespace Fraction

/-- The quotient rounded to the nearest natural, a tie to the even one. -/
def nearest (f : Fraction) : Nat :=
  let whole := f.num / f.den
  let twice := 2 * (f.num % f.den)
  if twice < f.den ∨ twice = f.den ∧ whole % 2 = 0 then whole else whole + 1

def floor (f : Fraction) : Nat := f.num / f.den

/-- The fraction times two to the given power. -/
def scale (f : Fraction) (power : Int) : Fraction :=
  if 0 ≤ power then ⟨f.num <<< power.toNat, f.den⟩
  else ⟨f.num, f.den <<< (-power).toNat⟩

/-- The largest power of two that is not above a positive fraction. -/
def magnitude (f : Fraction) : Int :=
  let guess : Int := (Nat.log2 f.num : Int) - Nat.log2 f.den
  let scaled := f.scale (-guess)
  if scaled.den ≤ scaled.num then guess else guess - 1

def add (f g : Fraction) : Fraction := ⟨f.num * g.den + g.num * f.den, f.den * g.den⟩

/-- The difference, or zero where it would be negative. -/
def sub (f g : Fraction) : Fraction := ⟨f.num * g.den - g.num * f.den, f.den * g.den⟩

def mul (f g : Fraction) : Fraction := ⟨f.num * g.num, f.den * g.den⟩

def div (f g : Fraction) : Fraction := ⟨f.num * g.den, f.den * g.num⟩

end Fraction

namespace Amount

def infinity : Amount := ⟨0x7ff0000000000000⟩

/-- The amount nearest to a fraction. The unit in the last place is 52 powers of two below the
fraction's magnitude, but never below the smallest amount there is. -/
def ofFraction (f : Fraction) : Amount :=
  if f.num = 0 then zero
  else
    let lastPlace := max (f.magnitude - 52) (-1074)
    let units := (f.scale (-lastPlace)).nearest
    -- Counting on from zero through all amounts, each binade holds two to the 52 of them.
    let place := units + (lastPlace + 1074).toNat <<< 52
    if place < 0x7ff0000000000000 then ⟨place.toUInt64⟩ else infinity

/-- The value of a finite amount without its sign. -/
def toFraction (a : Amount) : Fraction :=
  let exponent := a.exponentBits.toNat
  let fraction := (a.bits &&& 0xfffffffffffff).toNat
  if exponent = 0 then ⟨fraction, 1 <<< 1074⟩
  else (⟨fraction + 1 <<< 52, 1⟩ : Fraction).scale ((exponent : Int) - 1075)

def ofNat (n : Nat) : Amount := ofFraction ⟨n, 1⟩

def plus (a b : Amount) : Amount := ofFraction (a.toFraction.add b.toFraction)

def minus (a b : Amount) : Amount := ofFraction (a.toFraction.sub b.toFraction)

def times (a b : Amount) : Amount := ofFraction (a.toFraction.mul b.toFraction)

def dividedBy (a b : Amount) : Amount := ofFraction (a.toFraction.div b.toFraction)

/-- The amount without what stands behind the point. -/
def truncate (a : Amount) : Amount := ofNat a.toFraction.floor

end Amount

end Lodging
