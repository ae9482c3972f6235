/-!
# Amounts of money

An amount is a binary64 number, held as its 64 bits: one sign bit, eleven bits of exponent and
fifty-two of fraction. Amounts are stored and compared bit for bit.
-/

namespace Lodging

/-- An amount of money as the bits of a binary64 number. -/
structure Amount where
  bits : UInt64
deriving DecidableEq

namespace Amount

def zero : Amount := ⟨0⟩

/-- The exponent as it stands in the bits. -/
def exponentBits (a : Amount) : UInt64 := (a.bits >>> 52) &&& 0x7ff

/-- Whether the bits stand for a number rather than an infinity or no number at all. -/
def isFinite (a : Amount) : Bool := a.exponentBits != 0x7ff

/-- Whether the sign bit is set. -/
def isSigned (a : Amount) : Bool := a.bits >>> 63 == 1

/-- Whether the amount can be charged: finite and not below zero. Minus zero is not below zero. -/
def isCharge (a : Amount) : Bool :=
  a.isFinite && (!a.isSigned || a.bits == 0x8000000000000000)

def negate (a : Amount) : Amount := ⟨a.bits ^^^ 0x8000000000000000⟩

end Amount

end Lodging
