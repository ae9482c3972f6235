/-!
# Limits

Bounds that hold whatever a caller has checked before. Lengths of names are counted in bytes of
UTF-8.
-/

namespace Lodging.Limits

def pageSize : Nat := 100

def guests : UInt32 := 16

/-- The longest stay, in nights. -/
def nights : Int := 365

/-- The longest name of a hotel, and the longest first or last name of a user. -/
def nameBytes : Nat := 256

def locationBytes : Nat := 256

def emailBytes : Nat := 320

/-- The most stars a hotel can have; none means that it is unrated. -/
def rating : UInt8 := 5

end Lodging.Limits
