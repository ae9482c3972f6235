import Lodging.Log.Bytes

/-!
# Checksum of a frame

CRC-32 with the polynomial `0x04c11db7`, least significant bit first: the register starts full,
takes in one bit after the other, and is turned over at the end.
-/

namespace Lodging.Log.Checksum

/-- The polynomial with its bits in the order of the register. -/
def polynomial : UInt32 := 0xedb88320

def shift (register : UInt32) : UInt32 :=
  if register &&& 1 = 1 then (register >>> 1) ^^^ polynomial else register >>> 1

def absorb (register : UInt32) (byte : UInt8) : UInt32 :=
  Nat.repeat shift 8 (register ^^^ byte.toUInt32)

/-- The checksum of some bytes. -/
def crc32 (bytes : Bytes) : UInt32 :=
  bytes.foldl absorb 0xffffffff ^^^ 0xffffffff

end Lodging.Log.Checksum
