/-!
# Blank characters

The characters of Unicode's property *White_Space*, and trimming by it.
-/

namespace Lodging.Text

def isBlank (c : Char) : Bool :=
  let n := c.toNat
  (0x9 ≤ n && n ≤ 0xd) || n == 0x20 || n == 0x85 || n == 0xa0 || n == 0x1680 ||
    (0x2000 ≤ n && n ≤ 0x200a) || n == 0x2028 || n == 0x2029 || n == 0x202f || n == 0x205f ||
    n == 0x3000

/-- The characters after the leading blanks. -/
def skipBlanks (cs : List Char) : List Char :=
  cs.dropWhile isBlank

def trimBlanks (s : String) : String :=
  String.ofList (skipBlanks (skipBlanks s.toList).reverse).reverse

end Lodging.Text
