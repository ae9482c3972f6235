/-!
# Sets of characters

A set of characters is held as the increasing list of code points at which membership changes,
starting outside. Unicode properties are a few hundred runs of neighbours, so this is their
shortest form, and asking for membership is one walk along the list.
-/

namespace Lodging.Text

/-- A set of characters, as the code points where membership turns over. -/
structure CharSet where
  turns : List Nat

namespace CharSet

/-- Whether `code` lies behind an odd number of turns. -/
def holds : List Nat → Nat → Bool
  | [], _ => false
  | turn :: rest, code => if code < turn then false else !holds rest code

def contains (set : CharSet) (c : Char) : Bool :=
  holds set.turns c.toNat

end CharSet

end Lodging.Text
