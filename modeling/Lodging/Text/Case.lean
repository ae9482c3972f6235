import Lodging.Text.Case.Table

/-!
# Lower case

The full lower-case form of a text. Every character is mapped on its own, except that a capital
sigma becomes the final form when a cased letter stands before it and none after it, characters
that case ignores aside.
-/

namespace Lodging.Text.Case

/-- The run that lists the character, if any. -/
def Run.covers (run : Run) (code : Nat) : Bool :=
  run.first ≤ code && code ≤ run.last && (code - run.first) % run.step == 0

/-- The lower-case form of one character out of context. Only the dotted capital I needs two. -/
def lowerChar (c : Char) : List Char :=
  let code := c.toNat
  if code < 0x80 then [c.toLower]
  else if code = 0x130 then ['i', Char.ofNat 0x307]
  else match lowerRuns.find? (·.covers code) with
    | some run => [Char.ofNat (code + run.shift).toNat]
    | none => [c]

/-- Whether the first character that case does not ignore is a cased letter. -/
def meetsCased (cs : List Char) : Bool :=
  match cs.dropWhile caseIgnorable.contains with
  | c :: _ => cased.contains c
  | [] => false

/-- The lower-case form of `rest`, where `before` holds the characters in front, last one first. -/
def lowerAfter (before : List Char) : List Char → List Char
  | [] => []
  | c :: rest =>
    let here :=
      if c = 'Σ' then [if meetsCased before && !meetsCased rest then 'ς' else 'σ']
      else lowerChar c
    here ++ lowerAfter (c :: before) rest

end Lodging.Text.Case

namespace Lodging.Text

def lowercase (s : String) : String :=
  String.ofList (Case.lowerAfter [] s.toList)

end Lodging.Text
