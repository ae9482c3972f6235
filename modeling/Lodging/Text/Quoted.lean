import Lodging.Text.Quoted.Table

/-!
# Quoted text

Text is quoted so that every character can be told from its neighbours: the marks of the notation
and the common control characters have short escapes, and a character with no picture of its own is
written by its code point in hexadecimal.
-/

namespace Lodging.Text.Quoted

/-- The code point between `\u` and braces, in lower-case hexadecimal without leading zeros. -/
def codePoint (c : Char) : List Char :=
  ['\\', 'u', Char.ofNat 0x7b] ++ Nat.toDigits 16 c.toNat ++ [Char.ofNat 0x7d]

/-- How one character is written between quotation marks. -/
def escape (c : Char) : List Char :=
  match c with
  | '\x00' => ['\\', '0']
  | '\t' => ['\\', 't']
  | '\r' => ['\\', 'r']
  | '\n' => ['\\', 'n']
  | '\\' => ['\\', '\\']
  | '"' => ['\\', '"']
  | c => if unseen.contains c then codePoint c else [c]

def quote (s : String) : String :=
  String.ofList (['"'] ++ s.toList.flatMap escape ++ ['"'])

end Lodging.Text.Quoted
