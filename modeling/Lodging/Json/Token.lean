import Lodging.Amount.Decimal

/-!
# Tokens of JSON

A text is cut into marks, words, numbers and strings by a machine that looks at each character once.
A string may name halves of surrogate pairs by escapes. If these do not pair up the string stands
for no text, which matters only where its text is asked for.
-/

namespace Lodging.Json

open Lodging.Text

inductive Token
  | openObject
  | closeObject
  | openArray
  | closeArray
  | colon
  | comma
  | null
  | bool (value : Bool)
  | number (value : Decimal)
  /-- A string, with its text if it stands for one. -/
  | string (text : Option String)
deriving DecidableEq

/-- The text that code points stand for, once the halves of surrogate pairs are put together. -/
def textOfCodes : List Nat → Option (List Char)
  | [] => some []
  | [code] => if code.isValidChar then some [Char.ofNat code] else none
  | first :: second :: rest =>
    if 0xd800 ≤ first ∧ first < 0xdc00 ∧ 0xdc00 ≤ second ∧ second < 0xe000 then
      (textOfCodes rest).map
        (Char.ofNat (0x10000 + (first - 0xd800) * 0x400 + (second - 0xdc00)) :: ·)
    else if first.isValidChar then (textOfCodes (second :: rest)).map (Char.ofNat first :: ·)
    else none

/-- The code point of an escape of one letter. -/
def escaped? : Char → Option Nat
  | '"' => some 0x22
  | '\\' => some 0x5c
  | '/' => some 0x2f
  | 'b' => some 0x8
  | 'f' => some 0xc
  | 'n' => some 0xa
  | 'r' => some 0xd
  | 't' => some 0x9
  | _ => none

/-- Where the machine stands. What was read of a token is kept last character first. -/
inductive Stand
  | between
  | word (read : List Char)
  | number (read : List Char)
  | string (codes : List Nat)
  | escape (codes : List Nat)
  /-- Inside an escape by number, of which so many digits are still to come. -/
  | codeDigits (codes : List Nat) (value : Nat) (left : Nat)

def wordToken? (word : List Char) : Option Token :=
  if word = ['n', 'u', 'l', 'l'] then some .null
  else if word = ['t', 'r', 'u', 'e'] then some (.bool true)
  else if word = ['f', 'a', 'l', 's', 'e'] then some (.bool false)
  else none

def inNumber (c : Char) : Bool :=
  c.isDigit || c == '+' || c == '-' || c == '.' || c == 'e' || c == 'E'

/-- What a character does where no token is under way. -/
def begin? (c : Char) : Option (List Token × Stand) :=
  match c with
  | ' ' | '\t' | '\n' | '\r' => some ([], .between)
  | '\x7b' => some ([.openObject], .between)
  | '\x7d' => some ([.closeObject], .between)
  | '[' => some ([.openArray], .between)
  | ']' => some ([.closeArray], .between)
  | ':' => some ([.colon], .between)
  | ',' => some ([.comma], .between)
  | '"' => some ([], .string [])
  | c =>
    if c.isDigit || c == '-' then some ([], .number [c])
    else if c.isAlpha then some ([], .word [c])
    else none

/-- Ends what is under way, at the end of the text or before a character that belongs elsewhere. -/
def end? : Stand → Option (List Token)
  | .between => some []
  | .word read => (wordToken? read.reverse).map fun token => [token]
  | .number read => (Decimal.ofChars? read.reverse).map fun value => [.number value]
  | _ => none

/-- What a character does that is not part of what is under way. -/
def beginAnew? (stand : Stand) (c : Char) : Option (List Token × Stand) := do
  let ended ← end? stand
  let (begun, stand) ← begin? c
  return (ended ++ begun, stand)

def step? (stand : Stand) (c : Char) : Option (List Token × Stand) :=
  match stand with
  | .between => begin? c
  | .word read => if c.isAlpha then some ([], .word (c :: read)) else beginAnew? stand c
  | .number read => if inNumber c then some ([], .number (c :: read)) else beginAnew? stand c
  | .string codes =>
    if c = '"' then
      some ([.string ((textOfCodes codes.reverse).map String.ofList)], .between)
    else if c = '\\' then some ([], .escape codes)
    else if c.toNat < 0x20 then none
    else some ([], .string (c.toNat :: codes))
  | .escape codes =>
    if c = 'u' then some ([], .codeDigits codes 0 4)
    else (escaped? c).map fun code => ([], .string (code :: codes))
  | .codeDigits codes value left =>
    (hexValue? c).map fun digit =>
      let value := 16 * value + digit
      ([], if left ≤ 1 then .string (value :: codes) else .codeDigits codes value (left - 1))

def tokensFrom? (stand : Stand) : List Char → Option (List Token)
  | [] => end? stand
  | c :: rest => do
    let (tokens, stand) ← step? stand c
    return tokens ++ (← tokensFrom? stand rest)

def tokens? (s : String) : Option (List Token) := tokensFrom? .between s.toList

end Lodging.Json
