import Lodging.Calendar.Day

/-!
# Notices

What the service says about itself: one line for each notice, with its level, the part of the
service that it comes from, a text, and named values.
-/

namespace Lodging

/-- How grave a notice is, the gravest first. -/
inductive NoticeLevel
  | error
  | warn
  | info
  | debug
  | trace
deriving DecidableEq

namespace NoticeLevel

def all : List NoticeLevel := [error, warn, info, debug, trace]

def word : NoticeLevel → String
  | error => "ERROR"
  | warn => "WARN"
  | info => "INFO"
  | debug => "DEBUG"
  | trace => "TRACE"

/-- The place of a level, counted from one for the gravest. -/
def rank : NoticeLevel → Nat
  | error => 1
  | warn => 2
  | info => 3
  | debug => 4
  | trace => 5

end NoticeLevel

structure Notice where
  level : NoticeLevel
  /-- The part of the service that speaks. -/
  source : String
  text : String
  fields : List (String × String) := []
deriving DecidableEq

def Notice.line (n : Notice) : String :=
  n.level.word ++ " " ++ n.source ++ ": " ++ n.text ++
    String.join (n.fields.map fun (name, value) => " " ++ name ++ "=" ++ value)

/-- A time, in milliseconds since the start of 1970, as it stands before a notice. -/
def Notice.stamp (millis : Int) : String :=
  let ofDay := (millis % 86400000).toNat
  let digits (width n : Nat) := String.ofList (Text.fixedDigits 10 width n)
  (Day.ofMillis millis).text ++ "T" ++ digits 2 (ofDay / 3600000) ++ ":" ++
    digits 2 (ofDay / 60000 % 60) ++ ":" ++ digits 2 (ofDay / 1000 % 60) ++ "." ++
    digits 3 (ofDay % 1000) ++ "000Z"

end Lodging
