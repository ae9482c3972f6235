import Lodging.Text.Blank
import Lodging.Text.Digits

/-!
# Days

Days of the proleptic Gregorian calendar, from `-262143-01-01` to `+262142-12-31`, with their order,
their distance in nights and their written form. A day is written year, month and day with two
hyphens; reading also admits blanks before each number and hyphen and at the end, and short months
and days.
-/

namespace Lodging

open Lodging.Text

def isLeapYear (year : Int) : Bool :=
  year % 4 == 0 && (year % 100 != 0 || year % 400 == 0)

def monthLength (year : Int) (month : Nat) : Nat :=
  match month with
  | 2 => if isLeapYear year then 29 else 28
  | 4 | 6 | 9 | 11 => 30
  | _ => 31

/-- A calendar date without time of day. -/
structure Day where
  year : Int
  month : Nat
  day : Nat
  year_mem : -262143 ≤ year ∧ year ≤ 262142
  month_mem : 1 ≤ month ∧ month ≤ 12
  day_mem : 1 ≤ day ∧ day ≤ monthLength year month
deriving DecidableEq

namespace Day

/-- The day of the given year, month and day of the month, if the calendar has it. -/
def ofCivil? (year : Int) (month day : Nat) : Option Day :=
  if h : (-262143 ≤ year ∧ year ≤ 262142) ∧ (1 ≤ month ∧ month ≤ 12) ∧
      (1 ≤ day ∧ day ≤ monthLength year month) then
    some ⟨year, month, day, h.1, h.2.1, h.2.2⟩
  else none

def last : Day := ⟨262142, 12, 31, by decide, by decide, by decide⟩

/-! ## Order -/

/-- The place of a day when every month is given 31 places. -/
def rank (d : Day) : Int := (d.year * 12 + d.month) * 31 + d.day

instance : LT Day := ⟨fun a b => a.rank < b.rank⟩

instance : LE Day := ⟨fun a b => a.rank ≤ b.rank⟩

instance (a b : Day) : Decidable (a < b) := inferInstanceAs (Decidable (a.rank < b.rank))

instance (a b : Day) : Decidable (a ≤ b) := inferInstanceAs (Decidable (a.rank ≤ b.rank))

theorem lt_iff_rank {a b : Day} : a < b ↔ a.rank < b.rank := Iff.rfl

theorem le_iff_rank {a b : Day} : a ≤ b ↔ a.rank ≤ b.rank := Iff.rfl

theorem monthLength_le (year : Int) (month : Nat) : monthLength year month ≤ 31 := by
  unfold monthLength
  split
  · split <;> decide
  all_goals decide

theorem rank_injective {a b : Day} (h : a.rank = b.rank) : a = b := by
  obtain ⟨ya, ma, da, _, hma, hda⟩ := a
  obtain ⟨yb, mb, db, _, hmb, hdb⟩ := b
  have := monthLength_le ya ma
  have := monthLength_le yb mb
  simp only [rank] at h
  obtain rfl : ya = yb := by omega
  obtain rfl : ma = mb := by omega
  obtain rfl : da = db := by omega
  rfl

/-! ## Counting days -/

/-- Days from 1 January of year 0 to 1 January of the given year. -/
def daysBeforeYear (year : Int) : Int :=
  365 * year + (year + 3) / 4 - (year + 99) / 100 + (year + 399) / 400

/-- Days from 1 January to the first of the given month. -/
def daysBeforeMonth (year : Int) : Nat → Nat
  | 0 => 0
  | month + 1 => daysBeforeMonth year month + if month = 0 then 0 else monthLength year month

/-- Days since 1 January 1970. -/
def number (d : Day) : Int :=
  daysBeforeYear d.year + daysBeforeMonth d.year d.month + (d.day - 1) - 719528

/-- The month and day of the month that lie `rest` days after the first day of `month`, looking at
no more than `months` months. -/
def monthAndDay (year : Int) (months month rest : Nat) : Nat × Nat :=
  match months with
  | 0 => (month, rest + 1)
  | months + 1 =>
    if rest < monthLength year month then (month, rest + 1)
    else monthAndDay year months (month + 1) (rest - monthLength year month)

/-- The day at the given distance from 1 January 1970, if the calendar has it. -/
def ofNumber? (number : Int) : Option Day :=
  let days := number + 719528
  -- A mean year has 146097 / 400 days, so the quotient is the year or the one after it.
  let guess := days * 400 / 146097
  let year := if days < daysBeforeYear guess then guess - 1
    else if daysBeforeYear (guess + 1) ≤ days then guess + 1 else guess
  let (month, day) := monthAndDay year 11 1 (days - daysBeforeYear year).toNat
  ofCivil? year month day

/-- The day in which the moment lies, counted in milliseconds since the start of 1970. -/
def ofMillis (millis : Int) : Day :=
  (ofNumber? (millis / 86400000)).getD last

def next? (d : Day) : Option Day := ofNumber? (d.number + 1)

/-! ## Written form -/

/-- Digits of a year: four, and more where the year needs them. -/
def yearWidth (n : Nat) : Nat :=
  if n < 10000 then 4 else if n < 100000 then 5 else 6

/-- The year, with a sign unless it lies in 0 to 9999. -/
def yearText (year : Int) : List Char :=
  let digits := fixedDigits 10 (yearWidth year.natAbs) year.natAbs
  if year < 0 then '-' :: digits
  else if 9999 < year then '+' :: digits
  else digits

/-- Year, month and day with hyphens, as characters. -/
def chars (d : Day) : List Char :=
  yearText d.year ++ '-' :: fixedDigits 10 2 d.month ++ '-' :: fixedDigits 10 2 d.day

def text (d : Day) : String := String.ofList d.chars

def readHyphen (cs : List Char) : Option (List Char) :=
  match skipBlanks cs with
  | '-' :: rest => some rest
  | _ => none

/-- A year after any blanks: at most four digits, or any number of them after a sign. -/
def readYear (cs : List Char) : Option (Int × List Char) :=
  match skipBlanks cs with
  | '-' :: rest => (leadingNumber none rest).map fun (n, rest) => (-n, rest)
  | '+' :: rest => (leadingNumber none rest).map fun (n, rest) => (n, rest)
  | cs => (leadingNumber (some 4) cs).map fun (n, rest) => (n, rest)

/-- A month or a day of the month after any blanks: one or two digits. -/
def readPart (cs : List Char) : Option (Nat × List Char) :=
  leadingNumber (some 2) (skipBlanks cs)

def ofChars? (cs : List Char) : Option Day := do
  let (year, cs) ← readYear cs
  let cs ← readHyphen cs
  let (month, cs) ← readPart cs
  let cs ← readHyphen cs
  let (day, cs) ← readPart cs
  if (skipBlanks cs).isEmpty then ofCivil? year month day else none

/-- Reads a whole text as a day. -/
def ofText? (s : String) : Option Day := ofChars? s.toList

end Day

end Lodging
