import Lodging.Amount.Rounding
import Lodging.Engine

/-!
# Demonstration data

Three chains of hotels in five places, with one room of every kind in each hotel. Prices are spread
over the band of a kind by the number of the hotel, so every run gives the same ones.
-/

namespace Lodging.Demo

open Log (Conditions)

def chains : List String := ["Hilton", "Sheraton", "Swissotel"]

/-- The places in which every chain has a hotel. -/
def places : List String := ["Germany", "United Kingdom", "France", "Ankara", "Germany"]

/-- An amount in whole cents, as near as binary64 gets. -/
def cents (n : Nat) : Amount := .ofFraction ⟨n, 100⟩

/-- The lowest and the highest price of a kind of room, in cents. -/
def priceBand : RoomKind → Nat × Nat
  | .family => (10099, 20099)
  | .familySuite => (20099, 25099)
  | .suite => (25099, 30099)
  | .honeymoon => (30099, 35099)
  | .king => (35099, 70099)

/-- The price of a kind of room in the `n`-th hotel: a point of its band, cut to cents. Every step
is rounded to binary64. -/
def price (kind : RoomKind) (n : Nat) : Amount :=
  let low := cents (priceBand kind).1
  let high := cents (priceBand kind).2
  let share := cents (n * 37 % 100)
  let raw := low.plus ((high.minus low).times share)
  (raw.times (.ofNat 100)).truncate.dividedBy (.ofNat 100)

def rating (n : Nat) : UInt8 := (n % 5 + 1).toUInt8

/-- The hotels by name and location, in order. -/
def hotels : List (String × String) :=
  chains.flatMap fun chain => places.map fun place => (chain, place)

structure Summary where
  hotels : Nat := 0
  rooms : Nat := 0
deriving DecidableEq

/-- How many documents were added. -/
def Summary.documents (summary : Summary) : Nat := summary.hotels + summary.rooms

/-- Adds rooms of the given kinds to the `n`-th hotel, up to the first that is refused. The clock
shows the moment of each draw, by the number of documents that were added before it. -/
def addRooms (c : Conditions) (clock : Nat → Moment) (n : Nat) (hotel : RecordId) :
    List RoomKind → Summary × Engine → Except LedgerError Summary × Engine
  | [], (summary, e) => (.ok summary, e)
  | kind :: rest, (summary, e) =>
    let amount := price kind n
    match e.perform c (clock summary.documents) (.createRoom hotel.hex kind amount amount) with
    | (.ok _, e) =>
      addRooms c clock n hotel rest ({ summary with rooms := summary.rooms + 1 }, e)
    | (.error error, e) => (.error error, e)

/-- Adds hotels, of which the first has the number `n`, with their rooms, up to the first that is
refused. -/
def addHotels (c : Conditions) (clock : Nat → Moment) (n : Nat) :
    List (String × String) → Summary × Engine → Except LedgerError Summary × Engine
  | [], (summary, e) => (.ok summary, e)
  | (name, location) :: rest, (summary, e) =>
    match e.perform c (clock summary.documents) (.createHotel name location (rating n)) with
    | (.ok (.hotel hotel), e) =>
      let summary := { summary with hotels := summary.hotels + 1 }
      match addRooms c clock n hotel.id RoomKind.all (summary, e) with
      | (.ok summary, e) => addHotels c clock (n + 1) rest (summary, e)
      | (.error error, e) => (.error error, e)
    | (.ok _, e) => addHotels c clock (n + 1) rest (summary, e)
    | (.error error, e) => (.error error, e)

/-- Adds all of the demonstration data as time goes on. What was added before a refusal stays. -/
def seedOver (c : Conditions) (clock : Nat → Moment) (e : Engine) :
    Except LedgerError Summary × Engine :=
  addHotels c clock 0 hotels ({}, e)

/-- Adds all of the demonstration data at one moment. -/
def seed (c : Conditions) (m : Moment) (e : Engine) : Except LedgerError Summary × Engine :=
  seedOver c (fun _ => m) e

end Lodging.Demo
