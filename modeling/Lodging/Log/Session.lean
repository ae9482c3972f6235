import Lodging.Log.Journal
import Lodging.Log.Volume

/-!
# A log on a volume

A journal is opened on a file of a volume and works on that file. If the file's path is given to
something else meanwhile, the journal goes on with a file that no longer has a name.
-/

namespace Lodging.Log

/-- A journal that is open on a file. -/
structure OpenLog where
  path : String
  /-- Whether the file still has its path. -/
  isNamed : Bool
  journal : Journal

/-- A volume with at most one open log. -/
structure Session where
  volume : Volume := {}
  log : Option OpenLog := none

namespace Session

/-- Puts the journal's file on the volume, unless it has lost its name. -/
def store (s : Session) (log : OpenLog) : Session where
  volume := if log.isNamed then s.volume.put log.path (.file log.journal.file) else s.volume
  log := some log

def close (s : Session) : Session :=
  match s.log with
  | none => s
  | some log =>
    let left := log.journal.close { capacity := s.volume.capacity }
    { volume := if log.isNamed then s.volume.put log.path (.file left) else s.volume
      log := none }

/-- Opens a log of which the first `validLength` bytes are sound, or as many as a recovery finds,
and says how long it is. An open log is closed first. -/
def openAt (s : Session) (path : String) (validLength : Option Nat) (outOfHandles : Bool) :
    Except IoError Nat × Session :=
  let s := s.close
  let opened : Except IoError Journal := do
    let length ← match validLength with
      | some length => pure length
      | none => (·.validLength) <$> s.volume.recover path outOfHandles
    let file ← s.volume.fileToWrite path outOfHandles
    return .openAt file length
  match opened with
  | .ok journal => (.ok journal.durableLength, s.store ⟨path, true, journal⟩)
  | .error error => (.error error, s)

def work {α : Type} (s : Session) (outOfHandles : Bool)
    (act : Conditions → Journal → α × Journal) : Option (α × Session) :=
  s.log.map fun log =>
    let (result, journal) := act (s.volume.conditions log.path outOfHandles) log.journal
    (result, s.store { log with journal })

def append (s : Session) (outOfHandles : Bool) (event : Event) :
    Option (Except IoError Unit × Session) :=
  s.work outOfHandles fun c j => j.append c event

def flush (s : Session) (outOfHandles : Bool) : Option (Except IoError Unit × Session) :=
  s.work outOfHandles fun c j => j.flush c

/-- Replaces the open log by the given events. Whatever comes of it, no file is left in the place
where the snapshot was made. -/
def compact (s : Session) (outOfHandles : Bool) (events : List Event) :
    Option (Except IoError Unit × Session) := do
  let log ← s.log
  let (result, s) ← s.work outOfHandles fun c j => j.compact c events
  let snapshot := Volume.snapshotPath log.path
  return (result, if (s.volume.file? snapshot).isSome && !log.journal.poisoned then
    { s with volume := s.volume.remove snapshot } else s)

/-- Changes the bytes at a path behind the back of an open log. -/
def overwrite (s : Session) (path : String) (bytes : Bytes) : Session where
  volume := s.volume.put path (.file bytes)
  log := s.log.map fun log =>
    if log.isNamed && Volume.samePlace log.path path then
      { log with journal.output.file := bytes }
    else log

/-- Puts a folder in the place of a file. An open log keeps the file without its name. -/
def displace (s : Session) (path : String) : Session where
  volume := s.volume.put path .folder
  log := s.log.map fun log =>
    if Volume.samePlace log.path path then { log with isNamed := false } else log

end Session

/-- Damage to a file. -/
structure Damage where
  /-- How many bytes are cut off the end. -/
  cut : Nat := 0
  /-- A place where a byte is combined with another one bit by bit, if the file is that long. -/
  flip : Option (Nat × UInt8) := none
  added : Bytes := []

def Damage.apply (d : Damage) (bytes : Bytes) : Bytes :=
  let rest := bytes.take (bytes.length - d.cut)
  let flipped := match d.flip with
    | some (place, mask) => rest.modify place (· ^^^ mask)
    | none => rest
  flipped ++ d.added

end Lodging.Log
