import Lodging.FilePath
import Lodging.Log.Conditions
import Lodging.Log.Frame
import Std.Data.ExtTreeMap

/-!
# Volumes

A volume holds files and folders by their paths, and may have a bound beyond which no file grows. A
log lies on a volume as a file, and its compaction makes another file beside it.
-/

namespace Lodging.Log

inductive Entry
  | file (bytes : Bytes)
  | folder
deriving DecidableEq

/-- Files and folders, by the parts of their paths with slashes between them. The volume itself is
the folder without parts. -/
structure Volume where
  entries : Std.ExtTreeMap String Entry := ∅
  capacity : Option Nat := none

namespace Volume

/-- The name under which the place of some parts is kept. -/
def nameOf (parts : List (List Char)) : String :=
  String.intercalate "/" (parts.map String.ofList)

/-- What the place of some parts holds. -/
def entryAt? (v : Volume) (parts : List (List Char)) : Option Entry :=
  if parts.isEmpty then some .folder else v.entries[nameOf parts]?

/-- Refuses a place unless all that lies above it are folders. -/
def checkAbove (v : Volume) (parts : List (List Char)) : Except SystemError Unit :=
  let above := (List.range parts.length).map parts.take
  match above.findSome? fun place => match v.entryAt? place with
    | some .folder => none
    | some (.file _) => some SystemError.notADirectory
    | none => some SystemError.noSuchFile with
  | some error => .error error
  | none => .ok ()

def partsOf (path : String) : List (List Char) :=
  (FilePath.places path).2.filter FilePath.leads

def samePlace (p q : String) : Bool := decide (partsOf p = partsOf q)

def endsInSlash (path : String) : Bool := path.toList.getLast? = some '/'

def find? (v : Volume) (path : String) : Except SystemError (Option Entry) := do
  v.checkAbove (partsOf path)
  match v.entryAt? (partsOf path) with
  | some (.file bytes) =>
    if endsInSlash path then .error .notADirectory else return some (.file bytes)
  | entry? => return entry?

def file? (v : Volume) (path : String) : Option Bytes :=
  match v.find? path with
  | .ok (some (.file bytes)) => some bytes
  | _ => none

def isFolder (v : Volume) (path : String) : Bool :=
  match v.find? path with
  | .ok (some .folder) => true
  | _ => false

def put (v : Volume) (path : String) (entry : Entry) : Volume :=
  { v with entries := v.entries.insert (nameOf (partsOf path)) entry }

def remove (v : Volume) (path : String) : Volume :=
  { v with entries := v.entries.erase (nameOf (partsOf path)) }

def names (v : Volume) : List String :=
  v.entries.keys.filter fun name => !name.toList.contains '/'

/-- The path of the file that a compaction of the log makes: the last extension of the name gives
way to another one. -/
def snapshotPath (path : String) : String :=
  let (last, front) := path.toList.reverse.span (· ≠ '/')
  let name := last.reverse
  let stem := match (name.reverse.dropWhile (· ≠ '.')).drop 1 with
    | [] => name
    | stem => stem.reverse
  String.ofList (front.reverse ++ stem ++ ['.', 'w', 'a', 'l', '.', 't', 'm', 'p'])

/-- The conditions for work on the log at a path. Without a handle to spare no file can be
opened. -/
def conditions (v : Volume) (path : String) (outOfHandles : Bool) : Conditions where
  capacity := v.capacity
  rollbackFault := if outOfHandles then some .handle else none
  snapshotError :=
    if outOfHandles then some (.system .tooManyOpenFiles)
    else if v.isFolder (snapshotPath path) then some (.system .isADirectory)
    else none
  renameError := if v.isFolder path then some (.system .isADirectory) else none

/-- Reads the log at a path. A log that is not there is empty. -/
def recover (v : Volume) (path : String) (outOfHandles : Bool) : Except IoError Recovery :=
  if outOfHandles then .error (.system .tooManyOpenFiles)
  else match v.find? path with
    | .ok (some (.file bytes)) => .ok (Log.recover bytes)
    | .ok (some .folder) => .error (.system .isADirectory)
    | .ok none | .error .noSuchFile => .ok (Log.recover [])
    | .error error => .error (.system error)

/-- The bytes of the file at a path that is opened for writing. A file that is not there is made. -/
def fileToWrite (v : Volume) (path : String) (outOfHandles : Bool) : Except IoError Bytes :=
  if outOfHandles then .error (.system .tooManyOpenFiles)
  else match v.checkAbove (partsOf path) with
    | .error error => .error (.system error)
    | .ok () =>
      if endsInSlash path then .error (.system .isADirectory)
      else match v.entryAt? (partsOf path) with
        | some (.file bytes) => .ok bytes
        | some .folder => .error (.system .isADirectory)
        | none => .ok []

end Volume

end Lodging.Log
