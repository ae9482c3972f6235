import Lodging.Error

/-!
# Conditions of the disk

How the disk behaves during one operation on the log. A write takes what fits below the capacity and
then fails; every other step may fail on its own.
-/

namespace Lodging.Log

/-- The step at which cutting a failed batch off the log file does not succeed. -/
inductive RollbackFault
  | handle
  | length
  | cut
  | sync
deriving DecidableEq

/-- The disk during one operation. By default all goes well. -/
structure Conditions where
  /-- The length beyond which no file can grow. -/
  capacity : Option Nat := none
  /-- What a write reports that goes no further. -/
  writeError : IoError := .system .fileTooLarge
  syncError : Option IoError := none
  rollbackFault : Option RollbackFault := none
  /-- The file for a snapshot cannot be made, made durable or opened again. -/
  snapshotError : Option IoError := none
  /-- The file of a snapshot cannot take the place of the log. -/
  renameError : Option IoError := none

def Conditions.good : Conditions := {}

/-- How many of `count` bytes fit behind `length` bytes. -/
def Conditions.fitting (c : Conditions) (length count : Nat) : Nat :=
  match c.capacity with
  | none => count
  | some capacity => min count (capacity - length)

end Lodging.Log
