import Lodging.FilePath
import Lodging.Text.Blank
import Lodging.Text.Digits

/-!
# Settings

What the service is told by its environment. A value that is missing or makes no sense is replaced
by the default.
-/

namespace Lodging

open Lodging.Text

structure Settings where
  directory : String := "./data"
  /-- The socket at which counts are shown, if they are. -/
  metricsSocket : Option Nat := none
  /-- How many events may be appended before the log is compacted. -/
  compactThreshold : Nat := 1000
  seeds : Bool := false
deriving DecidableEq

namespace Settings

/-- Whether a text says yes: letter case and blanks around it do not count. -/
def saysYes (s : String) : Bool :=
  ["1", "true", "yes"].contains ((trimBlanks s).map Char.toLower)

def ofEnvironment (lookup : String → Option String) : Settings where
  directory := (lookup "ROOMLEDGER_DATA_DIR").getD "./data"
  metricsSocket := (lookup "ROOMLEDGER_METRICS_PORT").bind (readUnsigned 0x1_0000)
  compactThreshold :=
    ((lookup "ROOMLEDGER_COMPACT_THRESHOLD").bind (readUnsigned 0x1_00000000_00000000)).getD 1000
  seeds := ((lookup "ROOMLEDGER_SEED").map saysYes).getD false

def logPath (s : Settings) : String := FilePath.join s.directory "ledger.wal"

/-- Whether the settings are the default ones. Directories are compared as places. -/
def isDefault (s : Settings) : Bool :=
  FilePath.same s.directory "./data" && decide ({ s with directory := "./data" } = {})

end Settings

end Lodging
