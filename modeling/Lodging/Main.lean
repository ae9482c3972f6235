import Lodging.Log.Volume
import Lodging.Notice.Filter
import Lodging.Service
import Std.Async.Select
import Std.Async.Signal
import Std.Time.DateTime.Timestamp

/-!
# The command line

Runs the service on the log of its data directory until the process is asked to stop. All decisions
are made by the library; this module reads the environment, the clock and the log file, and prints
notices and writes the log file back.
-/

namespace Lodging.Main

open Std.Async

def variableNames : List String :=
  ["ROOMLEDGER_DATA_DIR", "ROOMLEDGER_METRICS_PORT", "ROOMLEDGER_COMPACT_THRESHOLD",
    "ROOMLEDGER_SEED", "RUST_LOG"]

def readEnvironment : IO (String → Option String) := do
  let values ← variableNames.mapM fun name => return (name, ← IO.getEnv name)
  return fun name => (values.lookup name).join

def readMoment : IO Moment := do
  let now ← Std.Time.Timestamp.now
  let bytes ← IO.getRandomBytes 10
  return ⟨now.toMillisecondsSinceUnixEpoch.val, Log.ofLittleEndian bytes.toList⟩

/-- The cause of a failed access to the disk. -/
def causeOf (e : IO.Error) : IoError :=
  match e with
  | .noFileOrDirectory .. => .system .noSuchFile
  | .alreadyExists .. => .system .fileExists
  | .inappropriateType .. => .system .notADirectory
  | e => .other (toString e)

/-- Prints the notices that the filter shows, each with the time. -/
def printNotices (filter : NoticeFilter) (notices : List Notice) : IO Unit := do
  let millis := (← readMoment).millis
  for notice in notices do
    if filter.shows notice then
      IO.println (Notice.stamp millis ++ " " ++ notice.line)
  (← IO.getStdout).flush

/-- The bytes of the log file, or none if there is no such file. -/
def readLog (path : String) : IO Log.Bytes :=
  try
    return (← IO.FS.readBinFile path).toList
  catch
    | .noFileOrDirectory .. => return []
    | e => throw e

/-- Puts a new log file in the place of the old one. -/
def writeLog (path : String) (log : Log.Bytes) : IO Unit := do
  let fresh := Log.Volume.snapshotPath path
  IO.FS.writeBinFile fresh ⟨log.toArray⟩
  IO.FS.rename fresh path

/-- Waits until the process is interrupted or asked to end. -/
def awaitStop : IO Unit := do
  let interrupt ← Signal.Waiter.mk .sigint false
  let terminate ← Signal.Waiter.mk .sigterm false
  Async.block (Selectable.one #[
    .case interrupt.selector fun _ => return (),
    .case terminate.selector fun _ => return ()])

def fail (failure : Service.StartFailure) : IO UInt32 := do
  IO.eprintln failure.report
  return 1

def run : IO UInt32 := do
  let environment ← readEnvironment
  let settings := Settings.ofEnvironment environment
  let filter := NoticeFilter.ofSetting (environment "RUST_LOG")
  let opened ← try
      IO.FS.createDirAll settings.directory
      Except.ok <$> readLog settings.logPath
    catch e => pure (.error (causeOf e))
  match opened with
  | .error cause =>
    let outcome := Service.failedRun settings cause
    printNotices filter outcome.notices
    fail (.io cause)
  | .ok log =>
    let (notices, failure, engine) := Service.start settings .good (← readMoment) log
    writeLog settings.logPath engine.journal.file
    printNotices filter notices
    match failure with
    | some failure => fail failure
    | none =>
      awaitStop
      let (notices, engine) := Service.stop .good engine
      writeLog settings.logPath (engine.close .good)
      printNotices filter notices
      return 0

end Lodging.Main

def main : IO UInt32 := Lodging.Main.run
