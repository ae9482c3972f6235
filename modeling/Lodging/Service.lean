import Lodging.Demo
import Lodging.Engine.Queries
import Lodging.Notice
import Lodging.Settings

/-!
# The service

One run of the service: it opens the ledger, fills an empty one with demonstration data if it is
told to, counts the rooms by status, looks now and then whether a compaction of the log is due, and
compacts it once more when it is asked to stop. It says what it does in notices.
-/

namespace Lodging.Service

open Log (Bytes Conditions)

inductive StartFailure
  | io (cause : IoError)
  | ledger (error : LedgerError)
deriving DecidableEq

def StartFailure.report : StartFailure → String
  | io (.system cause) =>
    "Error: Os \x7b code: " ++ toString cause.number ++ ", kind: " ++ cause.kind ++
      ", message: " ++ Text.Quoted.quote cause.text ++ " \x7d"
  | io cause => "Error: " ++ cause.message
  | ledger (.transactionFailed failure) =>
    "Error: TransactionFailed(" ++ Text.Quoted.quote failure.message ++ ")"
  | ledger error => "Error: " ++ error.message

/-! ## Notices -/

def say (text : String) (fields : List (String × String)) : Notice :=
  ⟨.info, "roomledger", text, fields⟩

def metricsAddress (socket : Nat) : String :=
  "http://0.0.0.0:" ++ toString socket ++ "/metrics"

def metricsNotices (settings : Settings) : List Notice :=
  match settings.metricsSocket with
  | some socket =>
    [⟨.info, "roomledger::observability", "metrics endpoint: " ++ metricsAddress socket, []⟩]
  | none => []

/-- What is said about the log when it is read. -/
def replayNotices (settings : Settings) (log : Bytes) : List Notice :=
  let recovery := Log.recover log
  let path := ("path", settings.logPath)
  let torn : Notice := ⟨.warn, "roomledger::engine", "discarding torn WAL tail",
    [path, ("valid_len", toString recovery.validLength)]⟩
  let skipped (room : RecordId) : Notice := ⟨.warn, "roomledger::engine",
    "WAL booking event for unknown room, skipped", [("room_id", room.hex)]⟩
  let done : Notice := ⟨.info, "roomledger::engine", "ledger replayed",
    [path, ("events", toString recovery.events.length),
      ("rooms", toString (Store.replay recovery.events).rooms.size)]⟩
  (if recovery.discardedTail then [torn] else []) ++
    (Store.empty.skippedRooms recovery.events).map skipped ++ [done]

def settingsNotices (settings : Settings) : List Notice :=
  [ say ("roomledger ledger at " ++ settings.logPath) [],
    say ("  compact_threshold: " ++ toString settings.compactThreshold) [],
    say ("  metrics: " ++ (settings.metricsSocket.map metricsAddress).getD "disabled") [] ]

def compactedNotice (events : Nat) : Notice :=
  ⟨.info, "roomledger::engine::mutations", "WAL compacted", [("events", toString events)]⟩

/-! ## Parts of a run -/

/-- What a run meets with: the moments at which it draws identifiers, the day on which it counts
the rooms, and how often it looks whether a compaction is due before it is asked to stop. -/
structure Course where
  clock : Nat → Moment
  today : Day
  looks : Nat

/-- All at one moment, with one look. -/
def Course.brief (m : Moment) : Course := ⟨fun _ => m, m.today, 1⟩

/-- Fills a ledger without hotels, if the settings say so. -/
def seedIfEmpty (settings : Settings) (c : Conditions) (clock : Nat → Moment) (e : Engine) :
    List Notice × Option StartFailure × Engine :=
  if settings.seeds then
    let existing := (e.listHotels none ⟨1, 1⟩).total
    if existing = 0 then
      match Demo.seedOver c clock e with
      | (.ok summary, e) =>
        ([say "seeded fixtures"
          [("hotels", toString summary.hotels), ("rooms", toString summary.rooms)]], none, e)
      | (.error error, e) => ([], some (.ledger error), e)
    else ([say "ledger not empty, skipping seed" [("hotels", toString existing)]], none, e)
  else ([], none, e)

def countRooms (today : Day) : List RoomStatus → Engine → List Notice × Engine
  | [], e => ([], e)
  | status :: rest, e =>
    let (page, e) := e.listRooms today [status] ⟨1, 1⟩
    let (notices, e) := countRooms today rest e
    (say "room status" [("status", status.word), ("rooms", toString page.total)] :: notices, e)

def upkeep (settings : Settings) (c : Conditions) (e : Engine) : List Notice × Engine :=
  let appended := ("appended", toString e.journal.appends)
  match e.compactIfDue c settings.compactThreshold with
  | (.notDue, e') => ([], e')
  | (.compacted, e') =>
    ([compactedNotice e.store.snapshot.length,
      ⟨.info, "roomledger::compactor", "compacted WAL", [appended]⟩], e')
  | (.failed error, e') =>
    ([⟨.warn, "roomledger::compactor", "WAL compaction failed: " ++ error.message, [appended]⟩], e')

/-- Looks again and again whether a compaction is due. -/
def upkeeps (settings : Settings) (c : Conditions) : Nat → Engine → List Notice × Engine
  | 0, e => ([], e)
  | looks + 1, e =>
    let (notices, e) := upkeep settings c e
    let (more, e) := upkeeps settings c looks e
    (notices ++ more, e)

/-- All that is done on a log before the service is asked to stop. On a failure the engine is left
as it was when it happened. -/
def startThrough (settings : Settings) (c : Conditions) (course : Course) (log : Bytes) :
    List Notice × Option StartFailure × Engine :=
  let opening := metricsNotices settings ++ replayNotices settings log ++ settingsNotices settings
  match seedIfEmpty settings c course.clock (.openOn log) with
  | (seeding, some failure, e) => (opening ++ seeding, some failure, e)
  | (seeding, none, e) =>
    let (counts, e) := countRooms course.today RoomStatus.all e
    let (upkeep, e) := upkeeps settings c course.looks e
    (opening ++ seeding ++ counts ++ upkeep, none, e)

/-- All that is done on a log before the service waits. -/
def start (settings : Settings) (c : Conditions) (m : Moment) (log : Bytes) :
    List Notice × Option StartFailure × Engine :=
  startThrough settings c (.brief m) log

/-- All that is done when the service is asked to stop. -/
def stop (c : Conditions) (e : Engine) : List Notice × Engine :=
  let compaction := match e.compact c with
    | (.ok (), e') => (compactedNotice e.store.snapshot.length, e')
    | (.error error, e') =>
      (⟨.warn, "roomledger", "final compaction failed: " ++ error.message, []⟩, e')
  ([say "shutdown signal received, compacting" [], compaction.1, say "roomledger stopped" []],
    compaction.2)

/-! ## Whole runs -/

structure Outcome where
  notices : List Notice
  failure : Option StartFailure
  log : Bytes
deriving DecidableEq

/-- The status with which the process ends. -/
def Outcome.exitCode (o : Outcome) : UInt8 := if o.failure.isSome then 1 else 0

/-- A run on the given log file, which is empty if there was none. -/
def runThrough (settings : Settings) (c : Conditions) (course : Course) (log : Bytes) : Outcome :=
  match startThrough settings c course log with
  | (notices, some failure, e) => ⟨notices, some failure, e.close c⟩
  | (notices, none, e) =>
    let (stopping, e) := stop c e
    ⟨notices ++ stopping, none, e.close c⟩

/-- A run that is asked to stop at once. -/
def run (settings : Settings) (c : Conditions) (m : Moment) (log : Bytes) : Outcome :=
  runThrough settings c (.brief m) log

/-- A run whose log cannot be read at all. -/
def failedRun (settings : Settings) (cause : IoError) : Outcome :=
  ⟨metricsNotices settings, some (.io cause), []⟩

end Lodging.Service
