import Lodging.Engine.Change
import Lodging.Log.GroupCommit
import Lodging.RecordId.Generator
import Lodging.Store.Replay
import Lodging.Store.Snapshot
import Lodging.Tally

/-!
# The engine

A store, the journal from which it can be rebuilt, and a source of identifiers. A change becomes
visible in the store after its event is durable in the journal, and not at all if it could not be
written.
-/

namespace Lodging

open Log (Bytes Conditions Journal)

/-- The booking engine. -/
structure Engine where
  store : Store
  journal : Journal
  generator : Generator
  tally : Tally := {}

namespace Engine

/-! ## Opening and closing -/

def highestSubject? (events : List Event) : Option RecordId := (events.map Event.subject).max?

/-- A generator above everything that the events are about. -/
def generatorAfter (events : List Event) : Generator :=
  match highestSubject? events with
  | some floor => .startingAfter floor
  | none => .new

/-- Opens an engine on the bytes of a log file. A torn tail is cut off. -/
def openOn (file : Bytes) : Engine :=
  let recovery := Log.recover file
  { store := Store.replay recovery.events
    journal := Journal.openAt file recovery.validLength
    generator := generatorAfter recovery.events }

/-- The log file that is left when the engine is closed. -/
def close (c : Conditions) (e : Engine) : Bytes := e.journal.close c

/-- Opens an engine anew on the bytes of a log file. Only the tally goes on. -/
def reopenOn (file : Bytes) (e : Engine) : Engine := { openOn file with tally := e.tally }

/-! ## Changes -/

/-- What a change comes to before the log is written. -/
inductive Proposal
  | keep (reply : Reply)
  | write (event : Event)
deriving DecidableEq

/-- Prepares an event about a new document: draws its identifier, and claims the email address of a
new user. The identifier stays drawn whatever happens to the event. -/
def prepare (m : Moment) (event : RecordId → Event) (e : Engine) :
    Except LedgerError Proposal × Engine :=
  match e.generator.next m with
  | (none, generator) => (.error (.transactionFailed .idsExhausted), { e with generator })
  | (some id, generator) =>
    match event id with
    | .userCreated user =>
      match e.store.reserveEmail user.email user.id with
      | (true, store) => (.ok (.write (.userCreated user)), { e with generator, store })
      | (false, store) =>
        (.error (.alreadyExists ("user with email " ++ user.email)), { e with generator, store })
    | event => (.ok (.write event), { e with generator })

/-- Counts a refusal if it is a conflict of bookings. -/
def noteRefusal (error : LedgerError) (t : Tally) : Tally :=
  match error with
  | .roomUnavailable _ _ => { t with bookingConflicts := t.bookingConflicts + 1 }
  | _ => t

def propose (m : Moment) (change : Change) (e : Engine) : Except LedgerError Proposal × Engine :=
  match e.store.plan change with
  | .error error => (.error error, { e with tally := noteRefusal error e.tally })
  | .ok (.keep reply) => (.ok (.keep reply), e)
  | .ok (.write event) => (.ok (.write event), e)
  | .ok (.create event) => e.prepare m event

/-- Writes events to the log as one batch and, when they are durable, applies them. -/
def commit (c : Conditions) (events : List Event) (e : Engine) :
    Except IoError Unit × Engine :=
  let (result, journal) := e.journal.commit c events
  let e := { e with
    journal
    tally := { e.tally with batchSizes := e.tally.batchSizes ++ [events.length] } }
  match result with
  | .ok () => (.ok (), { e with store := events.foldl Store.apply e.store })
  | .error error => (.error error, e)

def cancelerOf : Change → Canceler
  | .cancelBooking _ (some _) => .owner
  | _ => .admin

/-- What the caller gets when the event of a change is durable and applied. -/
def replyTo (event : Event) (e : Engine) : Except LedgerError Reply :=
  match event with
  | .hotelCreated id _ _ _ | .hotelUpdated id _ => (orNotFound id (e.store.hotel? id)).map .hotel
  | .userUpdated id _ => (orNotFound id (e.store.user? id)).map .user
  | .userCreated user => .ok (.user user)
  | .roomCreated room => .ok (.room room)
  | .bookingCreated booking => .ok (.booking booking)
  | .userDeleted _ | .bookingCanceled _ _ => .ok .done

def noteCommit (change : Change) (event : Event) (t : Tally) : Tally :=
  match event with
  | .bookingCreated _ => { t with bookingsCreated := t.bookingsCreated + 1 }
  | .bookingCanceled _ _ => t.cancellation (cancelerOf change)
  | _ => t

/-- Ends a change whose event was written or could not be written. The email address of a user that
was not written is free again. -/
def conclude (change : Change) (event : Event) (result : Except IoError Unit) (e : Engine) :
    Except LedgerError Reply × Engine :=
  match result with
  | .ok () => (e.replyTo event, { e with tally := noteCommit change event e.tally })
  | .error error =>
    let store := match event with
      | .userCreated user => e.store.releaseEmail user.email user.id
      | _ => e.store
    (.error (.transactionFailed (.io error)), { e with store })

/-- Carries out a change on its own. -/
def perform (c : Conditions) (m : Moment) (change : Change) (e : Engine) :
    Except LedgerError Reply × Engine :=
  match e.propose m change with
  | (.error error, e) => (.error error, e)
  | (.ok (.keep reply), e) => (.ok reply, e)
  | (.ok (.write event), e) =>
    let (result, e) := e.commit c [event]
    e.conclude change event result

/-! ## Compaction -/

/-- Replaces the log by the snapshot of the store. -/
def compact (c : Conditions) (e : Engine) : Except LedgerError Unit × Engine :=
  match e.journal.compact c e.store.snapshot with
  | (.ok (), journal) =>
    (.ok (), { e with
      journal
      tally := { e.tally with compactions := e.tally.compactions + 1 } })
  | (.error error, journal) => (.error (.transactionFailed (.io error)), { e with journal })

/-- What came of looking whether a compaction is due. -/
inductive Upkeep
  | notDue
  | compacted
  | failed (error : LedgerError)
deriving DecidableEq

/-- Compacts the log if at least `threshold` events, and at least one, were appended since the last
compaction. -/
def compactIfDue (c : Conditions) (threshold : Nat) (e : Engine) : Upkeep × Engine :=
  if e.journal.appends < max threshold 1 then (.notDue, e)
  else match e.compact c with
    | (.ok (), e) => (.compacted, e)
    | (.error error, e) => (.failed error, e)

end Engine

end Lodging
