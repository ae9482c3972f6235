import Lodging.Engine

/-!
# Changes side by side

Changes that are asked for at the same time are decided in order, and the events of all that need
not wait reach the log as one batch. A change that is decided by the book of a room waits while
another change of that book is being written, and is decided anew in the next round. When a batch
cannot be written, every change in it is refused. A compaction among the changes waits for all that
were asked for before it, and all behind it wait for the compaction.
-/

namespace Lodging.Engine

open Log (Conditions)

/-- How far a change has come. -/
inductive Progress
  | waiting (change : Change)
  | writing (change : Change) (event : Event)
  | answered (result : Except LedgerError Reply)

namespace Progress

/-- Whether the change is still to be decided. -/
def isWaiting : Progress → Bool
  | waiting _ => true
  | _ => false

def event? : Progress → Option Event
  | writing _ event => some event
  | _ => none

def answer? : Progress → Option (Except LedgerError Reply)
  | answered result => some result
  | _ => none

end Progress

/-- Decides one waiting change unless the book it depends on is taken. -/
def startOne (m : Moment) (taken : List RecordId) (change : Change) (e : Engine) :
    Progress × Engine :=
  if (e.store.decidingRoom? change).any taken.contains then (.waiting change, e)
  else match e.propose m change with
    | (.error error, e) => (.answered (.error error), e)
    | (.ok (.keep reply), e) => (.answered (.ok reply), e)
    | (.ok (.write event), e) => (.writing change event, e)

/-- The books that are taken after a change was started. -/
def takenAfter (taken : List RecordId) (p : Progress) : List RecordId :=
  match p.event?.bind Event.bookedRoom? with
  | some room => room :: taken
  | none => taken

def start (m : Moment) (taken : List RecordId) : List Progress → Engine → List Progress × Engine
  | [], e => ([], e)
  | .waiting change :: rest, e =>
    let (p, e) := e.startOne m taken change
    let (rest, e) := start m (takenAfter taken p) rest e
    (p :: rest, e)
  | p :: rest, e =>
    let (rest, e) := start m taken rest e
    (p :: rest, e)

/-- Ends the changes whose events were in a batch. -/
def finish (result : Except IoError Unit) : List Progress → Engine → List Progress × Engine
  | [], e => ([], e)
  | .writing change event :: rest, e =>
    let (answer, e) := e.conclude change event result
    let (rest, e) := finish result rest e
    (.answered answer :: rest, e)
  | p :: rest, e =>
    let (rest, e) := finish result rest e
    (p :: rest, e)

/-- Writes the events of a batch, if there are any, and ends their changes. -/
def write (c : Conditions) (batch : List Progress) (e : Engine) : List Progress × Engine :=
  match batch.filterMap Progress.event? with
  | [] => (batch, e)
  | events =>
    let (result, e) := e.commit c events
    finish result batch e

/-- How many changes are still to be decided. -/
def waiting (batch : List Progress) : Nat := batch.countP Progress.isWaiting

theorem Progress.isWaiting_waiting (change : Change) : (waiting change).isWaiting = true := rfl

theorem Progress.isWaiting_writing (change : Change) (event : Event) :
    (writing change event).isWaiting = false := rfl

theorem Progress.isWaiting_answered (result : Except LedgerError Reply) :
    (answered result).isWaiting = false := rfl

theorem waiting_cons (p : Progress) (rest : List Progress) :
    waiting (p :: rest) = waiting rest + if p.isWaiting then 1 else 0 :=
  List.countP_cons

/-- While no book is taken, a change need not wait. -/
theorem startOne_isWaiting (m : Moment) (change : Change) (e : Engine) :
    (e.startOne m [] change).1.isWaiting = false := by
  have hfree : (e.store.decidingRoom? change).any ([] : List RecordId).contains = false := by
    cases e.store.decidingRoom? change <;> rfl
  simp only [startOne, hfree, Bool.false_eq_true, if_false]
  split <;> rfl

theorem waiting_start_le (m : Moment) (taken : List RecordId) (batch : List Progress)
    (e : Engine) : waiting (start m taken batch e).1 ≤ waiting batch := by
  induction batch generalizing taken e with
  | nil => exact Nat.le_refl _
  | cons p rest ih =>
    cases p with
    | waiting change =>
      have hrest := ih (takenAfter taken (e.startOne m taken change).1)
        (e.startOne m taken change).2
      simp only [start, waiting_cons, Progress.isWaiting_waiting, if_true]
      split <;> omega
    | writing change event =>
      simp only [start, waiting_cons]
      exact Nat.add_le_add_right (ih taken e) _
    | answered result =>
      simp only [start, waiting_cons]
      exact Nat.add_le_add_right (ih taken e) _

/-- While no book is taken, the first waiting change is decided. -/
theorem waiting_start_lt (m : Moment) (batch : List Progress) (e : Engine)
    (h : waiting batch ≠ 0) : waiting (start m [] batch e).1 < waiting batch := by
  induction batch generalizing e with
  | nil => exact absurd rfl h
  | cons p rest ih =>
    cases p with
    | waiting change =>
      have hrest := waiting_start_le m (takenAfter [] (e.startOne m [] change).1) rest
        (e.startOne m [] change).2
      simp only [start, waiting_cons, startOne_isWaiting, Progress.isWaiting_waiting,
        Bool.false_eq_true, if_false, if_true]
      omega
    | writing change event =>
      simp only [start, waiting_cons, Progress.isWaiting_writing, Bool.false_eq_true, if_false,
        Nat.add_zero] at h ⊢
      exact ih e h
    | answered result =>
      simp only [start, waiting_cons, Progress.isWaiting_answered, Bool.false_eq_true, if_false,
        Nat.add_zero] at h ⊢
      exact ih e h

theorem waiting_finish (result : Except IoError Unit) (batch : List Progress) (e : Engine) :
    waiting (finish result batch e).1 = waiting batch := by
  induction batch generalizing e with
  | nil => rfl
  | cons p rest ih =>
    cases p with
    | waiting change => simp only [finish, waiting_cons, ih]
    | writing change event =>
      simp only [finish, waiting_cons, ih, Progress.isWaiting_writing, Progress.isWaiting_answered,
        Bool.false_eq_true, if_false]
    | answered result => simp only [finish, waiting_cons, ih]

theorem waiting_write (c : Conditions) (batch : List Progress) (e : Engine) :
    waiting (write c batch e).1 = waiting batch := by
  unfold write
  split
  · rfl
  · exact waiting_finish _ _ _

/-- Writes what is ready, and goes on with the waiting changes in rounds until none is left. -/
def rounds (c : Conditions) (m : Moment) (batch : List Progress) (e : Engine) :
    List Progress × Engine :=
  let written := write c batch e
  if waiting batch = 0 then written
  else
    let started := start m [] written.1 written.2
    rounds c m started.1 started.2
termination_by waiting batch
decreasing_by
  have h := waiting_write c batch e
  rw [← h]
  exact waiting_start_lt m _ _ (by rw [h]; assumption)

/-! ## Compactions among changes -/

/-- Looks at a change whose turn comes after a compaction. A change of documents is decided at once
and only written later; one of bookings is decided at its turn. -/
def lookAhead (m : Moment) (change : Change) (e : Engine) : Progress × Engine :=
  if change.concernsBookings then
    match e.store.preview change with
    | .ok () => (.waiting change, e)
    | .error error => (.answered (.error error), e)
  else e.startOne m [] change

def lookAheadAll (m : Moment) : List Change → Engine → List Progress × Engine
  | [], e => ([], e)
  | change :: rest, e =>
    let (p, e) := e.lookAhead m change
    let (rest, e) := lookAheadAll m rest e
    (p :: rest, e)

def lookAheadLists (m : Moment) : List (List Change) → Engine → List (List Progress) × Engine
  | [], e => ([], e)
  | changes :: rest, e =>
    let (batch, e) := lookAheadAll m changes e
    let (rest, e) := lookAheadLists m rest e
    (batch :: rest, e)

def answers (batch : List Progress) : List (Except LedgerError Reply) :=
  batch.filterMap Progress.answer?

/-- What comes of a compaction and the changes behind it. -/
structure Stage where
  compaction : Except LedgerError Unit
  answers : List (Except LedgerError Reply)

/-- Compacts the log before each list of changes and carries the list out. -/
def stages (c : Conditions) (m : Moment) : List (List Progress) → Engine → List Stage × Engine
  | [], e => ([], e)
  | batch :: rest, e =>
    let (compaction, e) := e.compact c
    let (batch, e) := start m [] batch e
    let (batch, e) := rounds c m batch e
    let (rest, e) := stages c m rest e
    (⟨compaction, answers batch⟩ :: rest, e)

/-- Carries out changes that are asked for together, and before each list of later ones a
compaction, which waits until all changes before it are done. -/
def performAll (c : Conditions) (m : Moment) (changes : List Change) (later : List (List Change))
    (e : Engine) : (List (Except LedgerError Reply) × List Stage) × Engine :=
  let (batch, e) := start m [] (changes.map .waiting) e
  let (ahead, e) := lookAheadLists m later e
  let (batch, e) := rounds c m batch e
  let (later, e) := stages c m ahead e
  ((answers batch, later), e)

end Lodging.Engine
