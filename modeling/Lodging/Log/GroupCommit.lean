import Lodging.Log.Journal

/-!
# Group commit

One writer owns the journal. It takes requests in order, and appends that stand next to each other
may be taken as one batch: they are appended and flushed together, and all of them get the answer of
the whole batch.
-/

namespace Lodging.Log

inductive Request
  | append (event : Event)
  | compact (events : List Event)
  | countAppends
deriving DecidableEq

inductive Response
  | done (result : Except IoError Unit)
  | count (appends : Nat)

/-- What the writer handles in one go: a batch of one or more appends, or a single other request. -/
inductive Work
  | batch (first : Event) (rest : List Event)
  | compact (events : List Event)
  | countAppends

namespace Work

def requests : Work → List Request
  | batch first rest => (first :: rest).map .append
  | compact events => [.compact events]
  | countAppends => [.countAppends]

def single : Request → Work
  | .append event => batch event []
  | .compact events => compact events
  | .countAppends => countAppends

end Work

/-! ## Taking requests -/

/-- Takes appends off the front of the queue as long as the next request is there when the writer
looks. Each look uses up one flag, which says whether it is; once the flags have run out, the queue
is always found empty. -/
def takeAppends : List Bool → List Request → List Event × List Bool × List Request
  | true :: ready, .append event :: rest =>
    let (events, ready, rest) := takeAppends ready rest
    (event :: events, ready, rest)
  | _ :: ready, rest => ([], ready, rest)
  | [], rest => ([], [], rest)

theorem takeAppends_append (ready : List Bool) (event : Event) (rest : List Request) :
    takeAppends (true :: ready) (.append event :: rest) =
      (event :: (takeAppends ready rest).1, (takeAppends ready rest).2) := rfl

/-- What was taken and what was left make up the queue. -/
theorem map_append_takeAppends (ready : List Bool) (queue : List Request) :
    (takeAppends ready queue).1.map .append ++ (takeAppends ready queue).2.2 = queue := by
  induction ready generalizing queue with
  | nil => rfl
  | cons flag ready ih =>
    unfold takeAppends
    split
    · next heq =>
        obtain ⟨-, rfl⟩ := List.cons.inj heq
        exact congrArg (_ :: ·) (ih _)
    · rfl
    · rfl

/-- The pieces of work that the writer makes of its queue. It waits for a request, and behind an
append it takes all appends that are there. A request of another kind that it finds instead of one
more append is handled next. -/
def takeUp (ready : List Bool) : List Request → List Work
  | [] => []
  | .append event :: rest =>
    .batch event (takeAppends ready rest).1 ::
      takeUp (takeAppends ready rest).2.1 (takeAppends ready rest).2.2
  | .compact events :: rest => .compact events :: takeUp ready rest
  | .countAppends :: rest => .countAppends :: takeUp ready rest
termination_by queue => queue.length
decreasing_by
  · have h := congrArg List.length (map_append_takeAppends ready rest)
    rw [List.length_append] at h
    rw [List.length_cons]
    omega
  · exact Nat.lt_succ_self _
  · exact Nat.lt_succ_self _

/-! ## Handling work -/

namespace Journal

/-- Appends events one after the other, up to the first that fails. -/
def appendAll (c : Conditions) : List Event → Journal → Except IoError Unit × Journal
  | [], j => (.ok (), j)
  | e :: rest, j =>
    match j.append c e with
    | (.ok (), j) => j.appendAll c rest
    | (.error error, j) => (.error error, j)

/-- Appends events and makes them durable, all or none. -/
def commit (c : Conditions) (events : List Event) (j : Journal) : Except IoError Unit × Journal :=
  match j.appendAll c events with
  | (.ok (), j) => j.flush c
  | (.error e, j) => (.error e, j)

/-- Handles one piece of work, with an answer for each of its requests. -/
def handle (c : Conditions) (work : Work) (j : Journal) : List Response × Journal :=
  match work with
  | .batch first rest =>
    let (result, j) := j.commit c (first :: rest)
    ((first :: rest).map fun _ => .done result, j)
  | .compact events =>
    let (result, j) := j.compact c events
    ([.done result], j)
  | .countAppends => ([.count j.appends], j)

/-- Handles work piece by piece, each under its own conditions. -/
def serve : List (Conditions × Work) → Journal → List Response × Journal
  | [], j => ([], j)
  | (c, work) :: rest, j =>
    let (responses, j) := j.handle c work
    let (more, j) := j.serve rest
    (responses ++ more, j)

end Journal

end Lodging.Log
