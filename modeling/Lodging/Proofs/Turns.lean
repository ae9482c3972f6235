import Lodging.Engine.Batch
import Lodging.Proofs.Refusals

/-!
# Turns

Whatever is asked of an engine, alone or together with other things, comes to a sequence of turns.
In each of them a change is decided, a batch of events is committed, a change is concluded, the log
is compacted, a listing is counted, or the engine is opened again. What every turn preserves, all
calls preserve.
-/

namespace Lodging.Engine

open Log (Bytes Conditions)

/-- One of the things that calls are made of. -/
inductive Turn
  | decide (m : Moment) (change : Change)
  | commit (c : Conditions) (events : List Event)
  | conclude (change : Change) (event : Event) (result : Except IoError Unit)
  | compact (c : Conditions)
  | list (strategy : PagingStrategy)
  | reopen (file : Bytes)

/-- The engine after one turn. -/
def turn (e : Engine) : Turn → Engine
  | .decide m change => (e.propose m change).2
  | .commit c events => (e.commit c events).2
  | .conclude change event result => (e.conclude change event result).2
  | .compact c => (e.compact c).2
  | .list strategy => e.countListing strategy
  | .reopen file => e.reopenOn file

/-- The engine after several turns. -/
def turnAll (e : Engine) (turns : List Turn) : Engine := turns.foldl turn e

/-- Turns lead from one engine to the other. -/
def Leads (e e' : Engine) : Prop := ∃ turns, e.turnAll turns = e'

variable {e e' e'' : Engine}

namespace Leads

theorem refl (e : Engine) : e.Leads e := ⟨[], rfl⟩

theorem turn (e : Engine) (t : Turn) : e.Leads (e.turn t) := ⟨[t], rfl⟩

theorem trans (h : e.Leads e') (h' : e'.Leads e'') : e.Leads e'' := by
  obtain ⟨turns, rfl⟩ := h
  obtain ⟨turns', rfl⟩ := h'
  exact ⟨turns ++ turns', List.foldl_append⟩

end Leads

/-! ## Changes one at a time -/

theorem leads_propose (e : Engine) (m : Moment) (change : Change) :
    e.Leads (e.propose m change).2 :=
  .turn e (.decide m change)

theorem leads_commit (e : Engine) (c : Conditions) (events : List Event) :
    e.Leads (e.commit c events).2 :=
  .turn e (.commit c events)

theorem leads_conclude (e : Engine) (change : Change) (event : Event)
    (result : Except IoError Unit) : e.Leads (e.conclude change event result).2 :=
  .turn e (.conclude change event result)

theorem leads_compact (e : Engine) (c : Conditions) : e.Leads (e.compact c).2 :=
  .turn e (.compact c)

theorem leads_perform (e : Engine) (c : Conditions) (m : Moment) (change : Change) :
    e.Leads (e.perform c m change).2 := by
  have hpropose := e.leads_propose m change
  unfold perform
  split
  · next heq => rwa [heq] at hpropose
  · next heq => rwa [heq] at hpropose
  · next event e' heq =>
      rw [heq] at hpropose
      exact (hpropose.trans (e'.leads_commit c [event])).trans (leads_conclude _ change event _)

theorem leads_after (e : Engine) (action : Action) : e.Leads (e.after action) := by
  cases action with
  | change c m change => exact e.leads_perform c m change
  | compact c => exact e.leads_compact c
  | reopen c bytes => exact .turn e (.reopen ((e.close c).take bytes))

theorem leads_run (e : Engine) (actions : List Action) : e.Leads (e.run actions) := by
  induction actions generalizing e with
  | nil => exact .refl e
  | cons action rest ih => exact (e.leads_after action).trans (ih (e.after action))

theorem leads_compactIfDue (e : Engine) (c : Conditions) (threshold : Nat) :
    e.Leads (e.compactIfDue c threshold).2 := by
  rcases e.compactIfDue_cases c threshold with heq | heq
  · rw [heq]
    exact .refl e
  · rw [heq]
    exact e.leads_compact c

theorem leads_afterCall (e : Engine) (call : Call) : e.Leads (e.afterCall call) := by
  cases call with
  | change c m change => exact e.leads_perform c m change
  | compact c => exact e.leads_compact c
  | compactIfDue c threshold => exact e.leads_compactIfDue c threshold
  | listRoomsAfter today filter page =>
      simp only [afterCall, listRoomsAfter]
      split
      · exact .refl e
      · exact .turn e (.list .cursor)

theorem leads_listRooms (e : Engine) (today : Day) (filter : List RoomStatus)
    (page : NumberedPage) : e.Leads (e.listRooms today filter page).2 :=
  .turn e (.list .numeric)

/-! ## Changes side by side -/

theorem leads_startOne (e : Engine) (m : Moment) (taken : List RecordId) (change : Change) :
    e.Leads (e.startOne m taken change).2 := by
  have hpropose := e.leads_propose m change
  unfold startOne
  split
  · exact .refl e
  · split
    · next heq => rwa [heq] at hpropose
    · next heq => rwa [heq] at hpropose
    · next heq => rwa [heq] at hpropose

theorem leads_start (m : Moment) (taken : List RecordId) (batch : List Progress) (e : Engine) :
    e.Leads (start m taken batch e).2 := by
  induction batch generalizing taken e with
  | nil => exact .refl e
  | cons p rest ih =>
      cases p with
      | waiting change => exact (e.leads_startOne m taken change).trans (ih _ _)
      | writing change event => exact ih taken e
      | answered result => exact ih taken e

theorem leads_finish (result : Except IoError Unit) (batch : List Progress) (e : Engine) :
    e.Leads (finish result batch e).2 := by
  induction batch generalizing e with
  | nil => exact .refl e
  | cons p rest ih =>
      cases p with
      | waiting change => exact ih e
      | writing change event => exact (e.leads_conclude change event result).trans (ih _)
      | answered result => exact ih e

theorem leads_write (c : Conditions) (batch : List Progress) (e : Engine) :
    e.Leads (write c batch e).2 := by
  unfold write
  split
  · exact .refl e
  · exact (e.leads_commit c _).trans (leads_finish _ batch _)

theorem leads_rounds (c : Conditions) (m : Moment) (batch : List Progress) (e : Engine) :
    e.Leads (rounds c m batch e).2 := by
  induction batch, e using rounds.induct c m with
  | case1 batch e hdone =>
      rw [rounds, if_pos hdone]
      exact leads_write c batch e
  | case2 batch e written hwaiting started ih =>
      rw [rounds, if_neg hwaiting]
      exact ((leads_write c batch e).trans (leads_start m [] _ _)).trans ih

theorem leads_lookAhead (e : Engine) (m : Moment) (change : Change) :
    e.Leads (e.lookAhead m change).2 := by
  unfold lookAhead
  split
  · split
    · exact .refl e
    · exact .refl e
  · exact e.leads_startOne m [] change

theorem leads_lookAheadAll (m : Moment) (changes : List Change) (e : Engine) :
    e.Leads (lookAheadAll m changes e).2 := by
  induction changes generalizing e with
  | nil => exact .refl e
  | cons change rest ih => exact (e.leads_lookAhead m change).trans (ih _)

theorem leads_lookAheadLists (m : Moment) (later : List (List Change)) (e : Engine) :
    e.Leads (lookAheadLists m later e).2 := by
  induction later generalizing e with
  | nil => exact .refl e
  | cons changes rest ih => exact (leads_lookAheadAll m changes e).trans (ih _)

theorem leads_stages (c : Conditions) (m : Moment) (batches : List (List Progress)) (e : Engine) :
    e.Leads (stages c m batches e).2 := by
  induction batches generalizing e with
  | nil => exact .refl e
  | cons batch rest ih =>
      exact (((e.leads_compact c).trans (leads_start m [] batch _)).trans
        (leads_rounds c m _ _)).trans (ih _)

theorem leads_performAll (e : Engine) (c : Conditions) (m : Moment) (changes : List Change)
    (later : List (List Change)) : e.Leads (e.performAll c m changes later).2 :=
  (((leads_start m [] (changes.map .waiting) e).trans (leads_lookAheadLists m later _)).trans
    (leads_rounds c m _ _)).trans (leads_stages c m _ _)

end Lodging.Engine
