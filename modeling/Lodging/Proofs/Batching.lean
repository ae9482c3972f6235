import Mathlib.Data.List.Forall2
import Lodging.Proofs.AllOrNothing

/-!
# Batches of appends

How the writer's queue is cut into batches depends on when it looks at the queue, and nothing else
depends on it. As long as nothing fails, a journal at rest is after any batches what it is after
appends that are made durable one at a time. A batch that fails and is rolled back leaves no trace
but its answers.
-/

namespace Lodging.Log

/-! ## Cutting the queue -/

/-- The looks at the queue after which the writer has taken the pieces of work. -/
def Work.looks : Work → List Bool
  | batch _ rest => rest.map (fun _ => true) ++ [false]
  | _ => []

theorem takeAppends_looks (events : List Event) (ready : List Bool) (queue : List Request) :
    takeAppends (events.map (fun _ => true) ++ [false] ++ ready)
      (events.map .append ++ queue) = (events, ready, queue) := by
  induction events with
  | nil => cases queue <;> rfl
  | cons event rest ih =>
      simp only [List.map_cons, List.cons_append, takeAppends_append, ih]

/-- The pieces of work are made of the whole queue, in its order. -/
theorem requests_takeUp (ready : List Bool) (queue : List Request) :
    (takeUp ready queue).flatMap Work.requests = queue := by
  induction ready, queue using takeUp.induct with
  | case1 ready => simp [takeUp]
  | case2 ready event rest ih =>
      rw [takeUp, List.flatMap_cons, ih]
      exact congrArg (_ :: ·) (map_append_takeAppends ready rest)
  | case3 ready events rest ih => rw [takeUp, List.flatMap_cons, ih]; rfl
  | case4 ready rest ih => rw [takeUp, List.flatMap_cons, ih]; rfl

/-- Every way to cut a queue comes about. -/
theorem takeUp_looks (pieces : List Work) :
    takeUp (pieces.flatMap Work.looks) (pieces.flatMap Work.requests) = pieces := by
  induction pieces with
  | nil => simp [takeUp]
  | cons piece rest ih =>
      cases piece with
      | batch first events =>
          simp only [List.flatMap_cons, Work.looks, Work.requests, List.map_cons, List.cons_append,
            takeUp, takeAppends_looks, ih]
      | compact events =>
          simp only [List.flatMap_cons, Work.looks, Work.requests, List.nil_append,
            List.singleton_append, takeUp, ih]
      | countAppends =>
          simp only [List.flatMap_cons, Work.looks, Work.requests, List.nil_append,
            List.singleton_append, takeUp, ih]

/-! ## Answers -/

/-- The response is of the kind that the request asks for. -/
inductive Request.IsAnsweredBy : Request → Response → Prop
  | append (event : Event) (result : Except IoError Unit) :
      (append event).IsAnsweredBy (.done result)
  | compact (events : List Event) (result : Except IoError Unit) :
      (compact events).IsAnsweredBy (.done result)
  | countAppends (appends : Nat) : countAppends.IsAnsweredBy (.count appends)

/-- The response reports that something failed. -/
def Response.IsError : Response → Prop
  | .done (.error _) => True
  | _ => False

/-- The events that a piece of work writes. -/
def Work.events : Work → List Event
  | batch first rest => first :: rest
  | compact events => events
  | countAppends => []

/-- No step on the disk fails, other than perhaps the rollback of a batch. -/
structure Conditions.Faultless (c : Conditions) : Prop extends c.Accepts where
  snapshotError_eq : c.snapshotError = none
  renameError_eq : c.renameError = none

theorem Conditions.faultless_good : Conditions.good.Faultless where
  toAccepts := accepts_good
  snapshotError_eq := rfl
  renameError_eq := rfl

/-- Handling the requests one at a time, on a disk without faults. -/
def oneByOne (queue : List Request) : List (Conditions × Work) :=
  queue.map fun request => (.good, .single request)

theorem oneByOne_append (first second : List Request) :
    oneByOne (first ++ second) = oneByOne first ++ oneByOne second := List.map_append

namespace Journal

variable {j j' j'' : Journal} {c : Conditions} {work : List (Conditions × Work)} {e : Event}
  {events batch : List Event}

/-! ## Commits that go well -/

/-- The journal is another one with the frames of a batch behind its file, some of them perhaps
still in the buffer. -/
structure Gathers (j' j : Journal) (batch : List Event) : Prop where
  trusted : j'.poisoned = false
  rests : j'.output.Rests j.file (encode batch)
  durableLength_eq : j'.durableLength = j.durableLength
  pendingLength_eq : j'.pendingLength = (encode batch).length
  pendingEvents_eq : j'.pendingEvents = batch.length
  appends_eq : j'.appends = j.appends + batch.length
  fits : ∀ e ∈ batch, e.payload.length < payloadBound

/-- A journal at rest once the events are durable in it. -/
def recording (events : List Event) (j : Journal) : Journal :=
  { j with
    output := ⟨j.file ++ encode events, []⟩
    durableLength := j.durableLength + (encode events).length
    appends := j.appends + events.length }

theorem AtRest.gathers_nil (h : j.AtRest) : j.Gathers j [] where
  trusted := h.trusted
  rests := ⟨List.prefix_rfl, congrArg (j.file ++ ·) h.unwritten_eq⟩
  durableLength_eq := rfl
  pendingLength_eq := h.pendingLength_eq
  pendingEvents_eq := h.pendingEvents_eq
  appends_eq := rfl
  fits := by simp

theorem Gathers.append (h : j'.Gathers j batch) (happend : j'.append c e = (.ok (), j'')) :
    j''.Gathers j (batch ++ [e]) := by
  have houtcome := append_outcome h.trusted c e
  rw [happend] at houtcome
  cases houtcome with
  | taken hfits htakes =>
      obtain ⟨part, -, hrests, hall⟩ := h.rests.takes htakes
      obtain rfl := hall rfl
      have hencode := Carries.encode_append_frame batch e
      refine ⟨h.trusted, hencode ▸ hrests, h.durableLength_eq, ?_, ?_, ?_,
        List.forall_mem_append.mpr ⟨h.fits, List.forall_mem_singleton.mpr hfits⟩⟩
      · rw [hencode, List.length_append, ← h.pendingLength_eq]
      · rw [List.length_append, List.length_singleton, ← h.pendingEvents_eq]
      · rw [List.length_append, List.length_singleton, ← Nat.add_assoc, ← h.appends_eq]

theorem Gathers.appendAll (h : j'.Gathers j batch)
    (happend : j'.appendAll c events = (.ok (), j'')) : j''.Gathers j (batch ++ events) := by
  induction events generalizing j' batch with
  | nil =>
      obtain ⟨-, rfl⟩ := Prod.mk.inj happend
      rwa [List.append_nil]
  | cons e rest ih =>
      rw [Journal.appendAll] at happend
      split at happend
      · next j₁ hfirst =>
          rw [List.append_cons]
          exact ih (h.append hfirst) happend
      · cases happend

theorem Gathers.flush (h : j'.Gathers j batch) (hj : j.AtRest)
    (hflush : j'.flush c = (.ok (), j'')) : j'' = j.recording batch := by
  have houtcome := flush_outcome h.trusted c
  rw [hflush] at houtcome
  cases houtcome with
  | durable hunwritten =>
      obtain ⟨part, hpart, hdrained, -⟩ := h.rests.takes (j'.output.drain_takes c)
      rw [List.prefix_nil.mp hpart, List.append_nil] at hdrained
      simp only [recording, hdrained.eq_of_unwritten hunwritten, h.durableLength_eq,
        h.pendingLength_eq, h.appends_eq, h.trusted, hj.trusted, hj.pendingLength_eq,
        hj.pendingEvents_eq]

namespace AtRest

/-- A good commit adds the frames of its batch to the file and its events to the count. -/
theorem eq_recording_of_commit_ok (h : j.AtRest) (hcommit : j.commit c events = (.ok (), j')) :
    j' = j.recording events ∧ ∀ e ∈ events, e.payload.length < payloadBound := by
  rw [commit] at hcommit
  split at hcommit
  · next j₁ happend =>
      have hgathers := h.gathers_nil.appendAll happend
      exact ⟨hgathers.flush h hcommit, hgathers.fits⟩
  · cases hcommit

theorem recording (h : j.AtRest) (events : List Event) : (j.recording events).AtRest where
  trusted := h.trusted
  unwritten_eq := rfl
  durableLength_eq := by
    simp only [Journal.recording, Journal.file, List.length_append, h.durableLength_eq]
  pendingLength_eq := h.pendingLength_eq
  pendingEvents_eq := h.pendingEvents_eq

theorem commit_of_accepts (h : j.AtRest) (hc : c.Accepts)
    (hevents : ∀ e ∈ events, e.payload.length < payloadBound) :
    j.commit c events = (.ok (), j.recording events) := by
  obtain ⟨j', hcommit⟩ := Journal.commit_of_accepts hc h.trusted hevents
  rw [hcommit, (h.eq_recording_of_commit_ok hcommit).1]

end AtRest

theorem recording_recording (first second : List Event) (j : Journal) :
    (j.recording first).recording second = j.recording (first ++ second) := by
  simp only [recording, file, encode, List.flatMap_append, List.length_append, List.append_assoc,
    Nat.add_assoc]

/-- A journal at rest once the given events have taken the place of its log. -/
def replacedBy (events : List Event) (j : Journal) : Journal :=
  { j with
    output := ⟨encode events, []⟩
    durableLength := (encode events).length
    appends := 0 }

theorem AtRest.eq_replacedBy_of_compact_ok (h : j.AtRest)
    (hcompact : j.compact c events = (.ok (), j')) :
    j' = j.replacedBy events ∧ ∀ e ∈ events, e.payload.length < payloadBound := by
  rw [compact_eq_of_nothing_pending h.trusted h.pendingEvents_eq] at hcompact
  rcases replaceBy_cases c events j with ⟨log, hwritten, heq⟩ | ⟨cause, heq⟩
  · obtain ⟨rfl, hfits⟩ := eq_encode_of_writeSnapshot hwritten
    refine ⟨(congrArg Prod.snd (hcompact.symm.trans heq)).trans ?_, hfits⟩
    rw [replacedBy, h.pendingLength_eq]
  · cases hcompact.symm.trans heq

theorem AtRest.replacedBy (h : j.AtRest) (events : List Event) : (j.replacedBy events).AtRest where
  trusted := h.trusted
  unwritten_eq := rfl
  durableLength_eq := rfl
  pendingLength_eq := h.pendingLength_eq
  pendingEvents_eq := h.pendingEvents_eq

theorem AtRest.compact_of_faultless (h : j.AtRest) (hc : c.Faultless)
    (hevents : ∀ e ∈ events, e.payload.length < payloadBound) :
    j.compact c events = (.ok (), j.replacedBy events) := by
  have hsmall : ¬ (events.any fun e => decide (payloadBound ≤ e.payload.length)) = true := by
    intro hlarge
    obtain ⟨e, he, hle⟩ := List.any_eq_true.mp hlarge
    exact Nat.not_le_of_lt (hevents e he) (of_decide_eq_true hle)
  have hwritten : writeSnapshot c events = .ok (encode events) := by
    simp only [writeSnapshot, hc.snapshotError_eq, if_neg hsmall, fitting_of_accepts hc.toAccepts,
      Nat.lt_irrefl, if_false]
  obtain ⟨j', hcompact⟩ : ∃ j', j.compact c events = (.ok (), j') := by
    rw [compact_eq_of_nothing_pending h.trusted h.pendingEvents_eq]
    simp only [replaceBy, hwritten, hc.renameError_eq]
    exact ⟨_, rfl⟩
  rw [hcompact, (h.eq_replacedBy_of_compact_ok hcompact).1]

/-! ## Handling work -/

theorem serve_append (first second : List (Conditions × Work)) (j : Journal) :
    j.serve (first ++ second) =
      ((j.serve first).1 ++ ((j.serve first).2.serve second).1,
        ((j.serve first).2.serve second).2) := by
  induction first generalizing j with
  | nil => rfl
  | cons piece rest ih => simp only [List.cons_append, serve, ih, List.append_assoc]

theorem isAnsweredBy_handle (c : Conditions) (piece : Work) (j : Journal) :
    List.Forall₂ Request.IsAnsweredBy piece.requests (j.handle c piece).1 := by
  cases piece with
  | batch first rest =>
      refine List.forall₂_map_left_iff.mpr (List.forall₂_map_right_iff.mpr ?_)
      exact List.forall₂_same.mpr fun event _ => .append event _
  | compact events => exact .cons (.compact events _) .nil
  | countAppends => exact .cons (.countAppends _) .nil

/-- Every request of the work gets one response, in the order of the requests. -/
theorem isAnsweredBy_serve (work : List (Conditions × Work)) (j : Journal) :
    List.Forall₂ Request.IsAnsweredBy (work.flatMap (·.2.requests)) (j.serve work).1 := by
  induction work generalizing j with
  | nil => exact .nil
  | cons piece rest ih =>
      exact List.rel_append (isAnsweredBy_handle piece.1 piece.2 j) (ih _)

namespace AtRest

theorem recording_nil (h : j.AtRest) : j.recording [] = j :=
  h.eq_of_file_eq (h.recording []) (List.append_nil _) rfl

/-- Appends that are handled one at a time leave the same journal as one batch of them. -/
theorem serve_oneByOne_appends (h : j.AtRest)
    (hevents : ∀ e ∈ events, e.payload.length < payloadBound) :
    j.serve (oneByOne (events.map .append)) =
      (events.map fun _ => .done (.ok ()), j.recording events) := by
  induction events generalizing j with
  | nil => rw [h.recording_nil]; rfl
  | cons e rest ih =>
      obtain ⟨hfits, hrest⟩ := List.forall_mem_cons.mp hevents
      have hfirst := h.commit_of_accepts Conditions.accepts_good
        (List.forall_mem_singleton.mpr hfits)
      have hrest := ih (h.recording [e]) hrest
      rw [recording_recording] at hrest
      simp only [oneByOne, List.map_cons, Work.single, serve, handle, hfirst,
        List.map_nil] at hrest ⊢
      rw [hrest]
      rfl

/-- A piece of work that goes well is as good as its requests one by one. -/
theorem handle_eq (h : j.AtRest) {piece : Work}
    (hgood : ∀ response ∈ (j.handle c piece).1, ¬ response.IsError) :
    j.handle c piece = j.serve (oneByOne piece.requests) ∧ (j.handle c piece).2.AtRest := by
  cases piece with
  | batch first rest =>
      rcases hcommit : j.commit c (first :: rest) with ⟨error | ⟨⟩, j'⟩
      · simp only [handle, hcommit, List.map_cons, List.mem_cons, forall_eq_or_imp] at hgood
        exact absurd trivial hgood.1
      · obtain ⟨rfl, hevents⟩ := h.eq_recording_of_commit_ok hcommit
        simp only [handle, hcommit, Work.requests, h.serve_oneByOne_appends hevents, true_and]
        exact h.recording _
  | compact events =>
      rcases hcompact : j.compact c events with ⟨error | ⟨⟩, j'⟩
      · simp only [handle, hcompact, List.mem_singleton, forall_eq] at hgood
        exact absurd trivial hgood
      · obtain ⟨rfl, hevents⟩ := h.eq_replacedBy_of_compact_ok hcompact
        simp only [handle, hcompact, Work.requests, oneByOne, List.map_cons, List.map_nil,
          Work.single, serve, h.compact_of_faultless Conditions.faultless_good hevents,
          List.append_nil, true_and]
        exact h.replacedBy events
  | countAppends => exact ⟨rfl, h⟩

/-- Work that goes well is as good as its requests one by one. -/
theorem serve_eq (h : j.AtRest)
    (hgood : ∀ response ∈ (j.serve work).1, ¬ response.IsError) :
    j.serve work = j.serve (oneByOne (work.flatMap (·.2.requests))) := by
  induction work generalizing j with
  | nil => rfl
  | cons piece rest ih =>
      obtain ⟨c, piece⟩ := piece
      simp only [serve, List.mem_append] at hgood
      obtain ⟨hpiece, hrest⟩ := h.handle_eq fun response hmem => hgood response (.inl hmem)
      have hmore := ih hrest fun response hmem => hgood response (.inr hmem)
      rw [List.flatMap_cons, oneByOne_append, serve_append, ← hpiece, ← hmore]
      rfl

/-- Work goes well on a disk without faults, if its events fit a frame. -/
theorem not_isError_of_faultless (h : j.AtRest)
    (hwork : ∀ piece ∈ work, piece.1.Faultless ∧
      ∀ e ∈ piece.2.events, e.payload.length < payloadBound) :
    ∀ response ∈ (j.serve work).1, ¬ response.IsError := by
  induction work generalizing j with
  | nil => simp [serve]
  | cons piece rest ih =>
      obtain ⟨c, piece⟩ := piece
      obtain ⟨hc, hevents⟩ := hwork _ List.mem_cons_self
      have hpiece : ∀ response ∈ (j.handle c piece).1, ¬ response.IsError := by
        cases piece with
        | batch first more =>
            have hevents : ∀ e ∈ first :: more, e.payload.length < payloadBound := hevents
            rw [handle, h.commit_of_accepts hc.toAccepts hevents]
            simp [Response.IsError]
        | compact events =>
            have hevents : ∀ e ∈ events, e.payload.length < payloadBound := hevents
            rw [handle, h.compact_of_faultless hc hevents]
            simp [Response.IsError]
        | countAppends => simp [handle, Response.IsError]
      have hrest := ih (h.handle_eq hpiece).2 fun piece hmem =>
        hwork piece (List.mem_cons_of_mem _ hmem)
      intro response hmem
      exact (List.mem_append.mp hmem).elim (hpiece response) (hrest response)

end AtRest

/-! ## Batches that fail -/

theorem Idle.handle (h : j.Idle) (c : Conditions) (piece : Work) : (j.handle c piece).2.Idle := by
  cases piece with
  | batch first rest =>
      simp only [Journal.handle]
      rcases h with hpoisoned | ⟨kept, hcarries⟩
      · rw [commit_of_poisoned hpoisoned]
        exact .inl hpoisoned
      · rcases hcarries.commit_cases c (first :: rest) with
          ⟨j', heq, hcarries'⟩ | ⟨error, j', heq, hrecovers⟩
        · rw [heq]
          exact .inr ⟨_, hcarries'⟩
        · rw [heq]
          exact hrecovers.idle
  | compact events =>
      simp only [Journal.handle]
      rcases hcompact : j.compact c events with ⟨error | ⟨⟩, j'⟩
      · exact (h.compact_error hcompact).1
      · exact (h.compact_ok hcompact).1
  | countAppends => exact h

theorem Idle.serve (h : j.Idle) (work : List (Conditions × Work)) : (j.serve work).2.Idle := by
  induction work generalizing j with
  | nil => exact h
  | cons piece rest ih => exact ih (h.handle piece.1 piece.2)

/-- A batch that fails and is cut off is as good as never sent, other than that each of its events
gets the error for an answer. -/
theorem Idle.serve_of_commit_error (h : j.Idle) {before after : List (Conditions × Work)}
    {first : Event} {rest : List Event} {error : IoError}
    (hcommit : (j.serve before).2.commit c (first :: rest) = (.error error, j'))
    (hcut : j'.poisoned = false) :
    j' = (j.serve before).2 ∧
      (j.serve (before ++ (c, .batch first rest) :: after)).2 = (j.serve (before ++ after)).2 ∧
      ∃ earlier later, (j.serve (before ++ after)).1 = earlier ++ later ∧
        (j.serve (before ++ (c, .batch first rest) :: after)).1 =
          earlier ++ List.replicate (rest.length + 1) (.done (.error error)) ++ later ∧
        earlier.length = (before.flatMap (·.2.requests)).length := by
  obtain rfl := (h.serve before).eq_of_commit_error hcommit fun _ => hcut
  have hanswers : (first :: rest).map (fun _ => Response.done (.error error)) =
      List.replicate (rest.length + 1) (.done (.error error)) := List.map_const'
  have hserve : (j.serve before).2.serve ((c, .batch first rest) :: after) =
      (List.replicate (rest.length + 1) (.done (.error error)) ++
        ((j.serve before).2.serve after).1, ((j.serve before).2.serve after).2) := by
    rw [Journal.serve, Journal.handle, hcommit]
    simp only [hanswers]
  simp only [serve_append, hserve, List.append_assoc, true_and]
  exact ⟨_, _, rfl, rfl, (isAnsweredBy_serve before j).length_eq.symm⟩

/-- However the writer's queue is cut into batches, every request gets one answer. As long as none
of them is an error, they and the journal are those of the requests handled one at a time; on a disk
without faults, none is. A batch that fails and is cut off leaves everything else as if it had never
been sent. By `takeUp_looks` every cut of the queue comes about for some `ready`. -/
theorem serve_takeUp (file : Bytes) (queue : List Request) (ready : List Bool)
    (work : List (Conditions × Work)) (htaken : work.map Prod.snd = takeUp ready queue) :
    let j := Journal.recover file
    List.Forall₂ Request.IsAnsweredBy queue (j.serve work).1 ∧
      ((∀ response ∈ (j.serve work).1, ¬ response.IsError) →
        j.serve work = j.serve (oneByOne queue)) ∧
      ((∀ piece ∈ work, piece.1.Faultless ∧
          ∀ e ∈ piece.2.events, e.payload.length < payloadBound) →
        ∀ response ∈ (j.serve work).1, ¬ response.IsError) ∧
      ∀ before c first rest after error j', work = before ++ (c, .batch first rest) :: after →
        (j.serve before).2.commit c (first :: rest) = (.error error, j') → j'.poisoned = false →
        j' = (j.serve before).2 ∧
          (j.serve work).2 = (j.serve (before ++ after)).2 ∧
          ∃ earlier later, (j.serve (before ++ after)).1 = earlier ++ later ∧
            (j.serve work).1 =
              earlier ++ List.replicate (rest.length + 1) (.done (.error error)) ++ later ∧
            earlier.length = (before.flatMap (·.2.requests)).length := by
  intro j
  have hcarries : j.Carries (Log.recover file).events [] := carries_recover file
  have hqueue : work.flatMap (·.2.requests) = queue := by
    rw [← requests_takeUp ready queue, ← htaken, List.flatMap_map]
  refine ⟨hqueue ▸ isAnsweredBy_serve work j, fun hgood => hqueue ▸ hcarries.atRest.serve_eq hgood,
    hcarries.atRest.not_isError_of_faultless, ?_⟩
  rintro before c first rest after error j' rfl hcommit hcut
  exact Idle.serve_of_commit_error (.inr ⟨_, hcarries⟩) hcommit hcut

/-- The disk fills up while a batch of two is written, and the count is asked for right behind. -/
theorem serve_takeUp_of_full_disk :
    let queue : List Request :=
      [.append (.userDeleted .zero), .append (.bookingCanceled .zero .zero),
        .append (.hotelUpdated .zero {}), .countAppends]
    let full : Conditions := { capacity := some 60 }
    let work : List (Conditions × Work) :=
      [(.good, .batch (.userDeleted .zero) []),
        (full, .batch (.bookingCanceled .zero .zero) [.hotelUpdated .zero {}]),
        (.good, .countAppends)]
    let failed : Response := .done (.error full.writeError)
    work.map Prod.snd = takeUp [false, true, true] queue ∧
      ((Journal.recover []).serve work).1 = [.done (.ok ()), failed, failed, .count 1] ∧
      Log.recover ((Journal.recover []).serve work).2.file =
        ⟨[.userDeleted .zero], 52, false⟩ := by
  intro queue full work failed
  have htaken : work.map Prod.snd = takeUp [false, true, true] queue := by
    simp [work, queue, takeUp, takeAppends]
  have hempty : Log.recover [] = ⟨[], 0, false⟩ := Holds.nil.recover
  have hopen : Journal.recover [] = Journal.openAt [] 0 := by rw [Journal.recover, hempty]
  have h := serve_takeUp [] queue [false, true, true] work htaken
  rw [hopen] at h ⊢
  let before : List (Conditions × Work) := [(.good, .batch (.userDeleted .zero) [])]
  let first := (Journal.openAt [] 0).recording [.userDeleted .zero]
  have hbefore : (Journal.openAt [] 0).serve before = ([.done (.ok ())], first) := by
    have hcommit : (Journal.openAt [] 0).commit .good [.userDeleted .zero] = (.ok (), first) := by
      decide +kernel
    simp only [before, serve, handle, hcommit, List.map_cons, List.map_nil, List.append_nil]
  have hcommit : first.commit full [.bookingCanceled .zero .zero, .hotelUpdated .zero {}] =
      (.error full.writeError, first) := by decide +kernel
  -- The count comes out as if the batch that failed had never been sent.
  have hothers : (Journal.openAt [] 0).serve (before ++ [(.good, .countAppends)]) =
      ([.done (.ok ()), .count 1], first) := by
    rw [serve_append, hbefore]
    rfl
  obtain ⟨-, hjournal, earlier, later, heach, hanswers, hlength⟩ :=
    h.2.2.2 before full _ _ [(.good, .countAppends)] _ _ rfl (by rw [hbefore, hcommit]) rfl
  rw [hothers] at hjournal heach
  obtain ⟨answer, rfl⟩ := List.length_eq_one_iff.mp hlength
  obtain ⟨rfl, rfl⟩ := List.cons.inj heach
  refine ⟨htaken, hanswers, ?_⟩
  have hholds : Holds first.file [.userDeleted .zero] := .append .nil (.frame (by decide +kernel))
  rw [hjournal, hholds.recover]
  decide +kernel

end Journal

end Lodging.Log
