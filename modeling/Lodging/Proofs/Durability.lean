import Lodging.Log.GroupCommit
import Lodging.Proofs.FrameScan

/-!
# What the journal keeps

A write takes some of the front of a piece and nothing else, so a file that begins with certain
bytes goes on to begin with them. From this follows what a journal keeps: a failed batch leaves the
durable part as it was, or, where it could not be cut off, some of its front behind that part. The
account of a run follows the answers alone, and the file always agrees with it.
-/

namespace Lodging.Log

/-! ## Buffered writes -/

namespace Output

/-- The bytes of the file once the buffer is written out. -/
def contents (o : Output) : Bytes := o.file ++ o.unwritten

/-- A write of `piece` leads from `o` to `o'`: the file only grows, and some of the front of the
piece, or all of it, stands behind what was there. -/
structure Takes (o o' : Output) (piece : Bytes) (all : Bool) : Prop where
  file_isPrefix : o.file <+: o'.file
  contents_eq : ∃ part, part <+: piece ∧ o'.contents = o.contents ++ part ∧
    (all = true → part = piece)

theorem Takes.trans {o o' o'' : Output} {first second : Bytes} {all : Bool}
    (hfirst : o.Takes o' first true) (hsecond : o'.Takes o'' second all) :
    o.Takes o'' (first ++ second) all := by
  obtain ⟨part, _, hcontents, hall⟩ := hfirst.contents_eq
  obtain ⟨part', hpart', hcontents', hall'⟩ := hsecond.contents_eq
  obtain rfl := hall rfl
  refine ⟨hfirst.file_isPrefix.trans hsecond.file_isPrefix, part ++ part', ?_, ?_, ?_⟩
  · exact (List.prefix_append_right_inj part).mpr hpart'
  · rw [hcontents', hcontents, List.append_assoc]
  · exact fun h => congrArg (part ++ ·) (hall' h)

theorem drain_takes (c : Conditions) (o : Output) : o.Takes (o.drain c) [] true := by
  refine ⟨⟨_, rfl⟩, [], List.prefix_rfl, ?_, fun _ => rfl⟩
  simp only [contents, drain, List.append_assoc, List.take_append_drop, List.append_nil]

theorem place_takes (c : Conditions) (piece : Bytes) {o : Output}
    (hempty : bufferSize ≤ piece.length → o.unwritten = []) :
    o.Takes (o.place c piece).2 piece (o.place c piece).1 := by
  unfold place
  split
  · next hlarge =>
      refine ⟨⟨_, rfl⟩, piece.take (c.fitting o.file.length piece.length),
        List.take_prefix _ _, ?_, ?_⟩
      · simp only [contents, writeThrough, hempty hlarge, List.append_nil]
      · intro hall
        rw [show c.fitting o.file.length piece.length = piece.length from of_decide_eq_true hall]
        exact List.take_length
  · exact ⟨List.prefix_rfl, piece, List.prefix_rfl, (List.append_assoc ..).symm, fun _ => rfl⟩

theorem write_takes (c : Conditions) (piece : Bytes) (o : Output) :
    o.Takes (o.write c piece).2 piece (o.write c piece).1 := by
  have hdrain := o.drain_takes c
  unfold write
  split
  · simp only
    split
    · next hdrained => exact hdrain.trans (place_takes c piece fun _ => hdrained)
    · refine ⟨hdrain.file_isPrefix, [], List.nil_prefix, ?_, by simp⟩
      obtain ⟨part, hpart, hcontents, -⟩ := hdrain.contents_eq
      rw [hcontents, List.prefix_nil.mp hpart]
  · next hfits =>
      -- A large piece fits only if nothing waits in the buffer.
      refine place_takes c piece fun hlarge => List.eq_nil_of_length_eq_zero ?_
      unfold spare at hfits
      simp only [bufferSize] at *
      omega

theorem writeAll_takes (c : Conditions) (pieces : List Bytes) (o : Output) :
    o.Takes (o.writeAll c pieces).2 pieces.flatten (o.writeAll c pieces).1 := by
  induction pieces generalizing o with
  | nil => exact ⟨List.prefix_rfl, [], List.prefix_rfl, (List.append_nil _).symm, fun _ => rfl⟩
  | cons piece rest ih =>
      have hpiece := o.write_takes c piece
      unfold writeAll
      split
      · next o' heq =>
          rw [heq] at hpiece
          exact hpiece.trans (ih o')
      · next o' heq =>
          rw [heq] at hpiece
          obtain ⟨part, hpart, hcontents, -⟩ := hpiece.contents_eq
          exact ⟨hpiece.file_isPrefix, part, hpart.trans (List.prefix_append _ _), hcontents,
            by simp⟩

/-- The file begins with `base`, and `more` follows it once the buffer is written out. -/
structure Rests (o : Output) (base more : Bytes) : Prop where
  base_isPrefix : base <+: o.file
  contents_eq : o.contents = base ++ more

namespace Rests

variable {o o' : Output} {base more piece : Bytes} {all : Bool}

theorem takes (h : o.Rests base more) (htakes : o.Takes o' piece all) :
    ∃ part, part <+: piece ∧ o'.Rests base (more ++ part) ∧ (all = true → part = piece) := by
  obtain ⟨part, hpart, hcontents, hall⟩ := htakes.contents_eq
  refine ⟨part, hpart, ⟨h.base_isPrefix.trans htakes.file_isPrefix, ?_⟩, hall⟩
  rw [hcontents, h.contents_eq, List.append_assoc]

/-- What already stands in the file behind the base. -/
theorem exists_file_eq (h : o.Rests base more) :
    ∃ part, part <+: more ∧ o.file = base ++ part := by
  obtain ⟨part, hfile⟩ := h.base_isPrefix
  refine ⟨part, ⟨o.unwritten, ?_⟩, hfile.symm⟩
  have hcontents := h.contents_eq
  rw [contents, ← hfile, List.append_assoc] at hcontents
  exact List.append_cancel_left hcontents

theorem eq_of_unwritten (h : o.Rests base more) (hunwritten : o.unwritten = []) :
    o = ⟨base ++ more, []⟩ := by
  have hcontents := h.contents_eq
  rw [contents, hunwritten, List.append_nil] at hcontents
  rw [← hcontents, ← hunwritten]

theorem take_file (h : o.Rests base more) : o.file.take base.length = base := by
  obtain ⟨part, -, hfile⟩ := h.exists_file_eq
  rw [hfile, List.take_left]

end Rests

end Output

/-! ## What a journal carries -/

namespace Journal

/-- The durable part of the file holds `kept`, and behind it come the frames of `buffered`, some of
them perhaps still in the buffer. -/
structure Carries (j : Journal) (kept buffered : List Event) : Prop where
  trusted : j.poisoned = false
  durable : ∃ base, base.length = j.durableLength ∧ Holds base kept ∧
    j.output.Rests base (encode buffered)
  sound : ∀ e ∈ buffered, e.payload.length < payloadBound
  pendingLength_eq : j.pendingLength = (encode buffered).length
  pendingEvents_eq : j.pendingEvents = buffered.length

/-- The journal takes nothing any more, and behind frames of `kept` there may be left some of the
front of the frames of `lost`, in the file or in the buffer. -/
structure Spoiled (j : Journal) (kept lost : List Event) : Prop where
  poisoned : j.poisoned = true
  sound : ∀ e ∈ lost, e.payload.length < payloadBound
  left : ∃ base part, Holds base kept ∧ part <+: encode lost ∧ j.output.Rests base part

/-- After a failed batch the journal carries what it kept before, unless it is spoiled by a fault of
the rollback; then some of the batch may be left. -/
def Recovers (c : Conditions) (j : Journal) (kept batch : List Event) : Prop :=
  j.Carries kept [] ∨ c.rollbackFault ≠ none ∧ ∃ lost, lost <+: batch ∧ j.Spoiled kept lost

theorem Recovers.mono {c : Conditions} {j : Journal} {kept batch batch' : List Event}
    (h : j.Recovers c kept batch) (hbatch : batch <+: batch') : j.Recovers c kept batch' := by
  refine h.imp_right fun ⟨hfault, lost, hlost, hspoiled⟩ => ?_
  exact ⟨hfault, lost, hlost.trans hbatch, hspoiled⟩

theorem carries_emptied {j : Journal} {base : Bytes} {kept : List Event}
    (htrusted : j.poisoned = false) (hlength : base.length = j.durableLength)
    (hbase : Holds base kept) (houtput : j.output = ⟨base, []⟩) (hpending : j.pendingLength = 0)
    (hevents : j.pendingEvents = 0) : j.Carries kept [] where
  trusted := htrusted
  durable := ⟨base, hlength, hbase, by rw [houtput]; exact ⟨List.prefix_rfl, rfl⟩⟩
  sound := by simp
  pendingLength_eq := hpending
  pendingEvents_eq := hevents

theorem discardPending_recovers {j : Journal} {base more : Bytes} {kept lost batch : List Event}
    (c : Conditions) (htrusted : j.poisoned = false) (hlength : base.length = j.durableLength)
    (hbase : Holds base kept) (hrests : j.output.Rests base more) (hmore : more <+: encode lost)
    (hsound : ∀ e ∈ lost, e.payload.length < payloadBound) (hlost : lost <+: batch) :
    (j.discardPending c).Recovers c kept batch := by
  obtain ⟨part, hpart, hfile⟩ := hrests.exists_file_eq
  have htake : j.file.take j.durableLength = base := hlength ▸ hrests.take_file
  have houtput : (⟨j.file.take j.durableLength, []⟩ : Output) = ⟨base, []⟩ := by rw [htake]
  have hemptied : (⟨j.file, []⟩ : Output).Rests base part :=
    ⟨hrests.base_isPrefix, by rw [Output.contents, List.append_nil]; exact hfile⟩
  have hcut : (⟨base, []⟩ : Output).Rests base [] := ⟨List.prefix_rfl, rfl⟩
  have hpart := hpart.trans hmore
  have hspoiled {j' : Journal} {left : Bytes} (hpoisoned : j'.poisoned = true)
      (hleft : left <+: encode lost) (hrests' : j'.output.Rests base left) :
      ∃ lost, lost <+: batch ∧ j'.Spoiled kept lost :=
    ⟨lost, hlost, hpoisoned, hsound, base, left, hbase, hleft, hrests'⟩
  -- Each step of the rollback may be the one that fails.
  simp only [discardPending, cutBack]
  split
  · exact .inl (carries_emptied htrusted hlength hbase houtput rfl rfl)
  · next hfault => exact .inr ⟨by simp [hfault], hspoiled rfl hmore hrests⟩
  · next hfault => exact .inr ⟨by simp [hfault], hspoiled rfl hpart hemptied⟩
  · next hfault =>
      split
      · exact .inr ⟨by simp [hfault], hspoiled rfl hpart hemptied⟩
      · exact .inl (carries_emptied htrusted hlength hbase houtput rfl rfl)
  · next hfault =>
      split
      · refine .inr ⟨by simp [hfault], hspoiled rfl List.nil_prefix ?_⟩
        simp only [Journal.file] at htake ⊢
        rw [htake]
        exact hcut
      · exact .inl (carries_emptied htrusted hlength hbase houtput rfl rfl)

/-- What an append comes to while the journal is trusted: the frame of the event goes to the output,
or the batch is thrown away, perhaps with some of that frame. -/
inductive AppendOutcome (c : Conditions) (e : Event) (j : Journal) :
    Except IoError Unit × Journal → Prop
  | taken {output : Output} (hfits : e.payload.length < payloadBound)
      (htakes : j.output.Takes output e.frame true) :
      AppendOutcome c e j (.ok (), { j with
        output
        pendingLength := j.pendingLength + e.frame.length
        pendingEvents := j.pendingEvents + 1
        appends := j.appends + 1 })
  | tooLarge : AppendOutcome c e j (.error .eventTooLarge, j.discardPending c)
  | cut {output : Output} (hfits : e.payload.length < payloadBound)
      (htakes : j.output.Takes output e.frame false) :
      AppendOutcome c e j (.error c.writeError, { j with output }.discardPending c)

theorem append_outcome {j : Journal} (h : j.poisoned = false) (c : Conditions) (e : Event) :
    AppendOutcome c e j (j.append c e) := by
  have htakes := j.output.writeAll_takes c [littleEndian 4 e.payload.length, e.payload,
    littleEndian 4 (Checksum.crc32 e.payload).toNat]
  -- The three writes of an append make up the frame of its event.
  have hframe : [littleEndian 4 e.payload.length, e.payload,
      littleEndian 4 (Checksum.crc32 e.payload).toNat].flatten = e.frame := by
    simp [Event.frame]
  rw [hframe] at htakes
  rw [append, if_neg (by rw [h]; exact Bool.false_ne_true)]
  split
  · exact .tooLarge
  · next hbound =>
      have hfits : e.payload.length < payloadBound := Nat.lt_of_not_le hbound
      simp only
      split
      · next output heq =>
          rw [heq] at htakes
          exact .taken hfits htakes
      · next output heq =>
          rw [heq] at htakes
          exact .cut hfits htakes

/-- What a flush comes to while the journal is trusted: all that waits goes to the file, or the
batch is thrown away, perhaps with some of it there. -/
inductive FlushOutcome (c : Conditions) (j : Journal) : Except IoError Unit × Journal → Prop
  | durable (hunwritten : (j.output.drain c).unwritten = []) :
      FlushOutcome c j (.ok (), { j with
        output := j.output.drain c
        durableLength := j.durableLength + j.pendingLength
        pendingLength := 0
        pendingEvents := 0 })
  | cut {error : IoError} :
      FlushOutcome c j (.error error, { j with output := j.output.drain c }.discardPending c)

theorem flush_outcome {j : Journal} (h : j.poisoned = false) (c : Conditions) :
    FlushOutcome c j (j.flush c) := by
  rw [flush, if_neg (by rw [h]; exact Bool.false_ne_true)]
  simp only
  split
  · exact .cut
  · next hunwritten =>
      split
      · exact .cut
      · exact .durable (Decidable.not_not.mp hunwritten)

/-- The flush with which a compaction begins, if a batch waits for it. -/
def settle (c : Conditions) (j : Journal) : Except IoError Unit × Journal :=
  if j.pendingEvents = 0 then (.ok (), j) else j.flush c

/-- How a compaction ends once nothing waits for a flush. -/
def replaceBy (c : Conditions) (events : List Event) (j : Journal) :
    Except IoError Unit × Journal :=
  match writeSnapshot c events, c.renameError with
  | .error e, _ => (.error e, j)
  | .ok _, some e => (.error e, j)
  | .ok log, none =>
    (.ok (), { j with
      output := ⟨log, []⟩
      durableLength := log.length
      pendingLength := 0
      appends := 0 })

theorem compact_eq_of_trusted (c : Conditions) (events : List Event) (j : Journal)
    (h : j.poisoned = false) :
    j.compact c events = match j.settle c with
      | (.ok (), j') => j'.replaceBy c events
      | (.error e, j') => (.error e, j') := by
  rw [compact, if_neg (by rw [h]; exact Bool.false_ne_true)]
  unfold settle replaceBy
  generalize (if j.pendingEvents = 0 then (.ok (), j) else j.flush c) = settled
  rcases settled with ⟨error | ⟨⟩, j'⟩
  · rfl
  · rfl

theorem replaceBy_cases (c : Conditions) (events : List Event) (j : Journal) :
    (∃ log, writeSnapshot c events = .ok log ∧ j.replaceBy c events = (.ok (), { j with
        output := ⟨log, []⟩
        durableLength := log.length
        pendingLength := 0
        appends := 0 })) ∨
      ∃ error, j.replaceBy c events = (.error error, j) := by
  unfold replaceBy
  split
  · exact .inr ⟨_, rfl⟩
  · exact .inr ⟨_, rfl⟩
  · next log hwritten hrename => exact .inl ⟨log, hwritten, rfl⟩

theorem compact_eq_of_nothing_pending {j : Journal} (h : j.poisoned = false)
    (hpending : j.pendingEvents = 0) (c : Conditions) (events : List Event) :
    j.compact c events = j.replaceBy c events := by
  rw [compact_eq_of_trusted c events j h, settle, if_pos hpending]

theorem eq_encode_of_writeSnapshot {c : Conditions} {events : List Event} {log : Bytes}
    (h : writeSnapshot c events = .ok log) :
    log = encode events ∧ ∀ e ∈ events, e.payload.length < payloadBound := by
  unfold writeSnapshot at h
  split at h
  · cases h
  · split at h
    · cases h
    · next hsmall =>
        simp only at h
        split at h
        · cases h
        · refine ⟨(Except.ok.inj h).symm, fun e he => Nat.lt_of_not_le fun hlarge => hsmall ?_⟩
          exact List.any_eq_true.mpr ⟨e, he, decide_eq_true hlarge⟩

namespace Carries

variable {j : Journal} {kept buffered : List Event}

theorem encode_append_frame (events : List Event) (e : Event) :
    encode (events ++ [e]) = encode events ++ e.frame := by
  simp [encode]

/-- An append adds the event to the batch, or the batch is thrown away. -/
theorem append_cases (h : j.Carries kept buffered) (c : Conditions) (e : Event) :
    (∃ j', j.append c e = (.ok (), j') ∧ j'.Carries kept (buffered ++ [e])) ∨
      ∃ error j', j.append c e = (.error error, j') ∧
        j'.Recovers c kept (buffered ++ [e]) := by
  obtain ⟨base, hlength, hbase, hrests⟩ := h.durable
  have hsound (hfits : e.payload.length < payloadBound) :
      ∀ e' ∈ buffered ++ [e], e'.payload.length < payloadBound :=
    List.forall_mem_append.mpr ⟨h.sound, List.forall_mem_singleton.mpr hfits⟩
  have houtcome := append_outcome h.trusted c e
  generalize j.append c e = r at houtcome
  cases houtcome with
  | taken hfits htakes =>
      obtain ⟨part, -, hmore, hall⟩ := hrests.takes htakes
      obtain rfl := hall rfl
      refine .inl ⟨_, rfl, h.trusted, ⟨base, hlength, hbase, ?_⟩, hsound hfits, ?_, ?_⟩
      · rw [encode_append_frame]
        exact hmore
      · simp only [encode_append_frame, List.length_append, h.pendingLength_eq]
      · simp only [List.length_append, List.length_singleton, h.pendingEvents_eq]
  | tooLarge =>
      exact .inr ⟨_, _, rfl, discardPending_recovers c h.trusted hlength hbase hrests
        List.prefix_rfl h.sound (List.prefix_append _ _)⟩
  | cut hfits htakes =>
      obtain ⟨part, hpart, hmore, -⟩ := hrests.takes htakes
      refine .inr ⟨_, _, rfl, discardPending_recovers c h.trusted hlength hbase hmore ?_
        (hsound hfits) List.prefix_rfl⟩
      rw [encode_append_frame]
      exact (List.prefix_append_right_inj _).mpr hpart

/-- A flush makes the batch durable, or the batch is thrown away. -/
theorem flush_cases (h : j.Carries kept buffered) (c : Conditions) :
    (∃ j', j.flush c = (.ok (), j') ∧ j'.Carries (kept ++ buffered) []) ∨
      ∃ error j', j.flush c = (.error error, j') ∧ j'.Recovers c kept buffered := by
  obtain ⟨base, hlength, hbase, hrests⟩ := h.durable
  obtain ⟨part, hpart, hdrained, -⟩ := hrests.takes (j.output.drain_takes c)
  rw [List.prefix_nil.mp hpart, List.append_nil] at hdrained
  have houtcome := flush_outcome h.trusted c
  generalize j.flush c = r at houtcome
  cases houtcome with
  | durable hunwritten =>
      have houtput := hdrained.eq_of_unwritten hunwritten
      refine .inl ⟨_, rfl, carries_emptied h.trusted ?_ (hbase.append (.encode h.sound)) houtput
        rfl rfl⟩
      simp only [List.length_append, hlength, h.pendingLength_eq]
  | cut =>
      exact .inr ⟨_, _, rfl, discardPending_recovers c h.trusted hlength hbase hdrained
        List.prefix_rfl h.sound List.prefix_rfl⟩

theorem settle_cases (h : j.Carries kept buffered) (c : Conditions) :
    (∃ j', j.settle c = (.ok (), j') ∧ j'.Carries (kept ++ buffered) []) ∨
      ∃ error j', j.settle c = (.error error, j') ∧ j'.Recovers c kept buffered := by
  unfold settle
  split
  · next hnone =>
      obtain rfl := List.eq_nil_of_length_eq_zero (h.pendingEvents_eq.symm.trans hnone)
      exact .inl ⟨j, rfl, by rwa [List.append_nil]⟩
  · exact h.flush_cases c

/-- A compaction puts its events in the place of the log. If it fails, the batch that it flushed
first is either durable or thrown away. -/
theorem compact_cases (h : j.Carries kept buffered) (c : Conditions) (events : List Event) :
    (∃ j', j.settle c = (.ok (), j') ∧ j'.Carries (kept ++ buffered) [] ∧
      ((∃ error, j.compact c events = (.error error, j')) ∨
        ∃ j'', j.compact c events = (.ok (), j'') ∧ j''.Carries events [])) ∨
      ∃ error j', j.settle c = (.error error, j') ∧ j.compact c events = (.error error, j') ∧
        j'.Recovers c kept buffered := by
  have hcompact := j.compact_eq_of_trusted c events h.trusted
  rcases h.settle_cases c with ⟨j', hsettle, hj'⟩ | ⟨error, j', hsettle, hj'⟩
  · rw [hsettle] at hcompact
    refine .inl ⟨j', hsettle, hj', ?_⟩
    rcases replaceBy_cases c events j' with ⟨log, hwritten, hreplaced⟩ | ⟨error, hfailed⟩
    · obtain ⟨rfl, hsound⟩ := eq_encode_of_writeSnapshot hwritten
      refine .inr ⟨_, hcompact.trans hreplaced, ?_⟩
      exact carries_emptied hj'.trusted rfl (.encode hsound) rfl rfl hj'.pendingEvents_eq
    · exact .inl ⟨error, hcompact.trans hfailed⟩
  · -- The flush has failed, and nothing else was tried.
    rw [hsettle] at hcompact
    exact .inr ⟨error, j', hsettle, hcompact, hj'⟩

/-- Appends add all their events to the batch, or the batch is thrown away. -/
theorem appendAll_cases (h : j.Carries kept buffered) (c : Conditions) (events : List Event) :
    (∃ j', j.appendAll c events = (.ok (), j') ∧ j'.Carries kept (buffered ++ events)) ∨
      ∃ error j', j.appendAll c events = (.error error, j') ∧
        j'.Recovers c kept (buffered ++ events) := by
  induction events generalizing j buffered with
  | nil => exact .inl ⟨j, rfl, by rwa [List.append_nil]⟩
  | cons e rest ih =>
      rw [List.append_cons, appendAll]
      rcases h.append_cases c e with ⟨j', heq, hj'⟩ | ⟨error, j', heq, hj'⟩
      · rw [heq]
        exact ih hj'
      · rw [heq]
        exact .inr ⟨error, j', rfl, hj'.mono (List.prefix_append _ _)⟩

/-- A commit makes its batch durable, or the batch is thrown away. -/
theorem commit_cases (h : j.Carries kept []) (c : Conditions) (events : List Event) :
    (∃ j', j.commit c events = (.ok (), j') ∧ j'.Carries (kept ++ events) []) ∨
      ∃ error j', j.commit c events = (.error error, j') ∧ j'.Recovers c kept events := by
  unfold commit
  rcases h.appendAll_cases c events with ⟨j', heq, hj'⟩ | ⟨error, j', heq, hj'⟩
  · rw [heq]
    exact hj'.flush_cases c
  · rw [heq]
    exact .inr ⟨error, j', rfl, hj'⟩

end Carries

/-! ## Runs and their account -/

/-- An operation on an open log. -/
inductive Operation
  | append (event : Event)
  | flush
  | compact (events : List Event)

/-- What the journal is left as after an operation. -/
def after (c : Conditions) (j : Journal) : Operation → Journal
  | .append event => (j.append c event).2
  | .flush => (j.flush c).2
  | .compact events => (j.compact c events).2

/-- What a journal answers. A compaction that finds a batch flushes it first, so it gives two
answers. -/
inductive Answer
  | append (event : Event) (result : Except IoError Unit)
  | flush (result : Except IoError Unit)
  | compact (events : List Event) (result : Except IoError Unit)

/-- The answers to one operation. -/
def answersTo (c : Conditions) (j : Journal) : Operation → List Answer
  | .append event => [.append event (j.append c event).1]
  | .flush => [.flush (j.flush c).1]
  | .compact events =>
      (if j.pendingEvents = 0 then [] else [.flush (j.flush c).1]) ++
        [.compact events (j.compact c events).1]

/-- The journal after several operations, each under its own conditions. -/
def run (j : Journal) : List (Conditions × Operation) → Journal
  | [] => j
  | (c, operation) :: rest => (j.after c operation).run rest

/-- All answers to several operations. -/
def answers (j : Journal) : List (Conditions × Operation) → List Answer
  | [] => []
  | (c, operation) :: rest => j.answersTo c operation ++ (j.after c operation).answers rest

/-- What the answers of a journal amount to: the events that must be found in the file, and those of
the batch that waits for a flush. -/
structure Account where
  kept : List Event
  buffered : List Event := []

/-- A good flush keeps the batch, a good compaction keeps its own events alone, and a bad append or
flush drops the batch. -/
def Account.note (a : Account) : Answer → Account
  | .append event (.ok ()) => { a with buffered := a.buffered ++ [event] }
  | .append _ (.error _) => { a with buffered := [] }
  | .flush (.ok ()) => { kept := a.kept ++ a.buffered }
  | .flush (.error _) => { a with buffered := [] }
  | .compact events (.ok ()) => { kept := events }
  | .compact _ (.error _) => a

/-- The account after several answers. -/
def Account.noteAll (a : Account) (answers : List Answer) : Account := answers.foldl Account.note a

theorem Recovers.carries {c : Conditions} {j : Journal} {kept batch : List Event}
    (h : j.Recovers c kept batch) (hrollback : c.rollbackFault = none) : j.Carries kept [] :=
  h.resolve_right fun hspoiled => hspoiled.1 hrollback

/-- The account of the flush with which a compaction begins follows its result. -/
theorem noteAll_settle {j : Journal} {a : Account} (h : j.pendingEvents = a.buffered.length)
    (c : Conditions) :
    a.noteAll (if j.pendingEvents = 0 then [] else [.flush (j.flush c).1]) =
      a.note (.flush (j.settle c).1) := by
  unfold settle
  split
  · next hnone =>
      obtain hbuffered := List.eq_nil_of_length_eq_zero (h.symm.trans hnone)
      cases a
      simp_all [Account.note, Account.noteAll]
  · rfl

/-- While rollbacks work, one operation keeps the journal in step with the account. -/
theorem Carries.after {j : Journal} {a : Account} (h : j.Carries a.kept a.buffered)
    {c : Conditions} (hrollback : c.rollbackFault = none) (operation : Operation) :
    (j.after c operation).Carries (a.noteAll (j.answersTo c operation)).kept
      (a.noteAll (j.answersTo c operation)).buffered := by
  cases operation with
  | append event =>
      simp only [Journal.after, answersTo, Account.noteAll, List.foldl_cons, List.foldl_nil]
      rcases h.append_cases c event with ⟨j', heq, hj'⟩ | ⟨error, j', heq, hj'⟩
      · rw [heq]
        exact hj'
      · rw [heq]
        exact hj'.carries hrollback
  | flush =>
      simp only [Journal.after, answersTo, Account.noteAll, List.foldl_cons, List.foldl_nil]
      rcases h.flush_cases c with ⟨j', heq, hj'⟩ | ⟨error, j', heq, hj'⟩
      · rw [heq]
        exact hj'
      · rw [heq]
        exact hj'.carries hrollback
  | compact events =>
      have hsettled := noteAll_settle h.pendingEvents_eq c
      simp only [Journal.after, answersTo, Account.noteAll, List.foldl_append, List.foldl_cons,
        List.foldl_nil] at hsettled ⊢
      rw [hsettled]
      rcases h.compact_cases c events with
        ⟨j', hsettle, hj', ⟨error, heq⟩ | ⟨j'', heq, hj''⟩⟩ | ⟨error, j', hsettle, heq, hj'⟩
      · rw [hsettle, heq]
        exact hj'
      · rw [hsettle, heq]
        exact hj''
      · rw [hsettle, heq]
        exact hj'.carries hrollback

/-- While rollbacks work, the journal stays in step with the account of its answers. -/
theorem Carries.run {j : Journal} {a : Account} (h : j.Carries a.kept a.buffered)
    {steps : List (Conditions × Operation)}
    (hrollback : ∀ step ∈ steps, step.1.rollbackFault = none) :
    (j.run steps).Carries (a.noteAll (j.answers steps)).kept
      (a.noteAll (j.answers steps)).buffered := by
  induction steps generalizing j a with
  | nil => exact h
  | cons step rest ih =>
      -- The rest starts from the account of the first step.
      have hstep := h.after (hrollback step List.mem_cons_self) step.2
      have hrest := ih hstep fun step' hstep' => hrollback step' (List.mem_cons_of_mem _ hstep')
      simpa only [Journal.run, answers, Account.noteAll, List.foldl_append] using hrest

theorem carries_recover (file : Bytes) :
    (Journal.recover file).Carries (Log.recover file).events [] :=
  carries_emptied rfl rfl (holds_take_validLength file) rfl rfl rfl

variable {j : Journal} {kept buffered lost : List Event}

namespace Carries

/-- The durable part of the file reads back as what was kept. -/
theorem recover_durable (h : j.Carries kept buffered) :
    j.durableLength ≤ j.file.length ∧
      Log.recover (j.file.take j.durableLength) = ⟨kept, j.durableLength, false⟩ := by
  obtain ⟨base, hlength, hbase, hrests⟩ := h.durable
  have htake : j.file.take j.durableLength = base := hlength ▸ hrests.take_file
  refine ⟨?_, by rw [htake, hbase.recover, hlength]⟩
  rw [← hlength]
  exact hrests.base_isPrefix.length_le

/-- While nothing waits for a flush, the file is the durable part and the buffer is empty. -/
theorem output_eq_of_settled (h : j.Carries kept []) :
    Holds j.file kept ∧ j.durableLength = j.file.length ∧ j.output.unwritten = [] := by
  obtain ⟨base, hlength, hbase, hrests⟩ := h.durable
  obtain ⟨part, hpart, hfile⟩ := hrests.exists_file_eq
  rw [List.prefix_nil.mp hpart, List.append_nil] at hfile
  have hcontents := hrests.contents_eq
  rw [Output.contents, hfile] at hcontents
  refine ⟨by rw [Journal.file, hfile]; exact hbase, by rw [Journal.file, hfile, hlength], ?_⟩
  exact List.append_cancel_left hcontents

end Carries

/-! ## Closing -/

theorem Carries.close_eq (h : j.Carries kept []) (c : Conditions) : j.close c = j.file := by
  obtain ⟨-, -, hunwritten⟩ := h.output_eq_of_settled
  simp only [close, Output.drain, hunwritten, List.take_nil, List.append_nil]
  rfl

/-- What a spoiled journal leaves behind is the log with some of the failed batch. -/
theorem Spoiled.recover_close (h : j.Spoiled kept lost) (c : Conditions) :
    (Log.recover (j.close c)).events <+: kept ++ lost := by
  obtain ⟨base, part, hbase, hpart, hrests⟩ := h.left
  obtain ⟨left, hleft, hdrained, -⟩ := hrests.takes (j.output.drain_takes c)
  obtain ⟨part', hpart', hfile⟩ := hdrained.exists_file_eq
  rw [List.prefix_nil.mp hleft, List.append_nil] at hpart'
  -- Closing may still write out some of the lost batch, but nothing else.
  have hfront : j.close c <+: base ++ encode lost := by
    rw [close, hfile]
    exact (List.prefix_append_right_inj base).mpr (hpart'.trans hpart)
  have hevents := recover_events_of_isPrefix hfront
  rwa [(hbase.append (.encode h.sound)).recover] at hevents

theorem commit_of_poisoned (h : j.poisoned = true) (c : Conditions) (events : List Event) :
    j.commit c events = (.error .logUnusable, j) := by
  cases events with
  | nil => simp only [commit, appendAll, flush, h, if_true]
  | cons e rest => simp only [commit, appendAll, append, h, if_true]

theorem compact_of_poisoned (h : j.poisoned = true) (c : Conditions) (events : List Event) :
    j.compact c events = (.error .logUnusable, j) := by
  rw [compact, if_pos h]

/-- On a log that was opened at its sound part, while rollbacks work, the file and the answers of
the journal agree after any operations: the durable part reads back as the events found at first or
put there by the last good compaction, followed by those of every later batch whose flush was
answered as good, and nothing else. While no batch waits, the durable part is the whole file. -/
theorem recover_run_eq_account (file : Bytes) (steps : List (Conditions × Operation))
    (hrollback : ∀ step ∈ steps, step.1.rollbackFault = none) :
    let j := (Journal.recover file).run steps
    let a := Account.noteAll ⟨(Log.recover file).events, []⟩ ((Journal.recover file).answers steps)
    j.pendingEvents = a.buffered.length ∧
      (a.buffered = [] → Log.recover j.file = ⟨a.kept, j.durableLength, false⟩ ∧
        j.durableLength = j.file.length) ∧
      j.durableLength ≤ j.file.length ∧
      Log.recover (j.file.take j.durableLength) = ⟨a.kept, j.durableLength, false⟩ := by
  intro j a
  have h : j.Carries a.kept a.buffered :=
    Carries.run (a := ⟨(Log.recover file).events, []⟩) (carries_recover file) hrollback
  refine ⟨h.pendingEvents_eq, ?_, h.recover_durable⟩
  intro hbuffered
  rw [hbuffered] at h
  obtain ⟨hholds, hlength, -⟩ := h.output_eq_of_settled
  exact ⟨by rw [hholds.recover, hlength], hlength⟩

/-- The disk fills up while the second of three batches is written. -/
theorem recover_run_of_full_disk :
    let steps : List (Conditions × Operation) :=
      [(.good, .append (.userDeleted .zero)), (.good, .flush),
        (.good, .append (.bookingCanceled .zero .zero)), ({ capacity := some 60 }, .flush),
        (.good, .append (.hotelUpdated .zero {})), (.good, .flush)]
    (∀ step ∈ steps, step.1.rollbackFault = none) ∧
      Log.recover ((Journal.recover []).run steps).file =
        ⟨[.userDeleted .zero, .hotelUpdated .zero {}], 106, false⟩ := by
  intro steps
  have hrollback : ∀ step ∈ steps, step.1.rollbackFault = none := by simp [steps, Conditions.good]
  have hempty : Log.recover [] = ⟨[], 0, false⟩ := Holds.nil.recover
  have hopen : Journal.recover [] = Journal.openAt [] 0 := by rw [Journal.recover, hempty]
  have h := recover_run_eq_account [] steps hrollback
  rw [hopen, hempty] at h
  rw [hopen, (h.2.1 rfl).1]
  exact ⟨hrollback, rfl⟩

end Journal

end Lodging.Log
