import Lodging.Engine.Queries
import Lodging.Proofs.AllOrNothing
import Lodging.Proofs.Continuity

/-!
# Following the cursor

A caller reads the listing of the rooms page by page, each page from where the last one ended. The
engine goes on with its work meanwhile. No room is ever gone, and a new one comes behind all that
are there, so the pages together are the listing as it is at the last request.
-/

namespace Lodging

open Std (ExtTreeMap)
open Log (Bytes Conditions Journal)

/-! ## Growing sets of rooms -/

namespace Store

variable {s t : Store} {id : RecordId}

/-- No room is gone, and every new one is above all old ones. -/
structure RoomsGrow (s t : Store) : Prop where
  kept : ∀ id ∈ s.rooms, id ∈ t.rooms
  added : ∀ id ∈ t.rooms, id ∈ s.rooms ∨ ∀ old ∈ s.rooms, old < id

namespace RoomsGrow

theorem of_rooms_eq (h : t.rooms = s.rooms) : s.RoomsGrow t where
  kept _ hid := h ▸ hid
  added _ hid := .inl (h ▸ hid)

theorem trans {u : Store} (h : s.RoomsGrow t) (h' : t.RoomsGrow u) : s.RoomsGrow u where
  kept id hid := h'.kept id (h.kept id hid)
  added id hid := by
    rcases h'.added id hid with hid | habove
    · exact h.added id hid
    · exact .inr fun old hold => habove old (h.kept old hold)

end RoomsGrow

/-- A snapshot brings back no room that was not there. -/
theorem Keyed.mem_rooms_of_replay_snapshot (h : s.Keyed)
    (hid : id ∈ (replay s.snapshot).rooms) : id ∈ s.rooms := by
  obtain ⟨room, hroom, rfl⟩ := mem_rooms_replay.mp hid
  obtain ⟨slot, hslot, rfl⟩ := roomCreated_mem_snapshot.mp hroom
  obtain ⟨key, hkey⟩ := mem_values.mp hslot
  obtain ⟨book, rfl, hbook⟩ := h.book hkey
  rw [← hbook.room_id] at hkey
  exact mem_iff_lookup.mpr ⟨_, hkey⟩

end Store

namespace Engine

variable {e e' : Engine} {c : Conditions} {m : Moment} {change : Change} {event : Event}
variable {last id : RecordId} {action : Action} {actions : List Action} {log : List Event}

theorem Proposes.last_lt_of_roomCreated {room : Room}
    (h : e.Proposes change (.roomCreated room) last) : e.generator.last < room.id := by
  rcases h.lt_or_write with hlt | hplan
  · exact hlt
  · cases Store.means_of_plan hplan

/-- A room that would be read back although it is not in memory is above all rooms in memory, and
there is none while the journal can be trusted. -/
structure Orderly (e : Engine) : Prop where
  steady : e.Steady
  unseen : ∀ {log : List Event}, e.journal.Leaves log → ∀ id ∈ (Store.replay log).rooms,
    id ∉ e.store.rooms → e.journal.poisoned = true ∧ ∀ old ∈ e.store.rooms, old < id

theorem Steady.room_lt (h : e.Steady) (hid : e.generator.last < id) :
    ∀ old ∈ e.store.rooms, old < id := fun _ hold =>
  Nat.lt_of_le_of_lt (h.shows_le (.inr (.inr (.inl hold)))) hid

theorem Steady.roomsGrow_apply (h : e.Steady) (hevent : e.Proposes change event last) :
    e.store.RoomsGrow (e.store.apply event) where
  kept id hid := Store.mem_rooms_apply.mpr (.inl hid)
  added id hid := by
    rcases Store.mem_rooms_apply.mp hid with hid | ⟨room, rfl, rfl⟩
    · exact .inl hid
    · exact .inr (h.room_lt hevent.last_lt_of_roomCreated)

namespace Orderly

theorem of_openOn (file : Bytes) : (openOn file).Orderly where
  steady := steady_openOn file
  unseen hlog id hid hunseen := by
    rw [Journal.leaves_recover.mp hlog] at hid
    exact absurd hid hunseen

theorem of_reopenOn (file : Bytes) (e : Engine) : (reopenOn file e).Orderly :=
  ⟨steady_reopenOn file e, (of_openOn file).unseen⟩

theorem of_unwritten (h : e.Orderly) (hsteady : e'.Steady) (hjournal : e'.journal = e.journal)
    (hrooms : e'.store.rooms = e.store.rooms) : e'.Orderly where
  steady := hsteady
  unseen hlog id hid hunseen := by
    rw [hrooms] at hunseen ⊢
    rw [hjournal]
    exact h.unseen (hjournal ▸ hlog) id hid hunseen

/-- What was written whole is in memory, and the journal was trusted with it. -/
theorem of_written (h : e.Orderly) (hsteady : e'.Steady)
    (hcommit : e.journal.commit c [event] = (.ok (), e'.journal))
    (hrooms : e'.store.rooms = (e.store.apply event).rooms) : e'.Orderly where
  steady := hsteady
  unseen hlog id hid hunseen := by
    exfalso
    obtain ⟨past, hpast, rfl⟩ := (h.steady.idle.commit_ok hcommit).2 _ hlog
    rw [Store.replay_append_singleton] at hid
    rw [hrooms] at hunseen
    rcases Store.mem_rooms_apply.mp hid with hid | hnew
    · obtain ⟨hpoisoned, -⟩ := h.unseen hpast id hid fun hseen =>
        hunseen (Store.mem_rooms_apply.mpr (.inl hseen))
      cases hcommit.symm.trans (Journal.commit_of_poisoned hpoisoned c [event])
    · exact hunseen (Store.mem_rooms_apply.mpr (.inr hnew))

/-- What was not written whole may be read back, but then it is newer than all that is in memory. -/
theorem of_failed {error : IoError} (h : e.Orderly) (hsteady : e'.Steady)
    (hevent : e.Proposes change event last)
    (hcommit : e.journal.commit c [event] = (.error error, e'.journal))
    (hrooms : e'.store.rooms = e.store.rooms) : e'.Orderly where
  steady := hsteady
  unseen hlog id hid hunseen := by
    rw [hrooms] at hunseen ⊢
    rcases (h.steady.idle.commit_error hcommit).2 _ hlog with hlog | ⟨hpoisoned, past, hpast, rfl⟩
    · obtain ⟨hpoisoned, habove⟩ := h.unseen hlog id hid hunseen
      have hsame := hcommit.symm.trans (Journal.commit_of_poisoned hpoisoned c [event])
      exact ⟨(Prod.mk.inj hsame).2 ▸ hpoisoned, habove⟩
    · rw [Store.replay_append_singleton] at hid
      rcases Store.mem_rooms_apply.mp hid with hid | ⟨room, rfl, rfl⟩
      · exact ⟨hpoisoned, (h.unseen hpast id hid hunseen).2⟩
      · exact ⟨hpoisoned, h.steady.room_lt hevent.last_lt_of_roomCreated⟩

/-- A change leaves the rooms in order, and adds at most one above all others. -/
theorem perform (h : e.Orderly) (c : Conditions) (m : Moment) (change : Change) :
    (e.perform c m change).2.Orderly ∧ e.store.RoomsGrow (e.perform c m change).2.store := by
  have hsteady := h.steady.perform c m change
  have houtcome := e.outcome c m change
  generalize e.perform c m change = r at hsteady houtcome
  cases houtcome with
  | unwritten hjournal hstore hlast hanswer =>
      exact ⟨h.of_unwritten hsteady hjournal hstore.rooms_eq, .of_rooms_eq hstore.rooms_eq⟩
  | written hevent hcommit hstore hanswer =>
      exact ⟨h.of_written hsteady hcommit hstore.rooms_eq,
        (h.steady.roomsGrow_apply hevent).trans (.of_rooms_eq hstore.rooms_eq)⟩
  | failed hevent hcommit hstore =>
      exact ⟨h.of_failed hsteady hevent hcommit hstore.rooms_eq, .of_rooms_eq hstore.rooms_eq⟩

theorem compact (h : e.Orderly) (c : Conditions) : (e.compact c).2.Orderly where
  steady := h.steady.compact c
  unseen hlog id hid hunseen := by
    obtain ⟨hstore, -, hcompact | ⟨error, hcompact⟩⟩ := e.compact_cases c
    · rw [(h.steady.idle.compact_ok hcompact).2 _ hlog] at hid
      exact absurd (h.steady.keyed.mem_rooms_of_replay_snapshot hid) (hstore ▸ hunseen)
    · rw [hstore] at hunseen ⊢
      rw [h.steady.idle.eq_of_compact_error hcompact] at hlog ⊢
      exact h.unseen hlog id hid hunseen

/-- Whatever happens, no room is gone and every new one is above all old ones. -/
theorem after (h : e.Orderly) (huncut : e.Uncut action) :
    (e.after action).Orderly ∧ e.store.RoomsGrow (e.after action).store := by
  cases action with
  | change c m change => exact h.perform c m change
  | compact c => exact ⟨h.compact c, .of_rooms_eq (congrArg Store.rooms (e.compact_cases c).1)⟩
  | reopen c bytes =>
      obtain ⟨log, hlog, hstore, -⟩ := exists_log_of_reopen huncut
      refine ⟨.of_reopenOn _ e, ?_⟩
      rw [hstore]
      refine ⟨fun id hid => h.steady.rooms hlog id hid, fun id hid => ?_⟩
      by_cases hseen : id ∈ e.store.rooms
      · exact .inl hseen
      · exact .inr (h.unseen hlog id hid hseen).2

theorem run_of_whole (h : e.Orderly) (hwhole : e.Whole actions) :
    (e.run actions).Orderly ∧ e.store.RoomsGrow (e.run actions).store := by
  induction actions generalizing e with
  | nil => exact ⟨h, .of_rooms_eq rfl⟩
  | cons action rest ih =>
      obtain ⟨hafter, hgrow⟩ := h.after hwhole.1
      obtain ⟨hrun, hgrow'⟩ := ih hafter hwhole.2
      exact ⟨hrun, hgrow.trans hgrow'⟩

end Orderly

/-- Every engine is in order, also one that found only a part of its log. -/
theorem orderly_run (file : Bytes) (actions : List Action) :
    ((openOn file).run actions).Orderly := by
  refine List.foldlRecOn (motive := Orderly) actions after (.of_openOn file) fun e h action _ => ?_
  cases action with
  | change c m change => exact (h.perform c m change).1
  | compact c => exact h.compact c
  | reopen c bytes => exact .of_reopenOn _ e

/-! ## Pages -/

section

variable {s t : Store} {position : Option RecordId} {id : RecordId}

theorem mem_roomIdsAfter :
    id ∈ roomIdsAfter s position ↔ id ∈ s.rooms ∧ position.all (· < id) = true := by
  simp only [roomIdsAfter, Store.roomIds, List.mem_filter, ExtTreeMap.mem_keys]

theorem pairwise_roomIds (s : Store) : s.roomIds.Pairwise (· < ·) :=
  s.rooms.ordered_keys.imp Nat.compare_eq_lt.mp

theorem pairwise_roomIdsAfter (s : Store) (position : Option RecordId) :
    (roomIdsAfter s position).Pairwise (· < ·) :=
  (pairwise_roomIds s).filter _

theorem roomIdsAfter_none (s : Store) : roomIdsAfter s none = s.roomIds := by
  simp [roomIdsAfter]

/-- Without a filter, a listing shows all rooms it is made for. -/
theorem map_listRooms (h : s.Keyed) (today : Day) {ids : List RecordId}
    (hids : ∀ id ∈ ids, id ∈ s.rooms) :
    (s.listRooms today [] ids).map (·.room.id) = ids := by
  have hpasses : (fun listing : RoomListing => listing.status.passes []) = fun _ => true := rfl
  rw [Store.listRooms, hpasses, List.filter_true, List.map_filterMap]
  refine (List.filterMap_congr fun id hid => ?_).trans List.filterMap_some
  obtain ⟨slot, hslot⟩ := mem_iff_lookup.mp (hids id hid)
  obtain ⟨book, rfl, hbook⟩ := h.book hslot
  rw [Store.publishedBook?, hslot]
  exact congrArg some hbook.room_id

/-- The page holds the first rooms behind the position, and names the last of them if it is full. -/
structure Shows (s : Store) (position : Option RecordId) (limit : UInt32)
    (page : CursorResult RoomListing) : Prop where
  ids_eq : page.items.map (·.room.id) = (roomIdsAfter s position).take (pageLength limit)
  next_eq : page.next = if page.items.length = pageLength limit then
    (page.items.map (·.room.id)).getLast? else none

theorem listRoomsAfter_eq (h : e.store.Keyed) (today : Day) {page : CursorPage}
    {position : Option RecordId} (hposition : page.position = .ok position) :
    ∃ result, e.listRoomsAfter today [] page = (.ok result, e.countListing .cursor) ∧
      Shows e.store position page.limit result := by
  simp only [listRoomsAfter, hposition]
  refine ⟨_, rfl, ?_, ?_⟩
  · simp only [CursorPage.apply, List.map_take]
    rw [map_listRooms h today fun id hid => (mem_roomIdsAfter.mp hid).1]
  · simp only [CursorPage.apply, List.getLast?_map]

theorem position_hex (id : RecordId) (limit : UInt32) :
    CursorPage.position ⟨id.hex, limit⟩ = .ok (some id) := by
  have hnonempty : id.hex.isEmpty = false := by
    by_contra hempty
    have hhex : id.hex = "" := String.isEmpty_iff.mp (by simpa using hempty)
    have hlength : id.hexChars.length = 32 := Text.length_fixedDigits _ _ _
    rw [show id.hexChars = [] from String.ofList_eq_empty_iff.mp hhex] at hlength
    cases hlength
  simp only [CursorPage.position, hnonempty, RecordId.parse_hex]
  rfl

end

/-! ## Traversals -/

/-- What happens to an engine before a request for a page, and the day of the request. -/
structure Visit where
  before : List Action
  today : Day

/-- A request for the page behind a cursor. -/
def visit (limit : UInt32) (cursor : String) (v : Visit) (e : Engine) :
    Except LedgerError (CursorResult RoomListing) × Engine :=
  (e.run v.before).listRoomsAfter v.today [] ⟨cursor, limit⟩

/-- The next cursor that an answer names. -/
def next? : Except LedgerError (CursorResult RoomListing) → Option RecordId
  | .ok page => page.next
  | .error _ => none

/-- The answers that a caller gets who follows the cursor, until one names no next cursor. -/
def traverse (limit : UInt32) (cursor : String) :
    List Visit → Engine → List (Except LedgerError (CursorResult RoomListing)) × Engine
  | [], e => ([], e)
  | v :: rest, e =>
    let (answer, e) := e.visit limit cursor v
    match next? answer with
    | some id =>
      let (answers, e) := e.traverse limit id.hex rest
      (answer :: answers, e)
    | none => ([answer], e)

/-- Each time that the engine is opened again before a request, it finds its whole log. -/
def TraversesWhole (limit : UInt32) (cursor : String) : List Visit → Engine → Prop
  | [], _ => True
  | v :: rest, e => e.Whole v.before ∧ ∀ id, next? (e.visit limit cursor v).1 = some id →
    (e.visit limit cursor v).2.TraversesWhole limit id.hex rest

/-- The identifiers of all rooms on the pages. -/
def visited (pages : List (CursorResult RoomListing)) : List RecordId :=
  pages.flatMap (·.items.map (·.room.id))

/-- The last page names no next cursor. -/
def Ended (pages : List (CursorResult RoomListing)) : Prop :=
  ∃ page, pages.getLast? = some page ∧ page.next = none

section

variable {s t : Store} {position : Option RecordId} {limit : UInt32} {ids : List RecordId}
variable {page : CursorResult RoomListing} {pages : List (CursorResult RoomListing)}

theorem eq_of_mem_iff {ids ids' : List RecordId} (h : ids.Pairwise (· < ·))
    (h' : ids'.Pairwise (· < ·)) (hmem : ∀ id, id ∈ ids ↔ id ∈ ids') : ids = ids' := by
  have hnodup {ids : List RecordId} (h : ids.Pairwise (· < ·)) : ids.Nodup :=
    h.imp RecordId.ne_of_lt
  exact Store.eq_of_perm_of_lt ((List.perm_ext_iff_of_nodup (hnodup h) (hnodup h')).mpr hmem) h h'

/-- While rooms are only added above all others, what lies up to a cursor stays as it was seen. -/
theorem append_roomIdsAfter (hgrow : s.RoomsGrow t) {n : Nat}
    (hids : ids = (roomIdsAfter s position).take n) (hlast : ids.getLast? = some id) :
    ids ++ roomIdsAfter t (some id) = roomIdsAfter t position := by
  have hsplit : ids ++ (roomIdsAfter s position).drop n = roomIdsAfter s position := by
    rw [hids, List.take_append_drop]
  have hsorted := pairwise_roomIdsAfter s position
  have hmem {x : RecordId} (hx : x ∈ ids) : x ∈ s.rooms ∧ position.all (· < x) = true :=
    mem_roomIdsAfter.mp (hsplit ▸ List.mem_append_left _ hx)
  rw [← hsplit, List.pairwise_append] at hsorted
  obtain ⟨hfront, -, hbehind⟩ := hsorted
  obtain ⟨front, rfl⟩ := List.getLast?_eq_some_iff.mp hlast
  have hid : id ∈ front ++ [id] := List.mem_append_right _ List.mem_cons_self
  have hle {x : RecordId} (hx : x ∈ front ++ [id]) : x ≤ id := by
    rcases List.mem_append.mp hx with hx | hx
    · exact Nat.le_of_lt ((List.pairwise_append.mp hfront).2.2 x hx id List.mem_cons_self)
    · rw [List.mem_singleton.mp hx]
      exact RecordId.le_refl id
  refine eq_of_mem_iff ?_ (pairwise_roomIdsAfter t position) fun x => ?_
  · refine List.pairwise_append.mpr ⟨hfront, pairwise_roomIdsAfter t _, fun x hx y hy => ?_⟩
    have hy : id < y := by simpa using (mem_roomIdsAfter.mp hy).2
    exact Nat.lt_of_le_of_lt (hle hx) hy
  · rw [List.mem_append, mem_roomIdsAfter, mem_roomIdsAfter]
    constructor
    · rintro (hx | ⟨hx, hafter⟩)
      · exact ⟨hgrow.kept x (hmem hx).1, (hmem hx).2⟩
      · refine ⟨hx, ?_⟩
        cases position with
        | none => rfl
        | some old =>
            exact decide_eq_true
              (Nat.lt_trans (of_decide_eq_true (hmem hid).2) (of_decide_eq_true hafter))
    · rintro ⟨hx, hafter⟩
      by_cases hlt : id < x
      · exact .inr ⟨hx, decide_eq_true hlt⟩
      · refine .inl ?_
        rcases hgrow.added x hx with hold | habove
        · have hseen : x ∈ roomIdsAfter s position := mem_roomIdsAfter.mpr ⟨hold, hafter⟩
          rw [← hsplit] at hseen
          exact (List.mem_append.mp hseen).resolve_right fun hmore => hlt (hbehind id hid x hmore)
        · exact absurd (habove id (hmem hid).1) hlt

/-- The pages of a traversal that began at a position, in the listing at the last request. -/
structure Covers (s : Store) (position : Option RecordId) (limit : UInt32)
    (pages : List (CursorResult RoomListing)) : Prop where
  isPrefix : visited pages <+: roomIdsAfter s position
  complete : Ended pages → visited pages = roomIdsAfter s position
  length_le : ∀ page ∈ pages, page.items.length ≤ pageLength limit
  full : ¬ Ended pages → (visited pages).length = pages.length * pageLength limit

theorem Shows.length_le (h : Shows s position limit page) :
    page.items.length ≤ pageLength limit := by
  have hlength := congrArg List.length h.ids_eq
  rw [List.length_map, List.length_take] at hlength
  exact hlength ▸ Nat.min_le_left _ _

theorem pageLength_ne_zero (hlimit : limit ≠ 0) : pageLength limit ≠ 0 := by
  have hpositive : limit.toNat ≠ 0 := fun h => hlimit (UInt32.toNat.inj h)
  simp only [pageLength, Limits.pageSize]
  omega

/-- A page that names no next cursor holds all that is left. -/
theorem Shows.ids_eq_of_next_eq_none (h : Shows s position limit page) (hlimit : limit ≠ 0)
    (hnext : page.next = none) : page.items.map (·.room.id) = roomIdsAfter s position := by
  have hlength := congrArg List.length h.ids_eq
  rw [List.length_map, List.length_take] at hlength
  rw [h.ids_eq]
  refine List.take_of_length_le ?_
  by_cases hfull : page.items.length = pageLength limit
  · -- A full page is not empty, so it would name a next cursor.
    have hempty := h.next_eq
    rw [hnext, if_pos hfull, eq_comm, List.getLast?_eq_none_iff, List.map_eq_nil_iff] at hempty
    rw [hempty] at hfull
    exact absurd hfull.symm (pageLength_ne_zero hlimit)
  · omega

theorem Shows.of_next_eq_some (h : Shows s position limit page) (hnext : page.next = some id) :
    page.items.length = pageLength limit ∧
      (page.items.map (·.room.id)).getLast? = some id := by
  have hnamed := h.next_eq
  rw [hnext] at hnamed
  split at hnamed
  · next hfull => exact ⟨hfull, hnamed.symm⟩
  · cases hnamed

theorem ended_cons_iff (hnext : page.next = some id) : Ended (page :: pages) ↔ Ended pages := by
  cases pages with
  | nil =>
      refine iff_of_false ?_ (by simp [Ended])
      rintro ⟨other, hlast, hnone⟩
      cases hlast
      cases hnext.symm.trans hnone
  | cons next rest => simp [Ended]

namespace Covers

theorem nil : Covers s position limit [] where
  isPrefix := List.nil_prefix
  complete := by
    rintro ⟨page, hlast, -⟩
    cases hlast
  length_le := by simp
  full _ := (Nat.zero_mul _).symm

theorem singleton (h : Shows s position limit page) (hlimit : limit ≠ 0)
    (hnext : page.next = none) : Covers s position limit [page] := by
  have hids : visited [page] = roomIdsAfter s position := by
    rw [← h.ids_eq_of_next_eq_none hlimit hnext]
    simp [visited]
  refine ⟨hids ▸ List.prefix_rfl, fun _ => hids, ?_, fun h => absurd ⟨page, rfl, hnext⟩ h⟩
  simpa using h.length_le

/-- A page with a next cursor goes before the pages that follow it. -/
theorem cons (h : Shows s position limit page) (hnext : page.next = some id)
    (hgrow : s.RoomsGrow t) (hrest : Covers t (some id) limit pages) :
    Covers t position limit (page :: pages) := by
  obtain ⟨hfull, hlast⟩ := h.of_next_eq_some hnext
  have hsplit := append_roomIdsAfter hgrow h.ids_eq hlast
  have hvisited : visited (page :: pages) = page.items.map (·.room.id) ++ visited pages :=
    List.flatMap_cons
  refine ⟨?_, fun hended => ?_, ?_, fun hended => ?_⟩
  · rw [hvisited, ← hsplit]
    exact (List.prefix_append_right_inj _).mpr hrest.isPrefix
  · rw [hvisited, hrest.complete ((ended_cons_iff hnext).mp hended), hsplit]
  · intro other hother
    rcases List.mem_cons.mp hother with rfl | hother
    · exact h.length_le
    · exact hrest.length_le other hother
  · rw [hvisited, List.length_append, List.length_map, hfull,
      hrest.full (mt (ended_cons_iff hnext).mpr hended), List.length_cons, Nat.succ_mul,
      Nat.add_comm]

end Covers

theorem Orderly.countListing (h : e.Orderly) (strategy : PagingStrategy) :
    (e.countListing strategy).Orderly :=
  h.of_unwritten (h.steady.of_unwritten rfl (.refl _) (RecordId.le_refl _)) rfl rfl

theorem Orderly.visit {v : Visit} (h : e.Orderly) (hwhole : e.Whole v.before) (limit : UInt32)
    (cursor : String) : (e.visit limit cursor v).2.Orderly := by
  have hrun := (h.run_of_whole hwhole).1
  unfold Engine.visit listRoomsAfter
  split
  · exact hrun
  · exact hrun.countListing .cursor

theorem covers_traverse {cursor : String} {visits : List Visit} (h : e.Orderly)
    (hlimit : limit ≠ 0) (hposition : CursorPage.position ⟨cursor, limit⟩ = .ok position)
    (hwhole : e.TraversesWhole limit cursor visits) :
    let r := e.traverse limit cursor visits
    ∃ pages, r.1 = pages.map .ok ∧ e.store.RoomsGrow r.2.store ∧
      Covers r.2.store position limit pages ∧ (¬ Ended pages → pages.length = visits.length) := by
  induction visits generalizing e cursor position with
  | nil => exact ⟨[], rfl, .of_rooms_eq rfl, .nil, fun _ => rfl⟩
  | cons v rest ih =>
      obtain ⟨hbefore, hrest⟩ := hwhole
      obtain ⟨hrun, hgrow⟩ := h.run_of_whole hbefore
      obtain ⟨page, hanswer, hshows⟩ := listRoomsAfter_eq hrun.steady.keyed v.today hposition
      simp only [traverse, visit, hanswer, next?] at hrest ⊢
      cases hnext : page.next with
      | none =>
          exact ⟨[page], rfl, hgrow, .singleton hshows hlimit hnext,
            fun hended => absurd ⟨page, rfl, hnext⟩ hended⟩
      | some id =>
          obtain ⟨pages, hpages, hgrow', hcovers, hlength⟩ :=
            ih (hrun.countListing .cursor) (position_hex id limit) (hrest id hnext)
          refine ⟨page :: pages, congrArg (_ :: ·) hpages, hgrow.trans hgrow',
            hcovers.cons hshows hnext hgrow', fun hended => ?_⟩
          exact congrArg Nat.succ (hlength (mt (ended_cons_iff hnext).mpr hended))

/-- A caller follows the cursor from the start, whatever the engine did before and does between the
requests, as long as it finds its whole log when it is opened again. No request fails. The rooms on
the pages are strictly in the order of their identifiers, with no more on a page than asked for.
When a page names no next cursor, they are the rooms that there are at the last request, and until
then every page is full, so there is such a page unless ever new rooms are made. -/
theorem traverse_complete (file : Bytes) (before : List Action) {limit : UInt32}
    (visits : List Visit) (hlimit : limit ≠ 0)
    (hwhole : ((openOn file).run before).TraversesWhole limit "" visits) :
    let r := ((openOn file).run before).traverse limit "" visits
    ∃ pages, r.1 = pages.map .ok ∧
      (visited pages).Pairwise (· < ·) ∧
      (∀ page ∈ pages, page.items.length ≤ min limit.toNat 100) ∧
      (Ended pages → visited pages = r.2.store.roomIds) ∧
      (¬ Ended pages → pages.length = visits.length ∧
        pages.length * min limit.toNat 100 ≤ r.2.store.roomIds.length) := by
  intro r
  obtain ⟨pages, hpages, -, hcovers, hlength⟩ :=
    covers_traverse (orderly_run file before) hlimit rfl hwhole
  obtain ⟨hfront, hcomplete, hle, hfull⟩ := hcovers
  rw [roomIdsAfter_none] at hfront hcomplete
  have hsorted : r.2.store.roomIds.Pairwise (· < ·) :=
    roomIdsAfter_none r.2.store ▸ pairwise_roomIdsAfter r.2.store none
  refine ⟨pages, hpages, hsorted.sublist hfront.sublist, hle, hcomplete, fun hended => ?_⟩
  exact ⟨hlength hended, (hfull hended).symm.le.trans hfront.length_le⟩

/-- An engine that trusts its journal has the same rooms when it is opened again. -/
theorem Orderly.roomIds_after_reopen {bytes : Nat} (h : e.Orderly)
    (huncut : e.Uncut (.reopen c bytes)) (htrusted : e.journal.poisoned = false) :
    (e.after (.reopen c bytes)).store.roomIds = e.store.roomIds := by
  obtain ⟨log, hlog, hstore, -⟩ := exists_log_of_reopen huncut
  simp only [hstore, ← roomIdsAfter_none]
  refine eq_of_mem_iff (pairwise_roomIdsAfter _ _) (pairwise_roomIdsAfter _ _) fun id => ?_
  simp only [mem_roomIdsAfter]
  refine and_congr_left fun _ => ⟨fun hid => ?_, h.steady.rooms hlog id⟩
  by_contra hunseen
  cases (h.unseen hlog id hid hunseen).1.symm.trans htrusted

theorem traverse_snd_of_next {cursor : String} {v : Visit} {rest : List Visit}
    (hnext : next? (e.visit limit cursor v).1 = some id) :
    (e.traverse limit cursor (v :: rest)).2 =
      ((e.visit limit cursor v).2.traverse limit id.hex rest).2 := by
  simp only [traverse, hnext]

theorem traverse_singleton_snd (limit : UInt32) (cursor : String) (v : Visit) (e : Engine) :
    (e.traverse limit cursor [v]).2 = (e.visit limit cursor v).2 := by
  simp only [traverse]
  split <;> rfl

/-- A room is made and booked after the first request, and the second page has it. Then the log is
compacted and the engine opened on it again, and the third page has no more. -/
theorem traverse_complete_of_new_room :
    let stay : Stay := ⟨⟨2030, 5, 1, by decide, by decide, by decide⟩,
      ⟨2030, 5, 4, by decide, by decide, by decide⟩⟩
    let before : List Action :=
      [.change .good ⟨5, 0⟩ (.createHotel "Inn" "Hill" 3),
        .change .good ⟨6, 0⟩ (.createRoom (RecordId.ofParts 5 0).hex .king .zero .zero)]
    let v₁ : Visit := ⟨[], stay.checkIn⟩
    let v₂ : Visit :=
      ⟨[.change .good ⟨7, 0⟩ (.createRoom (RecordId.ofParts 5 0).hex .king .zero .zero),
        .change .good ⟨8, 0⟩ (.createBooking (RecordId.ofParts 7 0).hex (.ofParts 3 0) 1 stay)],
        stay.checkIn⟩
    let v₃ : Visit := ⟨[.compact .good, .reopen .good 1000], stay.checkIn⟩
    let e := (openOn []).run before
    (1 : UInt32) ≠ 0 ∧ e.TraversesWhole 1 "" [v₁, v₂, v₃] ∧
      ∃ pages, (e.traverse 1 "" [v₁, v₂, v₃]).1 = pages.map .ok ∧ Ended pages ∧
        visited pages = [.ofParts 6 0, .ofParts 7 0] := by
  intro stay before v₁ v₂ v₃ e
  let e₁ := (e.visit 1 "" v₁).2
  let e₂ := (e₁.visit 1 (RecordId.ofParts 6 0).hex v₂).2
  let e₃ := e₂.after (.compact .good)
  have hfirst : next? (e.visit 1 "" v₁).1 = some (.ofParts 6 0) := by
    simp only [e, openOn_nil, before, v₁, stay]
    decide +kernel
  have hsecond : next? (e₁.visit 1 (RecordId.ofParts 6 0).hex v₂).1 = some (.ofParts 7 0) := by
    simp only [e₁, e, openOn_nil, before, v₁, v₂, stay]
    decide +kernel
  obtain ⟨huncut, htrusted, hrooms₃⟩ : (e₃.close .good).length ≤ 1000 ∧
      e₃.journal.poisoned = false ∧ e₃.store.roomIds = [.ofParts 6 0, .ofParts 7 0] := by
    simp only [e₃, e₂, e₁, e, openOn_nil, before, v₁, v₂, stay]
    decide +kernel
  have hwhole : e.TraversesWhole 1 "" [v₁, v₂, v₃] := by
    refine ⟨trivial, fun id hid => ?_⟩
    cases hfirst.symm.trans hid
    refine ⟨⟨trivial, trivial, trivial⟩, fun id hid => ?_⟩
    cases hsecond.symm.trans hid
    exact ⟨⟨trivial, huncut, trivial⟩, fun _ _ => trivial⟩
  have hrooms : (e.traverse 1 "" [v₁, v₂, v₃]).2.store.roomIds =
      [.ofParts 6 0, .ofParts 7 0] := by
    have he₁ : e₁.Orderly := (orderly_run [] before).visit hwhole.1 1 ""
    have he₂ : e₂.Orderly := he₁.visit (hwhole.2 _ hfirst).1 1 _
    have he₃ : e₃.Orderly := he₂.compact .good
    rw [traverse_snd_of_next hfirst, traverse_snd_of_next hsecond, traverse_singleton_snd]
    exact (he₃.roomIds_after_reopen huncut htrusted).trans hrooms₃
  obtain ⟨pages, hpages, -, -, hcomplete, hmore⟩ :=
    traverse_complete [] before [v₁, v₂, v₃] (by decide) hwhole
  have hended : Ended pages := by
    by_contra hended
    obtain ⟨hlength, hle⟩ := hmore hended
    rw [hrooms, hlength] at hle
    exact absurd hle (by decide)
  exact ⟨by decide, hwhole, pages, hpages, hended, (hcomplete hended).trans hrooms⟩

end

end Engine

end Lodging
