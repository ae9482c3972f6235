import Lodging.Engine
import Lodging.Proofs.KeyedStores

/-!
# When readers see a book

A book is shown to the readers of the room that it names. A serving store shows it after each event
about its bookings, and a store that is rebuilt from a log shows all books when the last event is
applied. Whatever the log says, each book stands under the room that it names, so both ways lead to
the same store, in which readers of a room see what its writers see.
-/

namespace Lodging

open Std (ExtTreeMap)

section

variable {α β : Type} [Ord α] [Std.TransOrd α] [Std.LawfulEqOrd α] [DecidableEq α]

/-- A modification depends only on what it makes of the value that is there. -/
theorem modify_congr {m : ExtTreeMap α β} {key : α} {v : β} {f g : β → β} (h : m[key]? = some v)
    (hv : f v = g v) : m.modify key f = m.modify key g := by
  refine ExtTreeMap.ext_getElem? fun other => ?_
  rw [lookup_modify, lookup_modify]
  split
  · next hkey => rw [← hkey, h, Option.map_some, Option.map_some, hv]
  · rfl

theorem lookup_foldl_modify (m : ExtTreeMap α β) (keys : List α) {f : β → β}
    (hf : ∀ v, f (f v) = f v) (other : α) :
    (keys.foldl (fun m key => m.modify key f) m)[other]? =
      if other ∈ keys then m[other]?.map f else m[other]? := by
  induction keys generalizing m with
  | nil => simp
  | cons key rest ih =>
      rw [List.foldl_cons, ih, lookup_modify]
      by_cases hkey : key = other
      · -- A value that is changed again stays as it is.
        have htwice : (m[other]?.map f).map f = m[other]?.map f := by
          simp only [Option.map_map, Function.comp_def, hf]
        simp only [htwice, ite_self, hkey, List.mem_cons_self, if_true]
      · simp only [if_neg hkey, List.mem_cons, Ne.symm hkey, false_or]

end

namespace Store

variable {s : Store} {e : Event} {room : RecordId}

/-! ## Showing books -/

/-- Shows a book to the readers of the room that it names. -/
def showBook (s : Store) (book : RoomBook) : Store :=
  { s with rooms := s.rooms.modify book.room.id fun slot => { slot with published := book } }

/-- Shows the current book of a room. -/
def showRoom (s : Store) (room : RecordId) : Store :=
  match s.currentBook? room with
  | some book => s.showBook book
  | none => s

/-- Shows the current books of all rooms, one after the other. -/
def showRooms (s : Store) : Store := s.roomIds.foldl showRoom s

/-- Applies an event, and shows the book of the room whose bookings it concerns. -/
def applyThenShow (s : Store) (event : Event) : Store :=
  match event.bookedRoom? with
  | none => s.applyDocument event
  | some room => (s.applyToCurrent room event).showRoom room

/-! ## Books under the rooms that they name -/

/-- The current book of each room names this room. -/
def Filed (s : Store) : Prop :=
  ∀ (room : RecordId) (slot : RoomSlot), s.rooms[room]? = some slot → slot.current.room.id = room

/-- Publishing changes no current book, so books that are filed afterwards were filed before. -/
theorem filed_of_keyed_publishAll (h : s.publishAll.Keyed) : s.Filed := by
  intro room slot hslot
  have hpublished := s.getElem?_rooms_publishAll room
  rw [hslot, Option.map_some] at hpublished
  obtain ⟨book, heq, hbook⟩ := h.book hpublished
  have hcurrent : slot.current = book := congrArg RoomSlot.current heq
  rw [hcurrent, hbook.room_id]

theorem filed_publish (h : s.Filed) (room : RecordId) : (s.publish room).Filed := by
  intro other slot hslot
  change (s.rooms.modify room RoomSlot.publish)[other]? = some slot at hslot
  rw [lookup_modify] at hslot
  split at hslot
  · obtain ⟨old, hold, rfl⟩ := Option.map_eq_some_iff.mp hslot
    exact h other old hold
  · exact h other slot hslot

theorem Filed.showRoom_eq (h : s.Filed) (room : RecordId) : s.showRoom room = s.publish room := by
  unfold showRoom currentBook? publish
  cases hslot : s.rooms[room]? with
  | none => simp only [Option.map_none, modify_of_absent hslot]
  | some slot =>
      simp only [Option.map_some, showBook, h room slot hslot]
      have hshow : s.rooms.modify room (fun old => { old with published := slot.current }) =
          s.rooms.modify room RoomSlot.publish := modify_congr hslot rfl
      rw [hshow]

theorem Filed.foldl_showRoom (h : s.Filed) (ids : List RecordId) :
    ids.foldl showRoom s = ids.foldl publish s := by
  induction ids generalizing s with
  | nil => rfl
  | cons room rest ih =>
      rw [List.foldl_cons, List.foldl_cons, h.showRoom_eq room, ih (filed_publish h room)]

/-! ## Publishing room by room -/

theorem foldl_publish_eq (s : Store) (ids : List RecordId) :
    ids.foldl publish s = { s with
      rooms := ids.foldl (fun rooms id => rooms.modify id RoomSlot.publish) s.rooms } := by
  induction ids generalizing s with
  | nil => rfl
  | cons room rest ih =>
      rw [List.foldl_cons, ih, List.foldl_cons]
      rfl

theorem foldl_publish_roomIds (s : Store) : s.roomIds.foldl publish s = s.publishAll := by
  rw [foldl_publish_eq, publishAll]
  congr 1
  refine ExtTreeMap.ext_getElem? fun room => ?_
  have htwice (slot : RoomSlot) : slot.publish.publish = slot.publish := rfl
  rw [lookup_foldl_modify _ _ htwice, ExtTreeMap.getElem?_map]
  split
  · rfl
  · next hroom =>
      rw [not_mem_iff_lookup.mp fun hmem => hroom (ExtTreeMap.mem_keys.mpr hmem), Option.map_none]

theorem Filed.showRooms_eq (h : s.Filed) : s.showRooms = s.publishAll :=
  (h.foldl_showRoom s.roomIds).trans s.foldl_publish_roomIds

/-! ## Serving -/

namespace Keyed

/-- Where readers see what writers see, there is nothing to publish. -/
theorem publishAll_eq (h : s.Keyed) : s.publishAll = s := by
  refine congrArg (fun rooms => { s with rooms }) (ExtTreeMap.ext_getElem? fun room => ?_)
  rw [ExtTreeMap.getElem?_map]
  cases hslot : s.rooms[room]? with
  | none => rfl
  | some slot =>
      obtain ⟨book, rfl, -⟩ := h.book hslot
      rfl

/-- An event leaves the books filed also before its room is published. -/
theorem filed_replayEvent (h : s.Keyed) (e : Event) : (s.replayEvent e).Filed := by
  refine filed_of_keyed_publishAll ?_
  rw [publishAll_replayEvent, h.publishAll_eq]
  exact h.apply e

/-- The book that an event changed names the room whose slot is published. -/
theorem applyThenShow_eq (h : s.Keyed) (e : Event) : s.applyThenShow e = s.apply e := by
  have hfiled := h.filed_replayEvent e
  unfold applyThenShow Store.apply
  unfold replayEvent at hfiled
  cases hbooked : e.bookedRoom? with
  | none => rfl
  | some room =>
      simp only [hbooked] at hfiled
      simp only [applyToRoom, hbooked, Option.isSome_some, if_true]
      exact hfiled.showRoom_eq room

theorem foldl_applyThenShow (h : s.Keyed) (events : List Event) :
    events.foldl applyThenShow s = events.foldl Store.apply s := by
  induction events generalizing s with
  | nil => rfl
  | cons e rest ih =>
      rw [List.foldl_cons, List.foldl_cons, h.applyThenShow_eq, ih (h.apply e)]

end Keyed

/-- Whatever the events, a store that is rebuilt from them and published at the end has the
documents, the indexes and the books of one to which they are applied as they come. Readers of each
room then see what its writers see, and it makes no difference whether a book is shown under the
room that it names or in the slot in which it stands. Every engine opens with such a store. -/
theorem replay_eq_applied_and_shown (events : List Event) (file : Log.Bytes) :
    replay events = events.foldl apply empty ∧
      (∀ room, (replay events).publishedBook? room = (replay events).currentBook? room) ∧
      (events.foldl replayEvent empty).showRooms = replay events ∧
      events.foldl applyThenShow empty = events.foldl apply empty ∧
      (Engine.openOn file).store = (Log.recover file).events.foldl apply empty := by
  have hkeyed : (replay events).Keyed := keyed_replay events
  have hfiled : (events.foldl replayEvent empty).Filed := filed_of_keyed_publishAll hkeyed
  refine ⟨replay_eq_foldl_apply events, hkeyed.publishedBook?_eq, hfiled.showRooms_eq, ?_, ?_⟩
  · exact keyed_empty.foldl_applyThenShow events
  · exact replay_eq_foldl_apply (Log.recover file).events

/-- Until the rooms are published, readers do not see a booking that a log entered. -/
example :
    let room : Room := ⟨.ofParts 0 1, .king, ⟨0⟩, ⟨0⟩, .zero⟩
    let night : Stay := ⟨⟨2024, 1, 1, by decide, by decide, by decide⟩,
      ⟨2024, 1, 2, by decide, by decide, by decide⟩⟩
    let booking : Booking := ⟨.ofParts 0 2, room.id, .zero, 1, night, false⟩
    let s := [.roomCreated room, .bookingCreated booking].foldl replayEvent empty
    s.publishedBook? room.id = some (.new room) ∧
      s.publishAll.publishedBook? room.id = some ⟨room, [booking]⟩ := by
  decide +kernel

end Store

end Lodging
