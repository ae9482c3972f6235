import Lodging.Store.Replay
import Mathlib.Data.List.Induction

/-!
# Replaying a log

Replay publishes the rooms once, at the end, while a running store publishes a room after each of
its events. Both give the same store, so a log is replayed by applying its events one by one, and
what every event keeps, given what the log allows, every log keeps.
-/

namespace Lodging

open Std (ExtTreeMap)

attribute [ext] Store RoomBook

/-! ## Looking up keys -/

section

variable {α β : Type} [Ord α] [Std.TransOrd α] {m : ExtTreeMap α β}

theorem mem_iff_lookup {key : α} : key ∈ m ↔ ∃ v, m[key]? = some v := by
  rw [ExtTreeMap.mem_iff_isSome_getElem?, Option.isSome_iff_exists]

theorem not_mem_iff_lookup {key : α} : key ∉ m ↔ m[key]? = none := by
  rw [ExtTreeMap.mem_iff_isSome_getElem?, Bool.not_eq_true, Option.isSome_eq_false_iff,
    Option.isNone_iff_eq_none]

variable [Std.LawfulEqOrd α] [DecidableEq α]

theorem lookup_insert (m : ExtTreeMap α β) (key other : α) (v : β) :
    (m.insert key v)[other]? = if key = other then some v else m[other]? := by
  simp only [ExtTreeMap.getElem?_insert, Std.LawfulEqOrd.compare_eq_iff_eq]

theorem lookup_modify (m : ExtTreeMap α β) (key other : α) (f : β → β) :
    (m.modify key f)[other]? = if key = other then m[other]?.map f else m[other]? := by
  simp only [ExtTreeMap.getElem?_modify, Std.LawfulEqOrd.compare_eq_iff_eq]
  split
  · next hkey => rw [hkey]
  · rfl

theorem lookup_erase (m : ExtTreeMap α β) (key other : α) :
    (m.erase key)[other]? = if key = other then none else m[other]? := by
  simp only [ExtTreeMap.getElem?_erase, Std.LawfulEqOrd.compare_eq_iff_eq]

theorem insert_insert_self (m : ExtTreeMap α β) (key : α) (v w : β) :
    (m.insert key v).insert key w = m.insert key w := by
  refine ExtTreeMap.ext_getElem? fun other => ?_
  simp only [lookup_insert]
  split <;> rfl

theorem erase_insert_of_absent {key : α} {v : β} (h : m[key]? = none) :
    (m.insert key v).erase key = m := by
  refine ExtTreeMap.ext_getElem? fun other => ?_
  rw [lookup_erase, lookup_insert]
  split
  · next hkey => rw [← hkey, h]
  · rfl

theorem modify_insert_self (m : ExtTreeMap α β) (key : α) (v : β) (f : β → β) :
    (m.insert key v).modify key f = m.insert key (f v) := by
  refine ExtTreeMap.ext_getElem? fun other => ?_
  simp only [lookup_modify, lookup_insert]
  split <;> rfl

theorem modify_of_absent {key : α} {f : β → β} (h : m[key]? = none) :
    m.modify key f = m := by
  refine ExtTreeMap.ext_getElem? fun other => ?_
  rw [lookup_modify]
  split
  · next hkey => rw [← hkey, h, Option.map_none]
  · rfl

end

/-- A room of which readers and writers see the same book. -/
def RoomSlot.shown (book : RoomBook) : RoomSlot := ⟨book, book⟩

/-- The booking that is entered by the event. -/
def Event.entered? : Event → Option Booking
  | bookingCreated b => some b
  | _ => none

/-- The book of a room after an event about its bookings. -/
def RoomBook.after (book : RoomBook) : Event → RoomBook
  | .bookingCreated b => book.insert b
  | .bookingCanceled id _ => book.cancel id
  | _ => book

@[simp] theorem RoomBook.room_after (book : RoomBook) (e : Event) :
    (book.after e).room = book.room := by
  cases e <;> rfl

namespace Store

/-! ## One event -/

variable {s : Store} {e : Event} {room : RecordId} {slot : RoomSlot}

theorem releaseEmail_eq (s : Store) (email : String) (id : RecordId) :
    s.releaseEmail email id = { s with
      emails := if s.userByEmail? email = some id then s.emails.erase (Text.lowercase email)
        else s.emails } := by
  unfold releaseEmail
  split <;> rfl

/-- An event about the bookings of an unknown room changes nothing. -/
theorem apply_of_unknown_room (hroom : e.bookedRoom? = some room) (h : s.rooms[room]? = none) :
    s.apply e = s := by
  simp only [apply, hroom, applyToRoom, Option.isSome_some, if_true, applyToCurrent, h, publish,
    modify_of_absent h]

theorem apply_bookingCreated {b : Booking} (h : s.rooms[b.room]? = some slot) :
    s.apply (.bookingCreated b) = { s.indexBooking b with
      rooms := s.rooms.insert b.room (.shown (slot.current.insert b)) } := by
  change (s.applyToCurrent b.room (.bookingCreated b)).publish b.room = _
  simp only [applyToCurrent, h, publish, modify_insert_self]
  rfl

theorem apply_bookingCanceled {id : RecordId} (h : s.rooms[room]? = some slot) :
    s.apply (.bookingCanceled id room) = { s with
      rooms := s.rooms.insert room (.shown (slot.current.cancel id)) } := by
  change (s.applyToCurrent room (.bookingCanceled id room)).publish room = _
  simp only [applyToCurrent, h, publish, modify_insert_self]
  rfl

/-- An event about the bookings of a room puts its new book in the place of the old one. -/
theorem rooms_apply_of_booked (hroom : e.bookedRoom? = some room)
    (h : s.rooms[room]? = some slot) :
    (s.apply e).rooms = s.rooms.insert room (.shown (slot.current.after e)) := by
  cases e with
  | bookingCreated b =>
      obtain rfl := Option.some.inj hroom
      rw [apply_bookingCreated h]
      rfl
  | bookingCanceled id room' =>
      obtain rfl := Option.some.inj hroom
      rw [apply_bookingCanceled h]
      rfl
  | _ => cases hroom

/-- The documents of an event about bookings stay as they were. -/
theorem apply_of_booked (hroom : e.bookedRoom? = some room) :
    (s.apply e).hotels = s.hotels ∧ (s.apply e).users = s.users ∧
      (s.apply e).emails = s.emails := by
  cases hslot : s.rooms[room]? with
  | none => simp only [apply_of_unknown_room hroom hslot, and_self]
  | some slot =>
      cases e with
      | bookingCreated b =>
          obtain rfl := Option.some.inj hroom
          rw [apply_bookingCreated hslot]
          exact ⟨rfl, rfl, rfl⟩
      | bookingCanceled id room' =>
          obtain rfl := Option.some.inj hroom
          rw [apply_bookingCanceled hslot]
          exact ⟨rfl, rfl, rfl⟩
      | _ => cases hroom

/-- The deletion of a user concerns nothing but users and email addresses, and adds neither. -/
theorem apply_userDeleted (s : Store) (id : RecordId) :
    ∃ users emails, s.apply (.userDeleted id) = { s with users, emails } ∧
      ∀ key ∈ users, key ∈ s.users := by
  change ∃ users emails, s.applyDocument (.userDeleted id) = { s with users, emails } ∧ _
  simp only [applyDocument, releaseEmail_eq]
  split
  · exact ⟨_, _, rfl, fun key hkey => ExtTreeMap.mem_of_mem_erase hkey⟩
  · exact ⟨_, _, rfl, fun key hkey => hkey⟩

/-! ## Which documents there are -/

theorem mem_hotels_apply {id : RecordId} : id ∈ (s.apply e).hotels ↔
    id ∈ s.hotels ∨ ∃ name location rating, e = .hotelCreated id name location rating := by
  cases e with
  | hotelCreated id' name location rating =>
      change id ∈ s.hotels.insert id' _ ↔ _
      rw [ExtTreeMap.mem_insert, Std.LawfulEqOrd.compare_eq_iff_eq, or_comm]
      simp
  | hotelUpdated id' update =>
      change id ∈ s.hotels.modify id' _ ↔ _
      simp [ExtTreeMap.mem_modify]
  | roomCreated room =>
      change id ∈ s.hotels.modify room.hotel _ ↔ _
      simp [ExtTreeMap.mem_modify]
  | userDeleted id' =>
      obtain ⟨users, emails, heq, -⟩ := s.apply_userDeleted id'
      simp [heq]
  | bookingCreated b => simp [(apply_of_booked (s := s) (e := .bookingCreated b) rfl).1]
  | bookingCanceled id' room =>
      simp [(apply_of_booked (s := s) (e := .bookingCanceled id' room) rfl).1]
  | userCreated user => exact ⟨.inl, fun h => h.resolve_right (by simp)⟩
  | userUpdated id' update => exact ⟨.inl, fun h => h.resolve_right (by simp)⟩

/-- An event leaves the rooms alone or puts one book in its place, for readers and writers. -/
theorem rooms_apply_cases (s : Store) (e : Event) : (s.apply e).rooms = s.rooms ∨
    ∃ room book, (s.apply e).rooms = s.rooms.insert room (.shown book) := by
  cases hbooked : e.bookedRoom? with
  | some room =>
      cases hslot : s.rooms[room]? with
      | none => exact .inl (by rw [apply_of_unknown_room hbooked hslot])
      | some slot => exact .inr ⟨room, _, rooms_apply_of_booked hbooked hslot⟩
  | none =>
      cases e with
      | roomCreated room => exact .inr ⟨room.id, .new room, rfl⟩
      | userDeleted id =>
          obtain ⟨users, emails, heq, -⟩ := s.apply_userDeleted id
          exact .inl (by rw [heq])
      | bookingCreated b => cases hbooked
      | bookingCanceled id room => cases hbooked
      | _ => exact .inl rfl

theorem mem_rooms_apply {id : RecordId} : id ∈ (s.apply e).rooms ↔
    id ∈ s.rooms ∨ ∃ room, e = .roomCreated room ∧ room.id = id := by
  cases hbooked : e.bookedRoom? with
  | some room =>
      rw [or_iff_left (by rintro ⟨room', rfl, -⟩; cases hbooked)]
      cases hslot : s.rooms[room]? with
      | none => rw [apply_of_unknown_room hbooked hslot]
      | some slot =>
          rw [rooms_apply_of_booked hbooked hslot, ExtTreeMap.mem_insert,
            Std.LawfulEqOrd.compare_eq_iff_eq, or_iff_right_of_imp]
          rintro rfl
          exact mem_iff_lookup.mpr ⟨slot, hslot⟩
  | none =>
      cases e with
      | roomCreated room =>
          change id ∈ s.rooms.insert room.id _ ↔ _
          rw [ExtTreeMap.mem_insert, Std.LawfulEqOrd.compare_eq_iff_eq, or_comm]
          simp
      | userDeleted id' =>
          obtain ⟨users, emails, heq, -⟩ := s.apply_userDeleted id'
          simp [heq]
      | bookingCreated b => cases hbooked
      | bookingCanceled id' room => cases hbooked
      | _ => exact ⟨.inl, fun h => h.resolve_right (by simp)⟩

theorem mem_users_of_apply {id : RecordId} (h : id ∈ (s.apply e).users) :
    id ∈ s.users ∨ ∃ user, e = .userCreated user ∧ user.id = id := by
  cases e with
  | userCreated user =>
      change id ∈ s.users.insert user.id user at h
      rw [ExtTreeMap.mem_insert, Std.LawfulEqOrd.compare_eq_iff_eq] at h
      exact h.symm.imp_right fun heq => ⟨user, rfl, heq⟩
  | userUpdated id' update =>
      change id ∈ s.users.modify id' _ at h
      exact .inl (ExtTreeMap.mem_modify.mp h)
  | userDeleted id' =>
      obtain ⟨users, emails, heq, husers⟩ := s.apply_userDeleted id'
      rw [heq] at h
      exact .inl (husers id h)
  | bookingCreated b => exact .inl ((apply_of_booked (e := .bookingCreated b) rfl).2.1 ▸ h)
  | bookingCanceled id' room =>
      exact .inl ((apply_of_booked (e := .bookingCanceled id' room) rfl).2.1 ▸ h)
  | _ => exact .inl h

theorem mem_roomOfBooking_of_apply {id : RecordId} (h : id ∈ (s.apply e).roomOfBooking) :
    id ∈ s.roomOfBooking ∨ ∃ b, e = .bookingCreated b ∧ b.id = id := by
  cases e with
  | bookingCreated b =>
      cases hslot : s.rooms[b.room]? with
      | none =>
          rw [apply_of_unknown_room rfl hslot] at h
          exact .inl h
      | some slot =>
          rw [apply_bookingCreated hslot] at h
          change id ∈ s.roomOfBooking.insert b.id b.room at h
          rw [ExtTreeMap.mem_insert, Std.LawfulEqOrd.compare_eq_iff_eq] at h
          exact h.symm.imp_right fun heq => ⟨b, rfl, heq⟩
  | bookingCanceled id' room =>
      cases hslot : s.rooms[room]? with
      | none => exact .inl (apply_of_unknown_room (e := .bookingCanceled id' room) rfl hslot ▸ h)
      | some slot =>
          rw [apply_bookingCanceled hslot] at h
          exact .inl h
  | userDeleted id' =>
      obtain ⟨users, emails, heq, -⟩ := s.apply_userDeleted id'
      rw [heq] at h
      exact .inl h
  | _ => exact .inl h

/-! ## A whole log -/

theorem map_publish_insert (rooms : ExtTreeMap RecordId RoomSlot) (room : RecordId)
    (slot : RoomSlot) :
    (rooms.insert room slot).map (fun _ slot => slot.publish) =
      (rooms.map fun _ slot => slot.publish).insert room slot.publish := by
  refine ExtTreeMap.ext_getElem? fun key => ?_
  simp only [ExtTreeMap.getElem?_map, lookup_insert]
  split <;> rfl

theorem getElem?_rooms_publishAll (s : Store) (room : RecordId) :
    s.publishAll.rooms[room]? = s.rooms[room]?.map RoomSlot.publish := by
  simp only [publishAll, ExtTreeMap.getElem?_map]

theorem publishAll_applyToCurrent (s : Store) (hroom : e.bookedRoom? = some room) :
    (s.applyToCurrent room e).publishAll = s.publishAll.apply e := by
  have hshown := s.getElem?_rooms_publishAll room
  cases hslot : s.rooms[room]? with
  | none =>
      rw [hslot, Option.map_none] at hshown
      rw [apply_of_unknown_room hroom hshown]
      simp only [applyToCurrent, hslot]
  | some slot =>
      rw [hslot, Option.map_some] at hshown
      cases e with
      | bookingCreated b =>
          obtain rfl := Option.some.inj hroom
          rw [apply_bookingCreated hshown]
          simp only [applyToCurrent, hslot, publishAll, map_publish_insert]
          rfl
      | bookingCanceled id room' =>
          obtain rfl := Option.some.inj hroom
          rw [apply_bookingCanceled hshown]
          simp only [applyToCurrent, hslot, publishAll, map_publish_insert]
          rfl
      | _ => cases hroom

/-- Publishing at the end is as good as publishing after each event. -/
theorem publishAll_replayEvent (s : Store) (e : Event) :
    (s.replayEvent e).publishAll = s.publishAll.apply e := by
  cases e with
  | userDeleted id =>
      change (s.applyDocument (.userDeleted id)).publishAll =
        s.publishAll.applyDocument (.userDeleted id)
      simp only [applyDocument, releaseEmail_eq]
      cases huser : s.users[id]? with
      | none => simp only [user?, publishAll, huser]
      | some user =>
          simp only [user?, publishAll, huser]
          rfl
  | roomCreated room =>
      -- A new room is born published.
      change (s.applyDocument (.roomCreated room)).publishAll =
        s.publishAll.applyDocument (.roomCreated room)
      simp only [applyDocument, publishAll, map_publish_insert]
      rfl
  | bookingCreated b => exact s.publishAll_applyToCurrent rfl
  | bookingCanceled id room => exact s.publishAll_applyToCurrent rfl
  | _ => rfl

theorem publishAll_foldl_replayEvent (s : Store) (events : List Event) :
    (events.foldl replayEvent s).publishAll = events.foldl apply s.publishAll := by
  induction events generalizing s with
  | nil => rfl
  | cons e rest ih => rw [List.foldl_cons, ih, publishAll_replayEvent, List.foldl_cons]

@[simp] theorem publishAll_empty : empty.publishAll = empty := by
  refine congrArg (fun rooms => { empty with rooms }) (ExtTreeMap.ext_getElem? fun room => ?_)
  rw [ExtTreeMap.getElem?_map]
  rfl

/-- A log is replayed by applying its events one by one. -/
theorem replay_eq_foldl_apply (events : List Event) :
    replay events = events.foldl apply empty := by
  rw [replay, publishAll_foldl_replayEvent, publishAll_empty]

@[simp] theorem replay_nil : replay [] = empty := replay_eq_foldl_apply []

theorem replay_append (past rest : List Event) :
    replay (past ++ rest) = rest.foldl apply (replay past) := by
  simp only [replay_eq_foldl_apply, List.foldl_append]

theorem replay_append_singleton (events : List Event) (e : Event) :
    replay (events ++ [e]) = (replay events).apply e := replay_append events [e]

/-- A log has exactly the hotels that it created. -/
theorem mem_hotels_replay {events : List Event} {id : RecordId} : id ∈ (replay events).hotels ↔
    ∃ name location rating, .hotelCreated id name location rating ∈ events := by
  induction events using List.reverseRecOn with
  | nil => simp [empty]
  | append_singleton past e ih =>
      simp only [replay_append_singleton, mem_hotels_apply, ih, List.mem_append,
        List.mem_singleton, exists_or, eq_comm]

/-- A log has exactly the rooms that it created. -/
theorem mem_rooms_replay {events : List Event} {id : RecordId} : id ∈ (replay events).rooms ↔
    ∃ room, .roomCreated room ∈ events ∧ room.id = id := by
  induction events using List.reverseRecOn with
  | nil => simp [empty]
  | append_singleton past e ih =>
      simp only [replay_append_singleton, mem_rooms_apply, ih, List.mem_append,
        List.mem_singleton, or_and_right, exists_or, eq_comm]

/-- What holds of a replayed store but not of the empty one, some event of the log brought about. -/
theorem exists_reason_of_replay {P : Store → Prop} {reason : Event → Prop} {events : List Event}
    (hempty : ¬ P empty) (hstep : ∀ s e, P (s.apply e) → P s ∨ reason e) (h : P (replay events)) :
    ∃ e ∈ events, reason e := by
  induction events using List.reverseRecOn with
  | nil => exact absurd (replay_nil ▸ h) hempty
  | append_singleton past e ih =>
      rw [replay_append_singleton] at h
      rcases hstep _ _ h with h | hreason
      · obtain ⟨e', he', hreason⟩ := ih h
        exact ⟨e', List.mem_append_left _ he', hreason⟩
      · exact ⟨e, List.mem_append_right _ List.mem_cons_self, hreason⟩

theorem mem_users_of_replay {events : List Event} {id : RecordId}
    (h : id ∈ (replay events).users) : ∃ user, .userCreated user ∈ events ∧ user.id = id := by
  obtain ⟨_, hmem, user, rfl, hid⟩ := exists_reason_of_replay (P := fun s => id ∈ s.users)
    ExtTreeMap.not_mem_empty (fun _ _ => mem_users_of_apply) h
  exact ⟨user, hmem, hid⟩

theorem mem_roomOfBooking_of_replay {events : List Event} {id : RecordId}
    (h : id ∈ (replay events).roomOfBooking) : ∃ b, .bookingCreated b ∈ events ∧ b.id = id := by
  obtain ⟨_, hmem, b, rfl, hid⟩ := exists_reason_of_replay (P := fun s => id ∈ s.roomOfBooking)
    ExtTreeMap.not_mem_empty (fun _ _ => mem_roomOfBooking_of_apply) h
  exact ⟨b, hmem, hid⟩

/-! ## What a log allows -/

/-- Each event of the log is allowed by the store that the events before it leave. -/
def History (allows : Store → Event → Prop) (events : List Event) : Prop :=
  ∀ past e rest, events = past ++ e :: rest → allows (replay past) e

namespace History

variable {allows : Store → Event → Prop} {events : List Event} {e : Event}

theorem nil : History allows [] := fun past e rest h => by simp at h

theorem of_isPrefix {past : List Event} (h : History allows events) (hpast : past <+: events) :
    History allows past := by
  obtain ⟨more, rfl⟩ := hpast
  rintro past e rest rfl
  exact h past e (rest ++ more) (by simp)

theorem append_singleton (h : History allows events) (he : allows (replay events) e) :
    History allows (events ++ [e]) := by
  intro past e' rest heq
  -- The split is at the new event, or it is a split of the log before.
  rcases rest.eq_nil_or_concat with rfl | ⟨middle, last, rfl⟩
  · obtain ⟨rfl, hlast⟩ := List.append_inj' heq rfl
    obtain rfl := List.singleton_inj.mp hlast
    exact he
  · have hsplit : events ++ [e] = (past ++ e' :: middle) ++ [last] := by simpa using heq
    exact h past e' middle (List.append_inj' hsplit rfl).1

/-- What holds of the empty store and is kept by every allowed event holds of every store that is
replayed. -/
theorem invariant {P : Store → Prop} (h : History allows events) (hempty : P empty)
    (hstep : ∀ s e, P s → allows s e → P (s.apply e)) : P (replay events) := by
  induction events using List.reverseRecOn with
  | nil => rwa [replay_nil]
  | append_singleton past e ih =>
      rw [replay_append_singleton]
      exact hstep _ _ (ih (h.of_isPrefix (List.prefix_append _ _))) (h past e [] rfl)

end History

end Store

end Lodging
