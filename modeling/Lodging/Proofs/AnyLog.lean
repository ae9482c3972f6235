import Lodging.Proofs.Compaction

/-!
# Stores of any log

An engine opens on every log, also on one that creates a document twice or books a room before it is
there. Whatever a log says, documents stand under their own identifiers and readers see what
writers see. A document that is there stays until a user is deleted or a room is created again, and
a snapshot creates every document that is there.
-/

namespace Lodging

open Std (ExtTreeMap)

namespace Store

variable {s t : Store} {e : Event} {id : RecordId} {log : List Event}

/-! ## Stores but for their email addresses -/

/-- The stores differ at most in who holds which email address. -/
def SameButEmails (s t : Store) : Prop := ∃ emails, t = { s with emails }

namespace SameButEmails

theorem refl (s : Store) : s.SameButEmails s := ⟨s.emails, rfl⟩

theorem trans {u : Store} (h : s.SameButEmails t) (h' : t.SameButEmails u) : s.SameButEmails u := by
  obtain ⟨emails, rfl⟩ := h
  obtain ⟨emails', rfl⟩ := h'
  exact ⟨emails', rfl⟩

theorem reserveEmail (s : Store) (email : String) (id : RecordId) :
    s.SameButEmails (s.reserveEmail email id).2 := by
  unfold Store.reserveEmail
  split
  · exact .refl s
  · exact ⟨_, rfl⟩

theorem releaseEmail (s : Store) (email : String) (id : RecordId) :
    s.SameButEmails (s.releaseEmail email id) := ⟨_, releaseEmail_eq s email id⟩

/-- No event looks at the email addresses for anything else. -/
theorem apply (h : s.SameButEmails t) (e : Event) : (s.apply e).SameButEmails (t.apply e) := by
  obtain ⟨emails, rfl⟩ := h
  cases e with
  | userDeleted id =>
      change (s.applyDocument (.userDeleted id)).SameButEmails
        (Store.applyDocument { s with emails } (.userDeleted id))
      cases huser : s.users[id]? with
      | none =>
          simp only [applyDocument, user?, huser]
          exact ⟨emails, rfl⟩
      | some user =>
          simp only [applyDocument, user?, huser, releaseEmail_eq]
          exact ⟨_, rfl⟩
  | bookingCreated b =>
      have hslots : ({ s with emails } : Store).rooms = s.rooms := rfl
      cases hslot : s.rooms[b.room]? with
      | none =>
          rw [apply_of_unknown_room rfl hslot, apply_of_unknown_room rfl (hslots ▸ hslot)]
          exact ⟨emails, rfl⟩
      | some slot =>
          rw [apply_bookingCreated hslot, apply_bookingCreated (hslots ▸ hslot)]
          exact ⟨emails, rfl⟩
  | bookingCanceled id room =>
      have hslots : ({ s with emails } : Store).rooms = s.rooms := rfl
      cases hslot : s.rooms[room]? with
      | none =>
          rw [apply_of_unknown_room rfl hslot, apply_of_unknown_room rfl (hslots ▸ hslot)]
          exact ⟨emails, rfl⟩
      | some slot =>
          rw [apply_bookingCanceled hslot, apply_bookingCanceled (hslots ▸ hslot)]
          exact ⟨emails, rfl⟩
  | userCreated user => exact ⟨_, rfl⟩
  | _ => exact ⟨emails, rfl⟩

theorem rooms_eq (h : s.SameButEmails t) : t.rooms = s.rooms := by
  obtain ⟨emails, rfl⟩ := h
  rfl

theorem keyed (h : s.SameButEmails t) (hs : s.Keyed) : t.Keyed := by
  obtain ⟨emails, rfl⟩ := h
  exact hs.congr rfl rfl rfl

end SameButEmails

/-! ## Documents that are there -/

/-- A hotel, a user, a room or a booking of the identifier is there. -/
def Shows (s : Store) (id : RecordId) : Prop :=
  id ∈ s.hotels ∨ id ∈ s.users ∨ id ∈ s.rooms ∨ ∃ room, ∃ x ∈ s.entriesIn room, x.id = id

theorem SameButEmails.shows_iff (h : s.SameButEmails t) : t.Shows id ↔ s.Shows id := by
  obtain ⟨emails, rfl⟩ := h
  rfl

/-- An event shows nothing new but what it is about. -/
theorem subject_of_shows_apply (h : (s.apply e).Shows id) : s.Shows id ∨ e.subject = id := by
  rcases h with h | h | h | ⟨room, h⟩
  · rcases mem_hotels_apply.mp h with h | ⟨name, location, rating, rfl⟩
    · exact .inl (.inl h)
    · exact .inr rfl
  · rcases mem_users_of_apply h with h | ⟨user, rfl, hid⟩
    · exact .inl (.inr (.inl h))
    · exact .inr hid
  · rcases mem_rooms_apply.mp h with h | ⟨room, rfl, hid⟩
    · exact .inl (.inr (.inr (.inl h)))
    · exact .inr hid
  · rcases exists_entry_of_apply h with h | ⟨b, rfl, hid⟩
    · exact .inl (.inr (.inr (.inr ⟨room, h⟩)))
    · exact .inr hid

theorem not_shows_empty : ¬ empty.Shows id := by
  simp [Shows, empty, entriesIn, bookingsIn, currentBook?]

/-- What is there after a log, the log is about. -/
theorem exists_subject_of_shows (h : (replay log).Shows id) : ∃ x ∈ log, x.subject = id :=
  exists_reason_of_replay (P := (·.Shows id)) not_shows_empty (fun _ _ => subject_of_shows_apply) h

theorem mem_users_apply (h : id ∈ s.users) (hdeleted : e ≠ .userDeleted id) :
    id ∈ (s.apply e).users := by
  cases e with
  | userCreated user =>
      change id ∈ s.users.insert user.id user
      exact ExtTreeMap.mem_insert.mpr (.inr h)
  | userUpdated id' update =>
      change id ∈ s.users.modify id' update.apply
      exact ExtTreeMap.mem_modify.mpr h
  | userDeleted id' =>
      have hne : id' ≠ id := fun hid => hdeleted (hid ▸ rfl)
      rw [mem_iff_lookup] at h ⊢
      rwa [users_apply_userDeleted, if_neg hne]
  | bookingCreated b => rwa [(apply_of_booked (e := .bookingCreated b) rfl).2.1]
  | bookingCanceled id' room => rwa [(apply_of_booked (e := .bookingCanceled id' room) rfl).2.1]
  | _ => exact h

theorem exists_entry_apply {room : RecordId} (h : ∃ x ∈ s.entriesIn room, x.id = id)
    (hroom : ∀ room, e = .roomCreated room → room.id ∉ s.rooms) :
    ∃ x ∈ (s.apply e).entriesIn room, x.id = id := by
  cases e with
  | bookingCreated b =>
      by_cases hknown : b.room ∈ s.rooms
      · obtain ⟨x, hx, hid⟩ := h
        exact ⟨x, (mem_entriesIn_apply_bookingCreated hknown).mpr (.inr hx), hid⟩
      · rwa [apply_of_unknown_room rfl (not_mem_iff_lookup.mp hknown)]
  | bookingCanceled id' room' => rwa [entriesIn_apply_bookingCanceled]
  | roomCreated room' =>
      obtain ⟨x, hx, hid⟩ := h
      rw [entriesIn, bookingsIn_apply_roomCreated (hroom room' rfl)]
      exact ⟨x, hx, hid⟩
  | userDeleted id' =>
      obtain ⟨users, emails, heq, -⟩ := s.apply_userDeleted id'
      rwa [heq]
  | _ => exact h

/-- What is there stays, unless it is a user who is deleted or a booking of a room that is created
again. -/
theorem Shows.apply (h : s.Shows id) (hdeleted : e ≠ .userDeleted id)
    (hroom : ∀ room, e = .roomCreated room → room.id ∉ s.rooms) : (s.apply e).Shows id := by
  rcases h with h | h | h | ⟨room, h⟩
  · exact .inl (mem_hotels_apply.mpr (.inl h))
  · exact .inr (.inl (mem_users_apply h hdeleted))
  · exact .inr (.inr (.inl (mem_rooms_apply.mpr (.inl h))))
  · exact .inr (.inr (.inr ⟨room, exists_entry_apply h hroom⟩))

/-! ## What a snapshot creates -/

theorem mem_users_replay {user : User} (h : .userCreated user ∈ log)
    (hdeleted : .userDeleted user.id ∉ log) : user.id ∈ (replay log).users := by
  obtain ⟨past, rest, rfl⟩ := List.append_of_mem h
  rw [replay_append, List.foldl_cons]
  -- The user is there after the creation, and nothing that follows takes it away.
  refine List.foldlRecOn (motive := fun s : Store => user.id ∈ s.users) rest Store.apply ?_ ?_
  · change user.id ∈ (replay past).users.insert user.id user
    exact ExtTreeMap.mem_insert_self
  · intro s hs e he
    refine mem_users_apply hs ?_
    rintro rfl
    exact hdeleted (List.mem_append_right _ (List.mem_cons_of_mem _ he))

namespace Keyed

/-- The room of a booking is there, and a snapshot creates it before any booking. -/
theorem exists_room_of_mem (h : s.Keyed) {b : Booking} (hb : b ∈ s.allBookings) :
    ∃ slot ∈ s.rooms.values, slot.published.room.id = b.room := by
  obtain ⟨slot, hslot, hb⟩ := List.mem_flatMap.mp (mem_byId.mp hb)
  obtain ⟨key, hkey⟩ := mem_values.mp hslot
  obtain ⟨book, rfl, hbook⟩ := h.book hkey
  exact ⟨_, hslot, hbook.room_id.trans (hbook.bookings b hb).symm⟩

/-- A snapshot is about nothing but what is there. -/
theorem shows_of_mem_snapshot (h : s.Keyed) (he : e ∈ s.snapshot) : s.Shows e.subject := by
  simp only [snapshot, List.mem_append, List.mem_map] at he
  rcases he with ((⟨hotel, hmem, rfl⟩ | ⟨user, hmem, rfl⟩) | ⟨slot, hmem, rfl⟩) | ⟨b, hmem, rfl⟩
  · obtain ⟨key, hkey⟩ := mem_values.mp hmem
    rw [← h.hotel_id hkey] at hkey
    exact .inl (mem_iff_lookup.mpr ⟨hotel, hkey⟩)
  · obtain ⟨key, hkey⟩ := mem_values.mp hmem
    rw [← h.user_id hkey] at hkey
    exact .inr (.inl (mem_iff_lookup.mpr ⟨user, hkey⟩))
  · obtain ⟨key, hkey⟩ := mem_values.mp hmem
    obtain ⟨book, rfl, hbook⟩ := h.book hkey
    rw [← hbook.room_id] at hkey
    exact .inr (.inr (.inl (mem_iff_lookup.mpr ⟨_, hkey⟩)))
  · have hb := h.mem_bookingsIn_iff.mpr ⟨hmem, rfl⟩
    exact .inr (.inr (.inr ⟨b.room, b.entry, List.mem_map_of_mem hb, rfl⟩))

/-- Where a snapshot creates a booking: its room is there already, and only bookings follow. -/
theorem snapshot_split_at (h : s.Keyed) {before after : List Booking} {b : Booking}
    (hsplit : s.allBookings = before ++ b :: after) :
    ∃ past, s.snapshot = past ++ .bookingCreated b :: after.map .bookingCreated ∧
      b.room ∈ (replay past).rooms ∧ ∀ b', .bookingCreated b' ∈ past ↔ b' ∈ before := by
  refine ⟨s.allHotels.map (fun h => .hotelCreated h.id h.name h.location h.rating) ++
    s.allUsers.map .userCreated ++ s.rooms.values.map (fun slot => .roomCreated slot.published.room)
    ++ before.map .bookingCreated, ?_, ?_, ?_⟩
  · simp only [snapshot, hsplit, List.map_append, List.map_cons, List.append_assoc]
  · obtain ⟨slot, hslot, hroom⟩ := h.exists_room_of_mem
      (hsplit ▸ List.mem_append_right before List.mem_cons_self)
    exact mem_rooms_replay.mpr ⟨slot.published.room, by simpa using ⟨slot, hslot, rfl⟩, hroom⟩
  · simp

theorem mem_rooms_replay_snapshot (h : s.Keyed) (hid : id ∈ s.rooms) :
    id ∈ (replay s.snapshot).rooms := by
  obtain ⟨slot, hslot⟩ := mem_iff_lookup.mp hid
  obtain ⟨book, rfl, hbook⟩ := h.book hslot
  refine mem_rooms_replay.mpr ⟨book.room, ?_, hbook.room_id⟩
  exact roomCreated_mem_snapshot.mpr ⟨_, mem_values.mpr ⟨id, hslot⟩, rfl⟩

/-- All that is there is there again after a snapshot. -/
theorem shows_replay_snapshot (h : s.Keyed) (hid : s.Shows id) :
    (replay s.snapshot).Shows id := by
  rcases hid with hid | hid | hid | ⟨room, x, hx, rfl⟩
  · obtain ⟨hotel, hhotel⟩ := mem_iff_lookup.mp hid
    obtain rfl := h.hotel_id hhotel
    refine .inl (mem_hotels_replay.mpr ⟨hotel.name, hotel.location, hotel.rating, ?_⟩)
    exact hotelCreated_mem_snapshot.mpr ⟨hotel.rooms, mem_values.mpr ⟨_, hhotel⟩⟩
  · obtain ⟨user, huser⟩ := mem_iff_lookup.mp hid
    obtain rfl := h.user_id huser
    refine .inr (.inl (mem_users_replay (userCreated_mem_snapshot.mpr
      (mem_values.mpr ⟨_, huser⟩)) fun hdeleted => ?_))
    cases isCreation_of_mem_snapshot hdeleted
  · exact .inr (.inr (.inl (h.mem_rooms_replay_snapshot hid)))
  · obtain ⟨b, hb, rfl⟩ := List.mem_map.mp hx
    obtain ⟨before, after, hsplit⟩ := List.append_of_mem (h.mem_bookingsIn_iff.mp hb).1
    obtain ⟨past, hsnapshot, hroom, -⟩ := h.snapshot_split_at hsplit
    rw [hsnapshot, replay_append, List.foldl_cons]
    refine List.foldlRecOn (motive := fun t : Store => t.Shows b.id) _ Store.apply ?_ ?_
    · exact .inr (.inr (.inr ⟨b.room, b.entry,
        (mem_entriesIn_apply_bookingCreated hroom).mpr (.inl ⟨rfl, rfl⟩), rfl⟩))
    · intro t ht e he
      obtain ⟨b', -, rfl⟩ := List.mem_map.mp he
      exact ht.apply nofun nofun

end Keyed

end Store

end Lodging
