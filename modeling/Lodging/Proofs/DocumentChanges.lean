import Lodging.Proofs.Admissions

/-!
# Changes of documents

A change of documents that is answered as good makes one hotel, user or room, updates one, or
removes a user, together with what the index of email addresses or the list of a hotel says of it.
All else stays as it was. What the change is answered with is found from then on, and also when the
engine is closed and opened again. An update that names no field does nothing at all, so it is also
answered when the log takes nothing any more. What is then found on the log may be something else.
-/

namespace Lodging

open Std (ExtTreeMap)
open Log (Conditions)

section

variable {α β : Type} [Ord α] [Std.TransOrd α] [Std.LawfulEqOrd α] [DecidableEq α]
variable {m : ExtTreeMap α β} {key : α} {v : β}

theorem insert_of_lookup (h : m[key]? = some v) : m.insert key v = m := by
  refine ExtTreeMap.ext_getElem? fun other => ?_
  rw [lookup_insert]
  split
  · next hkey => rw [← hkey, h]
  · rfl

theorem modify_eq_insert (h : m[key]? = some v) (f : β → β) :
    m.modify key f = m.insert key (f v) := by
  refine ExtTreeMap.ext_getElem? fun other => ?_
  rw [lookup_modify, lookup_insert]
  split
  · next hkey => rw [← hkey, h, Option.map_some]
  · rfl

end

/-- Whether the change is an update that names no field. -/
def Change.isEmptyUpdate : Change → Bool
  | .updateHotel _ update => update.isEmpty
  | .updateUser _ update => update.isEmpty
  | _ => false

theorem HotelUpdate.apply_of_isEmpty {update : HotelUpdate} (h : update.isEmpty = true)
    (hotel : Hotel) : update.apply hotel = hotel := by
  obtain ⟨hname, hlocation⟩ := (Bool.and_eq_true _ _).mp h
  rw [HotelUpdate.apply, Option.isNone_iff_eq_none.mp hname, Option.isNone_iff_eq_none.mp hlocation]
  rfl

theorem UserUpdate.apply_of_isEmpty {update : UserUpdate} (h : update.isEmpty = true)
    (user : User) : update.apply user = user := by
  obtain ⟨hfirst, hlast⟩ := (Bool.and_eq_true _ _).mp h
  rw [UserUpdate.apply, Option.isNone_iff_eq_none.mp hfirst, Option.isNone_iff_eq_none.mp hlast]
  rfl

namespace Store

variable {s t : Store} {change : Change} {reply : Reply} {p : Plan}

/-! ## One document -/

/-- What a change of documents is answered with, and what it makes of a store: one document is new,
has new fields, or is gone, and an email address or the list of a hotel goes with it. -/
inductive Changes (s : Store) : Change → Reply → Store → Prop
  | hotelCreated {name location : String} {rating : UInt8} {hotel : Hotel}
      (hfields : hotel = ⟨hotel.id, name, location, [], rating⟩) (hnew : hotel.id ∉ s.hotels) :
      s.Changes (.createHotel name location rating) (.hotel hotel)
        { s with hotels := s.hotels.insert hotel.id hotel }
  | hotelUpdated {text : String} {update : HotelUpdate} {old hotel : Hotel}
      (hread : readId text = .ok old.id) (hold : s.hotels[old.id]? = some old)
      (hfields : hotel = ⟨old.id, update.name.getD old.name, update.location.getD old.location,
        old.rooms, old.rating⟩) :
      s.Changes (.updateHotel text update) (.hotel hotel)
        { s with hotels := s.hotels.insert old.id hotel }
  | userCreated {firstName lastName email : String} {isAdmin : Bool} {user : User}
      (hfields : user = ⟨user.id, firstName, lastName, email, isAdmin⟩) (hnew : user.id ∉ s.users)
      (hfree : s.emails[Text.lowercase email]? = none) :
      s.Changes (.createUser firstName lastName email isAdmin) (.user user)
        { s with
          users := s.users.insert user.id user
          emails := s.emails.insert (Text.lowercase email) user.id }
  | userUpdated {text : String} {update : UserUpdate} {old user : User}
      (hread : readId text = .ok old.id) (hold : s.users[old.id]? = some old)
      (hfields : user = ⟨old.id, update.firstName.getD old.firstName,
        update.lastName.getD old.lastName, old.email, old.isAdmin⟩) :
      s.Changes (.updateUser text update) (.user user)
        { s with users := s.users.insert old.id user }
  | userDeleted {text : String} {user : User}
      (hread : readId text = .ok user.id) (hold : s.users[user.id]? = some user)
      (hheld : s.emails[Text.lowercase user.email]? = some user.id) :
      s.Changes (.deleteUser text) .done
        { s with
          users := s.users.erase user.id
          emails := s.emails.erase (Text.lowercase user.email) }
  | roomCreated {text : String} {kind : RoomKind} {basePrice price : Amount} {hotel : Hotel}
      {room : Room} (hread : readId text = .ok hotel.id) (hhotel : s.hotels[hotel.id]? = some hotel)
      (hfields : room = ⟨room.id, kind, basePrice, price, hotel.id⟩) (hnew : room.id ∉ s.rooms) :
      s.Changes (.createRoom text kind basePrice price) (.room room)
        { s with
          hotels := s.hotels.insert hotel.id { hotel with rooms := hotel.rooms ++ [room.id] }
          rooms := s.rooms.insert room.id (.new room) }

/-- Nothing is written for an update that names no field, and something for every other change. -/
theorem keep_iff_of_plan (h : s.plan change = .ok p) :
    (∃ reply, p = .keep reply) ↔ change.isEmptyUpdate = true := by
  cases change with
  | updateHotel text update =>
      simp only [plan, planUpdateHotel, bind_eq_ok_iff] at h
      obtain ⟨_, -, _, -, _, -, _, -, h⟩ := h
      obtain rfl := Except.ok.inj h
      cases hempty : update.isEmpty with
      | true => simp [Change.isEmptyUpdate, hempty]
      | false => simp [Change.isEmptyUpdate, hempty]
  | updateUser text update =>
      simp only [plan, planUpdateUser, bind_eq_ok_iff] at h
      obtain ⟨_, -, _, -, _, -, h⟩ := h
      obtain rfl := Except.ok.inj h
      cases hempty : update.isEmpty with
      | true => simp [Change.isEmptyUpdate, hempty]
      | false => simp [Change.isEmptyUpdate, hempty]
  | _ =>
      cases means_of_plan h with
      | _ => simp [Change.isEmptyUpdate]

/-- An update that names no field is answered with the document as it is. -/
theorem Coherent.changes_of_keep (h : s.Coherent) (hplan : s.plan change = .ok (.keep reply)) :
    s.Changes change reply s := by
  have hempty := (keep_iff_of_plan hplan).mp ⟨reply, rfl⟩
  cases means_of_plan hplan with
  | @keepHotel text update id current hread hcurrent =>
      obtain rfl := h.houses.id_eq hcurrent
      have hsame : s = { s with hotels := s.hotels.insert current.id current } := by
        rw [insert_of_lookup hcurrent]
      have hchanges := Changes.hotelUpdated hread hcurrent
        (HotelUpdate.apply_of_isEmpty hempty current).symm
      rwa [← hsame] at hchanges
  | @keepUser text update id current hread hcurrent =>
      obtain rfl := h.people.id_eq hcurrent
      have hsame : s = { s with users := s.users.insert current.id current } := by
        rw [insert_of_lookup hcurrent]
      have hchanges := Changes.userUpdated hread hcurrent
        (UserUpdate.apply_of_isEmpty hempty current).symm
      rwa [← hsame] at hchanges

/-! ## What events make of a store -/

theorem changes_apply_hotelCreated {id : RecordId} {name location : String} {rating : UInt8}
    (hadmits : s.Admits (.hotelCreated id name location rating)) :
    s.Changes (.createHotel name location rating) (.hotel ⟨id, name, location, [], rating⟩)
      (s.apply (.hotelCreated id name location rating)) :=
  .hotelCreated rfl hadmits

theorem changes_apply_hotelUpdated {text : String} {update : HotelUpdate} {old : Hotel}
    (hread : readId text = .ok old.id) (hold : s.hotels[old.id]? = some old) :
    s.Changes (.updateHotel text update) (.hotel (update.apply old))
      (s.apply (.hotelUpdated old.id update)) := by
  have hafter : s.apply (.hotelUpdated old.id update) =
      { s with hotels := s.hotels.insert old.id (update.apply old) } := by
    rw [← modify_eq_insert hold]
    rfl
  rw [hafter]
  exact .hotelUpdated hread hold rfl

theorem PeopleAgree.changes_apply_userCreated (h : s.PeopleAgree) {user : User}
    (hadmits : s.Admits (.userCreated user)) :
    s.Changes (.createUser user.firstName user.lastName user.email user.isAdmin) (.user user)
      (s.apply (.userCreated user)) := by
  refine .userCreated rfl hadmits.1 (Option.eq_none_iff_forall_ne_some.mpr fun id hid => ?_)
  obtain ⟨other, hother, hemail⟩ := h.holder_iff.mp hid
  exact hadmits.2 id other hother hemail

theorem changes_apply_userUpdated {text : String} {update : UserUpdate} {old : User}
    (hread : readId text = .ok old.id) (hold : s.users[old.id]? = some old) :
    s.Changes (.updateUser text update) (.user (update.apply old))
      (s.apply (.userUpdated old.id update)) := by
  have hafter : s.apply (.userUpdated old.id update) =
      { s with users := s.users.insert old.id (update.apply old) } := by
    rw [← modify_eq_insert hold]
    rfl
  rw [hafter]
  exact .userUpdated hread hold rfl

theorem PeopleAgree.changes_apply_userDeleted (h : s.PeopleAgree) {text : String} {user : User}
    (hread : readId text = .ok user.id) (hold : s.users[user.id]? = some user) :
    s.Changes (.deleteUser text) .done (s.apply (.userDeleted user.id)) := by
  have hheld : s.emails[Text.lowercase user.email]? = some user.id :=
    h.holder_iff.mpr ⟨user, hold, rfl⟩
  have hafter : s.apply (.userDeleted user.id) = { s with
      users := s.users.erase user.id
      emails := s.emails.erase (Text.lowercase user.email) } := by
    change s.applyDocument (.userDeleted user.id) = _
    simp only [applyDocument, user?, hold, releaseEmail_eq, userByEmail?, hheld, if_true]
  rw [hafter]
  exact .userDeleted hread hold hheld

theorem changes_apply_roomCreated {text : String} {room : Room} {hotel : Hotel}
    (hread : readId text = .ok hotel.id) (hhotel : s.hotels[hotel.id]? = some hotel)
    (hroom : room.hotel = hotel.id) (hadmits : s.Admits (.roomCreated room)) :
    s.Changes (.createRoom text room.kind room.basePrice room.price) (.room room)
      (s.apply (.roomCreated room)) := by
  have hafter : s.apply (.roomCreated room) = { s with
      hotels := s.hotels.insert hotel.id { hotel with rooms := hotel.rooms ++ [room.id] }
      rooms := s.rooms.insert room.id (.new room) } := by
    rw [← modify_eq_insert hhotel fun hotel => { hotel with rooms := hotel.rooms ++ [room.id] },
      ← hroom]
    rfl
  rw [hafter]
  exact .roomCreated hread hhotel (by rw [← hroom]) hadmits.1

namespace Changes

/-- No booking is touched. -/
theorem bookings_eq (h : s.Changes change reply t) (hs : s.Sound) (ht : t.Sound) :
    t.allBookings = s.allBookings ∧ ∀ user, t.bookingsOf user = s.bookingsOf user := by
  have hbookings (room : RecordId) : t.bookingsIn room = s.bookingsIn room := by
    cases h with
    | @roomCreated text kind basePrice price hotel room hread hhotel hfields hnew =>
        have hrooms : _ = s.rooms.insert room.id (.new room) := rfl
        rw [bookingsIn_of_insert hrooms]
        split
        · next hroom => rw [← hroom, bookingsIn_of_unknown hnew]; rfl
        · rfl
    | _ => rfl
  have hall : t.allBookings = s.allBookings := by
    refine eq_of_mem_iff_of_lt (fun b => ?_) ht.coherent.pairwise_allBookings
      hs.coherent.pairwise_allBookings
    rw [ht.coherent.mem_allBookings, hs.coherent.mem_allBookings, hbookings]
  refine ⟨hall, fun user => ?_⟩
  rw [ht.bookingsOf_eq_filter, hs.bookingsOf_eq_filter, hall]

end Changes

end Store

namespace Engine

variable {e e' : Engine} {c : Conditions} {m : Moment} {change : Change} {event : Event}
variable {last : RecordId} {reply : Reply} {log : List Event}

/-- The document that a change was answered with is found by its identifier. A room is free on any
day. -/
def Finds (e : Engine) : Reply → Prop
  | .hotel hotel => ∀ text, readId text = .ok hotel.id → e.hotel text = .ok hotel
  | .user user => ∀ text, readId text = .ok user.id → e.user text = .ok user
  | .room room => ∀ text today, readId text = .ok room.id →
      e.room today text = .ok ⟨room, .available⟩
  | .booking b => ∀ text, readId text = .ok b.id → e.booking text = .ok b
  | .done => True

theorem hotel_of_lookup {hotel : Hotel} {text : String} (hread : readId text = .ok hotel.id)
    (h : e.store.hotels[hotel.id]? = some hotel) : e.hotel text = .ok hotel := by
  rw [Engine.hotel, hread, ok_bind, Store.hotel?, h]
  rfl

theorem user_of_lookup {user : User} {text : String} (hread : readId text = .ok user.id)
    (h : e.store.users[user.id]? = some user) : e.user text = .ok user := by
  rw [Engine.user, hread, ok_bind, Store.user?, h]
  rfl

theorem finds_of_changes {s : Store} (h : s.Changes change reply e.store) : e.Finds reply := by
  generalize hstore : e.store = t at h
  cases h with
  | hotelCreated hfields hnew =>
      exact fun text hread => hotel_of_lookup hread (by rw [hstore, lookup_insert, if_pos rfl])
  | @hotelUpdated _ _ old hotel hread hold hfields =>
      have hid : old.id = hotel.id := by rw [hfields]
      exact fun text hread => hotel_of_lookup hread (by rw [hstore, lookup_insert, if_pos hid])
  | userCreated hfields hnew hfree =>
      exact fun text hread => user_of_lookup hread (by rw [hstore, lookup_insert, if_pos rfl])
  | @userUpdated _ _ old user hread hold hfields =>
      have hid : old.id = user.id := by rw [hfields]
      exact fun text hread => user_of_lookup hread (by rw [hstore, lookup_insert, if_pos hid])
  | userDeleted hread hold hheld => trivial
  | roomCreated hread hhotel hfields hnew =>
      intro text today hread
      rw [room_eq, hread, ok_bind, Store.publishedBook?, hstore, lookup_insert, if_pos rfl]
      rfl

/-- What is written for a change that is answered as good is admitted by the store. -/
theorem Proposes.admits (h : e.Proposes change event last) (hdescribes : e.Describes log)
    (hsteady : e.Steady) (hok : (e.perform c m change).1 = .ok reply) : e.store.Admits event := by
  have hpeople := hdescribes.sound.coherent.people
  cases h with
  | write hplan => exact (hdescribes.sound.promises_plan hplan).2.1.admits
  | create hplan hid =>
      refine ((hdescribes.sound.promises_plan hplan _).2 (hdescribes.below hid) ?_).admits
      intro user huser key other hother
      cases Store.means_of_plan hplan with
      | createUser firstName lastName email isAdmin =>
          obtain rfl := Event.userCreated.inj huser
          have hanswer := hsteady.answersNewUser hpeople c m firstName lastName email isAdmin
          rw [hok] at hanswer
          cases hanswer with
          | created hfits hdraw hfree hcommit =>
              obtain rfl := hpeople.id_eq hother
              exact hpeople.userByEmail?_eq_none_iff.mp hfree other
                (hpeople.mem_allUsers_iff.mpr hother)
      | _ => cases huser

/-- What is written for a change of documents makes the change that is answered with. -/
theorem Proposes.exists_changes (h : e.Proposes change event last)
    (hdocument : change.concernsBookings = false) (hcoherent : e.store.Coherent)
    (hadmits : e.store.Admits event) (hstore : e'.store = e.store.apply event) :
    ∃ reply, e'.replyTo event = .ok reply ∧ e.store.Changes change reply e'.store := by
  cases h with
  | write hplan =>
      cases Store.means_of_plan hplan with
      | @updateHotel text update id hread hhotel =>
          obtain ⟨old, hold⟩ := mem_iff_lookup.mp hhotel
          obtain rfl := hcoherent.houses.id_eq hold
          refine ⟨_, replyTo_hotel ?_, hstore ▸ Store.changes_apply_hotelUpdated hread hold⟩
          rw [hstore, Store.hotels_apply_hotelUpdated, if_pos rfl, hold]
          rfl
      | @updateUser text update id hread huser =>
          obtain ⟨old, hold⟩ := mem_iff_lookup.mp huser
          obtain rfl := hcoherent.people.id_eq hold
          refine ⟨_, replyTo_user ?_, hstore ▸ Store.changes_apply_userUpdated hread hold⟩
          rw [hstore, Store.users_apply_userUpdated, if_pos rfl, hold]
          rfl
      | @deleteUser text id hread huser =>
          obtain ⟨user, hold⟩ := mem_iff_lookup.mp huser
          obtain rfl := hcoherent.people.id_eq hold
          exact ⟨_, rfl, hstore ▸ hcoherent.people.changes_apply_userDeleted hread hold⟩
      | cancelBooking _ _ _ _ _ _ => cases hdocument
  | create hplan hid =>
      cases Store.means_of_plan hplan with
      | createHotel name location rating =>
          refine ⟨_, replyTo_hotel ?_, hstore ▸ Store.changes_apply_hotelCreated hadmits⟩
          rw [hstore, Store.hotels_apply_hotelCreated, if_pos rfl]
      | createUser firstName lastName email isAdmin =>
          exact ⟨_, rfl, hstore ▸ hcoherent.people.changes_apply_userCreated hadmits⟩
      | createRoom kind basePrice price hread hhotel =>
          obtain ⟨hotel, hhotel⟩ := mem_iff_lookup.mp hhotel
          obtain rfl := hcoherent.houses.id_eq hhotel
          exact ⟨_, rfl, hstore ▸ Store.changes_apply_roomCreated hread hhotel rfl hadmits⟩
      | createBooking _ _ _ _ _ _ => cases hdocument

/-! ## Changes in a run -/

theorem perform_of_keep (h : e.store.plan change = .ok (.keep reply)) :
    e.perform c m change = (.ok reply, e) := by
  simp only [perform, propose, h]

/-- Of the changes that are answered as good, the updates that name no field keep the store. -/
theorem isEmptyUpdate_iff_of_ok (hok : (e.perform c m change).1 = .ok reply) :
    change.isEmptyUpdate = true ↔ ∃ kept, e.store.plan change = .ok (.keep kept) := by
  cases hplan : e.store.plan change with
  | error error => cases (perform_of_plan_error hplan).symm.trans hok
  | ok p => simp only [← Store.keep_iff_of_plan hplan, Except.ok.injEq]

/-- While its log works, an engine that is closed and opened again has the same store. -/
theorem store_reopenOn_of_trusted {actions : List Action}
    (htrusted : ((openOn []).run actions).journal.poisoned = false) (c : Conditions) :
    (reopenOn (((openOn []).run actions).close c) ((openOn []).run actions)).store =
      ((openOn []).run actions).store := by
  obtain ⟨log, h⟩ := settled_run_of_trusted htrusted
  change Store.replay (Log.recover _).events = _
  rw [h.recover_close, h.describes.store_eq]

/-- What is written for a change that is answered as good is in the store and in the log. -/
theorem changes_of_written {actions : List Action} (hdocument : change.concernsBookings = false)
    (hplan : ∀ reply, ((openOn []).run actions).store.plan change ≠ .ok (.keep reply))
    (hok : (((openOn []).run actions).perform c m change).1 = .ok reply) :
    let e' := (((openOn []).run actions).perform c m change).2
    ((openOn []).run actions).store.Changes change reply e'.store ∧
      e'.journal.poisoned = false := by
  obtain ⟨log, hdescribes⟩ := describes_run actions
  have hsteady : ((openOn []).run actions).Steady := (steady_openOn []).run actions
  have hcoherent' : (((openOn []).run actions).perform c m change).2.store.Coherent :=
    (sound_after_run actions (.change c m change)).coherent
  generalize (openOn []).run actions = e at *
  have hadmits {event : Event} {last : RecordId} (hevent : e.Proposes change event last) :
      e.store.Admits event := hevent.admits hdescribes hsteady hok
  have houtcome := e.outcome c m change
  generalize e.perform c m change = r at hok hcoherent' houtcome ⊢
  have hcoherent := hdescribes.sound.coherent
  cases houtcome with
  | unwritten hjournal hstore hlast hanswer => exact absurd (hanswer reply hok) (hplan reply)
  | failed hevent hcommit hstore => cases hok
  | written hevent hcommit hstore hanswer =>
      have hadmits := hadmits hevent
      have hstore := hstore.eq (hcoherent.apply hadmits).people hcoherent'.people
      obtain ⟨reply', hreply', hchanges⟩ :=
        hevent.exists_changes hdocument hcoherent hadmits hstore
      obtain rfl := Except.ok.inj (hok.symm.trans (hanswer.trans hreply'))
      exact ⟨hchanges, (hsteady.idle.atRest_of_commit_ok hcommit).trusted⟩

/-- A change that is answered as good is made, and after it the log works, unless nothing was
written and the log did not work before. -/
theorem changes_of_ok {actions : List Action} (hdocument : change.concernsBookings = false)
    (hok : (((openOn []).run actions).perform c m change).1 = .ok reply) :
    let e := (openOn []).run actions
    let e' := (e.perform c m change).2
    e.store.Changes change reply e'.store ∧ (change.isEmptyUpdate = true → e' = e) ∧
      (change.isEmptyUpdate = false ∨ e.journal.poisoned = false →
        e'.journal.poisoned = false) := by
  intro e e'
  have hempty := isEmptyUpdate_iff_of_ok hok
  by_cases hkeep : ∃ kept, e.store.plan change = .ok (.keep kept)
  · obtain ⟨kept, hplan⟩ := hkeep
    have hperform := perform_of_keep (c := c) (m := m) hplan
    have hsame : e' = e := congrArg Prod.snd hperform
    obtain rfl : kept = reply := Except.ok.inj ((congrArg Prod.fst hperform).symm.trans hok)
    have hchanges : e.store.Changes change kept e.store :=
      (sound_run actions).coherent.changes_of_keep hplan
    refine ⟨by rwa [hsame], fun _ => hsame, ?_⟩
    rw [hempty.mpr ⟨kept, hplan⟩, hsame]
    exact fun h => h.resolve_left nofun
  · obtain ⟨hchanges, htrusted⟩ := changes_of_written hdocument (not_exists.mp hkeep) hok
    exact ⟨hchanges, fun h => absurd (hempty.mp h) hkeep, fun _ => htrusted⟩

/-- Whatever was asked of an engine that began on an empty log before, whatever the disk does, and
wherever its log was cut, a change of documents that is answered as good makes the change of one
document that it is about, and leaves all bookings as they were. An update that names no field
leaves the whole engine as it was. The document that is answered with is found afterwards, and also
when the engine is closed and opened again, unless nothing was written for it and the log takes
nothing any more. -/
theorem run_document_changed (actions : List Action) {change : Change} {reply : Reply}
    (hdocument : change.concernsBookings = false)
    (hok : (((openOn []).run actions).perform c m change).1 = .ok reply) :
    let e := (openOn []).run actions
    let e' := (e.perform c m change).2
    e.store.Changes change reply e'.store ∧ (change.isEmptyUpdate = true → e' = e) ∧
      (∀ user, e'.bookings user = e.bookings user) ∧ e'.Finds reply ∧
      (change.isEmptyUpdate = false ∨ e.journal.poisoned = false → ∀ c',
        (reopenOn (e'.close c') e').store = e'.store ∧
          (reopenOn (e'.close c') e').Finds reply) := by
  intro e e'
  obtain ⟨hchanges, hsame, htrusted⟩ := changes_of_ok hdocument hok
  obtain ⟨hall, hof⟩ := hchanges.bookings_eq (sound_run actions)
    (sound_after_run actions (.change c m change))
  refine ⟨hchanges, hsame, fun user => ?_, finds_of_changes hchanges, fun hlog c' => ?_⟩
  · cases user with
    | none => exact hall
    | some user => exact hof user
  · have hreopen : (reopenOn (e'.close c') e').store = e'.store := by
      have hrun : (openOn []).run (actions ++ [.change c m change]) = e' := run_append _ _ _
      rw [← hrun]
      exact store_reopenOn_of_trusted (by rw [hrun]; exact htrusted hlog) c'
    exact ⟨hreopen, finds_of_changes (hreopen ▸ hchanges)⟩

/-- A room is added to a hotel that has one already, whose identifier is given in capitals. -/
theorem run_document_changed_of_second_room :
    let text := "0000000000050000000000000000000A"
    let hotel : Hotel := ⟨.ofParts 5 10, "Inn", "Hill", [.ofParts 6 0], 3⟩
    let room : Room := ⟨.ofParts 7 0, .king, .zero, .zero, hotel.id⟩
    let change : Change := .createRoom text .king .zero .zero
    let actions : List Action :=
      [.change .good ⟨5, 10⟩ (.createHotel "Inn" "Hill" 3),
        .change .good ⟨6, 0⟩ (.createRoom text .suite .zero .zero)]
    let e := (openOn []).run actions
    let e' := (e.perform .good ⟨7, 0⟩ change).2
    change.concernsBookings = false ∧ (e.perform .good ⟨7, 0⟩ change).1 = .ok (.room room) ∧
      e.store.hotels[hotel.id]? = some hotel ∧
      e.store.Changes change (.room room) e'.store ∧
      (reopenOn (e'.close .good) e').Finds (.room room) := by
  intro text hotel room change actions e e'
  have hanswer : (((openOn []).run actions).perform .good ⟨7, 0⟩ change).1 = .ok (.room room) := by
    simp only [actions, openOn_nil]
    decide +kernel
  have hhotel : e.store.hotels[hotel.id]? = some hotel := by
    simp only [e, actions, openOn_nil]
    decide +kernel
  obtain ⟨hchanges, -, -, -, hreopened⟩ := run_document_changed actions rfl hanswer
  exact ⟨rfl, hanswer, hhotel, hchanges, (hreopened (.inl rfl) .good).2⟩

set_option maxRecDepth 4000 in
/-- The new name of a hotel is written, but neither made durable nor cut off the log. An update that
names no field is answered with the old name, and when the engine is opened again the hotel has the
new one. -/
theorem not_finds_of_failed_rollback :
    let text := (RecordId.ofParts 5 0).hex
    let hotel : Hotel := ⟨.ofParts 5 0, "Inn", "Hill", [], 3⟩
    let e := (openOn []).run
      [.change .good ⟨5, 0⟩ (.createHotel "Inn" "Hill" 3),
        .change { syncError := some (.system .fileTooLarge), rollbackFault := some .cut } ⟨6, 0⟩
          (.updateHotel text { name := some "Sea" })]
    let r := e.perform .good ⟨6, 0⟩ (.updateHotel text {})
    r.1 = .ok (.hotel hotel) ∧ r.2.hotel text = .ok hotel ∧
      ¬ (reopenOn (r.2.close .good) r.2).Finds (.hotel hotel) := by
  intro text hotel e r
  let sea : Hotel := { hotel with name := "Sea" }
  let log : List Event := [.hotelCreated hotel.id "Inn" "Hill" 3,
    .hotelUpdated hotel.id { name := some "Sea" }]
  have hanswer : r.1 = .ok (.hotel hotel) ∧ r.2.hotel text = .ok hotel := by
    simp only [r, e, openOn_nil]
    decide +kernel
  have hclose : r.2.close .good = Log.encode log := by
    simp only [r, e, openOn_nil]
    decide +kernel
  have hevents : (Log.recover (Log.encode log)).events = log :=
    congrArg Log.Recovery.events (Log.Holds.encode (by decide +kernel)).recover
  have hread : readId text = .ok sea.id := Store.readId_eq_ok_iff.mpr (RecordId.parse_hex _)
  refine ⟨hanswer.1, hanswer.2, fun hfinds => ?_⟩
  have hsea : (reopenOn (r.2.close .good) r.2).hotel text = .ok sea := by
    refine hotel_of_lookup hread ?_
    change (Store.replay (Log.recover (r.2.close .good)).events).hotels[sea.id]? = some sea
    rw [hclose, hevents]
    decide +kernel
  have hname := congrArg Hotel.name (Except.ok.inj (hsea.symm.trans (hfinds text hread)))
  exact absurd hname (by decide)

end Engine

end Lodging
