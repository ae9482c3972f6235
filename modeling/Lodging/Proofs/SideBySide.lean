import Lodging.Proofs.EmailAddresses

/-!
# Changes side by side

Changes of documents hold nothing between the decision and the write, so that two of them may be
decided by one store, and the log and the memory need not take them in the same order. The order
makes no difference, except where both give a field of one document different values, both add a
room to one hotel, or both give one email address to a new user.
-/

namespace Lodging

open Std (ExtTreeMap)

/-! ## Collisions -/

section

variable {α : Type} {new other : Option α}

/-- Both give a value, and not the same one. -/
def Contradict (new other : Option α) : Prop := ∃ a ∈ new, ∃ b ∈ other, a ≠ b

theorem Contradict.symm (h : Contradict new other) : Contradict other new := by
  obtain ⟨a, ha, b, hb, hne⟩ := h
  exact ⟨b, hb, a, ha, hne.symm⟩

theorem getD_comm_iff (old : α) :
    new.getD (other.getD old) = other.getD (new.getD old) ↔ ¬ Contradict new other := by
  cases new with
  | none => exact iff_of_true rfl fun ⟨_, h, _⟩ => nomatch h
  | some a =>
      cases other with
      | none => exact iff_of_true rfl fun ⟨_, _, _, h, _⟩ => nomatch h
      | some b => simp [Contradict]

end

def HotelUpdate.Contradicts (u other : HotelUpdate) : Prop :=
  Contradict u.name other.name ∨ Contradict u.location other.location

def UserUpdate.Contradicts (u other : UserUpdate) : Prop :=
  Contradict u.firstName other.firstName ∨ Contradict u.lastName other.lastName

theorem HotelUpdate.apply_comm_iff {u other : HotelUpdate} {hotel : Hotel} :
    u.apply (other.apply hotel) = other.apply (u.apply hotel) ↔ ¬ u.Contradicts other := by
  rw [Contradicts, not_or, ← getD_comm_iff hotel.name, ← getD_comm_iff hotel.location]
  simp [HotelUpdate.apply]

theorem UserUpdate.apply_comm_iff {u other : UserUpdate} {user : User} :
    u.apply (other.apply user) = other.apply (u.apply user) ↔ ¬ u.Contradicts other := by
  rw [Contradicts, not_or, ← getD_comm_iff user.firstName, ← getD_comm_iff user.lastName]
  simp [UserUpdate.apply]

/-- The events leave a trace of the order in which they are applied. Two users of the same address do
so on paper only: an engine reserves the address for one of them when it decides, and then refuses
the other one (`Engine.lowercase_ne_of_propose`). -/
inductive Event.Collides : Event → Event → Prop
  | hotels {id : RecordId} {u other : HotelUpdate} (h : u.Contradicts other) :
      (hotelUpdated id u).Collides (hotelUpdated id other)
  | users {id : RecordId} {u other : UserUpdate} (h : u.Contradicts other) :
      (userUpdated id u).Collides (userUpdated id other)
  | rooms {room other : Room} (h : room.hotel = other.hotel) :
      (roomCreated room).Collides (roomCreated other)
  | emails {user other : User} (h : Text.lowercase user.email = Text.lowercase other.email) :
      (userCreated user).Collides (userCreated other)

theorem Event.Collides.symm {first second : Event} (h : first.Collides second) :
    second.Collides first := by
  cases h with
  | hotels h => exact .hotels (h.imp .symm .symm)
  | users h => exact .users (h.imp .symm .symm)
  | rooms h => exact .rooms h.symm
  | emails h => exact .emails h.symm

/-- No document is created by both events. -/
def Event.Apart (first second : Event) : Prop :=
  ∀ id, first.createdId? = some id → second.createdId? ≠ some id

theorem Event.Apart.symm {first second : Event} (h : first.Apart second) : second.Apart first :=
  fun id hsecond hfirst => h id hfirst hsecond

/-- What becomes of what stands under a hotel's identifier. -/
def Event.onHotel (id : RecordId) : Event → Option Hotel → Option Hotel
  | hotelCreated key name location rating, hotel =>
    if key = id then some ⟨key, name, location, [], rating⟩ else hotel
  | hotelUpdated key update, hotel => if key = id then hotel.map update.apply else hotel
  | roomCreated room, hotel =>
    if room.hotel = id then hotel.map fun h => { h with rooms := h.rooms ++ [room.id] } else hotel
  | _, hotel => hotel

/-- What becomes of what stands under a user's identifier. -/
def Event.onUser (id : RecordId) : Event → Option User → Option User
  | userCreated new, user => if new.id = id then some new else user
  | userUpdated key update, user => if key = id then user.map update.apply else user
  | userDeleted key, user => if key = id then none else user
  | _, user => user

/-- What becomes of what stands under a room's identifier, if the event is about documents. -/
def Event.onRoom (id : RecordId) : Event → Option RoomSlot → Option RoomSlot
  | roomCreated room, slot => if room.id = id then some (.new room) else slot
  | _, slot => slot

namespace Store

variable {s : Store} {e first second : Event} {id : RecordId}

/-- What the event changes is there. -/
def Finds (s : Store) : Event → Prop
  | .hotelUpdated id _ => id ∈ s.hotels
  | .userUpdated id _ | .userDeleted id => id ∈ s.users
  | _ => True

/-! ## What an event about documents changes -/

theorem getElem?_hotels_apply (s : Store) (e : Event) (id : RecordId) :
    (s.apply e).hotels[id]? = e.onHotel id s.hotels[id]? := by
  cases e with
  | hotelCreated key name location rating => exact s.hotels_apply_hotelCreated key _ _ _ id
  | hotelUpdated key update => exact s.hotels_apply_hotelUpdated key update id
  | roomCreated room => exact s.hotels_apply_roomCreated room id
  | userDeleted key =>
      obtain ⟨users, emails, heq, -⟩ := s.apply_userDeleted key
      rw [heq]
      rfl
  | bookingCreated b => rw [(apply_of_booked rfl).1]; rfl
  | bookingCanceled key room => rw [(apply_of_booked rfl).1]; rfl
  | _ => rfl

theorem getElem?_users_apply (s : Store) (e : Event) (id : RecordId) :
    (s.apply e).users[id]? = e.onUser id s.users[id]? := by
  cases e with
  | userCreated user => exact s.users_apply_userCreated user id
  | userUpdated key update => exact s.users_apply_userUpdated key update id
  | userDeleted key => exact s.users_apply_userDeleted key id
  | bookingCreated b => rw [(apply_of_booked rfl).2.1]; rfl
  | bookingCanceled key room => rw [(apply_of_booked rfl).2.1]; rfl
  | _ => rfl

/-- Events about documents leave the indexes of the bookings alone. -/
theorem getElem?_rooms_apply (s : Store) (he : e.bookedRoom? = none) (id : RecordId) :
    (s.apply e).rooms[id]? = e.onRoom id s.rooms[id]? ∧
      (s.apply e).roomOfBooking = s.roomOfBooking ∧
      (s.apply e).bookingsOfUser = s.bookingsOfUser := by
  cases e with
  | roomCreated room => exact ⟨lookup_insert s.rooms room.id id _, rfl, rfl⟩
  | userDeleted key =>
      obtain ⟨users, emails, heq, -⟩ := s.apply_userDeleted key
      rw [heq]
      exact ⟨rfl, rfl, rfl⟩
  | bookingCreated b => cases he
  | bookingCanceled key room => cases he
  | _ => exact ⟨rfl, rfl, rfl⟩

/-! ## Events that do not collide -/

section

variable (hfirst : s.Admits first) (hsecond : s.Admits second) (hapart : first.Apart second)
  (hcollide : ¬ first.Collides second)
include hfirst hsecond hapart hcollide

theorem onHotel_comm (hfound : s.Finds first) (hfound' : s.Finds second) (id : RecordId) :
    second.onHotel id (first.onHotel id s.hotels[id]?) =
      first.onHotel id (second.onHotel id s.hotels[id]?) := by
  cases first with
  | hotelCreated key name location rating =>
      cases second with
      | hotelCreated key' name' location' rating' =>
          have hne : key' ≠ key := fun heq => hapart key rfl (congrArg some heq)
          grind [Event.onHotel]
      | hotelUpdated key' update => grind [Event.onHotel, Admits, Finds]
      | roomCreated room => grind [Event.onHotel, Admits]
      | _ => rfl
  | hotelUpdated key update =>
      cases second with
      | hotelCreated key' name' location' rating' => grind [Event.onHotel, Admits, Finds]
      | hotelUpdated key' update' =>
          by_cases hkey : key = key'
          · subst hkey
            have hcomm (hotel : Hotel) :
                update'.apply (update.apply hotel) = update.apply (update'.apply hotel) :=
              (HotelUpdate.apply_comm_iff.mpr fun h => hcollide (.hotels h)).symm
            grind [Event.onHotel]
          · grind [Event.onHotel]
      | roomCreated room => grind [Event.onHotel, HotelUpdate.apply]
      | _ => rfl
  | roomCreated room =>
      cases second with
      | hotelCreated key' name' location' rating' => grind [Event.onHotel, Admits]
      | hotelUpdated key' update' => grind [Event.onHotel, HotelUpdate.apply]
      | roomCreated room' =>
          have hne : room.hotel ≠ room'.hotel := fun heq => hcollide (.rooms heq)
          grind [Event.onHotel]
      | _ => rfl
  | _ => cases second <;> rfl

theorem onUser_comm (hfound : s.Finds first) (hfound' : s.Finds second) (id : RecordId) :
    second.onUser id (first.onUser id s.users[id]?) =
      first.onUser id (second.onUser id s.users[id]?) := by
  cases first with
  | userCreated user =>
      cases second with
      | userCreated user' =>
          have hne : user'.id ≠ user.id := fun heq => hapart user.id rfl (congrArg some heq)
          grind [Event.onUser]
      | userUpdated key' update => grind [Event.onUser, Admits, Finds]
      | userDeleted key' => grind [Event.onUser, Admits, Finds]
      | _ => rfl
  | userUpdated key update =>
      cases second with
      | userCreated user' => grind [Event.onUser, Admits, Finds]
      | userUpdated key' update' =>
          by_cases hkey : key = key'
          · subst hkey
            have hcomm (user : User) :
                update'.apply (update.apply user) = update.apply (update'.apply user) :=
              (UserUpdate.apply_comm_iff.mpr fun h => hcollide (.users h)).symm
            grind [Event.onUser]
          · grind [Event.onUser]
      | userDeleted key' => grind [Event.onUser]
      | _ => rfl
  | userDeleted key =>
      cases second with
      | userCreated user' => grind [Event.onUser, Admits, Finds]
      | userUpdated key' update => grind [Event.onUser]
      | userDeleted key' => grind [Event.onUser]
      | _ => rfl
  | _ => cases second <;> rfl

omit hfirst hsecond hcollide in
theorem onRoom_comm (slot : Option RoomSlot) (id : RecordId) :
    second.onRoom id (first.onRoom id slot) = first.onRoom id (second.onRoom id slot) := by
  cases first with
  | roomCreated room =>
      cases second with
      | roomCreated room' =>
          have hne : room'.id ≠ room.id := fun heq => hapart room.id rfl (congrArg some heq)
          grind [Event.onRoom]
      | _ => rfl
  | _ => cases second <;> rfl

/-- What could be written before another event can be written after it. -/
theorem Admits.apply : (s.apply first).Admits second := by
  cases second with
  | hotelCreated id name location rating =>
      intro hmem
      rcases mem_hotels_apply.mp hmem with hmem | ⟨name', location', rating', rfl⟩
      · exact hsecond hmem
      · exact hapart id rfl rfl
  | roomCreated room =>
      refine ⟨fun hmem => ?_, mem_hotels_apply.mpr (.inl hsecond.2)⟩
      rcases mem_rooms_apply.mp hmem with hmem | ⟨room', rfl, hid⟩
      · exact hsecond.1 hmem
      · exact hapart room'.id rfl (congrArg some hid.symm)
  | bookingCreated b =>
      refine ⟨fun hmem => ?_, mem_rooms_apply.mpr (.inl hsecond.2)⟩
      rcases mem_roomOfBooking_of_apply hmem with hmem | ⟨b', rfl, hid⟩
      · exact hsecond.1 hmem
      · exact hapart b'.id rfl (congrArg some hid.symm)
  | userCreated user =>
      refine ⟨fun hmem => ?_, fun id other hother => ?_⟩
      · rcases mem_users_of_apply hmem with hmem | ⟨user', rfl, hid⟩
        · exact hsecond.1 hmem
        · exact hapart user'.id rfl (congrArg some hid.symm)
      · rw [getElem?_users_apply] at hother
        -- Nobody comes to an address but by being created.
        cases first with
        | userCreated user' =>
            simp only [Event.onUser] at hother
            split at hother
            · obtain rfl := Option.some.inj hother
              exact fun hemail => hcollide (.emails hemail)
            · exact hsecond.2 id other hother
        | userUpdated key update =>
            simp only [Event.onUser] at hother
            split at hother
            · obtain ⟨old, hold, rfl⟩ := Option.map_eq_some_iff.mp hother
              exact hsecond.2 id old hold
            · exact hsecond.2 id other hother
        | userDeleted key =>
            simp only [Event.onUser] at hother
            split at hother
            · cases hother
            · exact hsecond.2 id other hother
        | _ => exact hsecond.2 id other hother
  | _ => trivial

end

/-- Events about documents that do not collide leave the same store in either order. -/
theorem PeopleAgree.apply_comm (h : s.PeopleAgree) (hfirst : s.Admits first)
    (hsecond : s.Admits second) (hfound : s.Finds first) (hfound' : s.Finds second)
    (hdocument : first.bookedRoom? = none) (hdocument' : second.bookedRoom? = none)
    (hapart : first.Apart second) (hcollide : ¬ first.Collides second) :
    (s.apply first).apply second = (s.apply second).apply first := by
  have hcollide' : ¬ second.Collides first := fun h => hcollide h.symm
  have hthere : ((s.apply first).apply second).PeopleAgree :=
    (h.apply hfirst).apply (Admits.apply hfirst hsecond hapart hcollide)
  have hhere : ((s.apply second).apply first).PeopleAgree :=
    (h.apply hsecond).apply (Admits.apply hsecond hfirst hapart.symm hcollide')
  -- The users determine who has which address.
  refine (SameButEmails.eq ⟨((s.apply first).apply second).emails, ?_⟩ hhere hthere)
  refine Store.ext ?_ ?_ rfl ?_ ?_ ?_
  · refine ExtTreeMap.ext_getElem? fun id => ?_
    simp only [getElem?_hotels_apply]
    exact onHotel_comm hfirst hsecond hapart hcollide hfound hfound' id
  · refine ExtTreeMap.ext_getElem? fun id => ?_
    simp only [getElem?_users_apply]
    exact onUser_comm hfirst hsecond hapart hcollide hfound hfound' id
  · refine ExtTreeMap.ext_getElem? fun id => ?_
    simp only [(getElem?_rooms_apply _ hdocument id).1, (getElem?_rooms_apply _ hdocument' id).1]
    exact onRoom_comm hapart _ id
  · simp only [(getElem?_rooms_apply _ hdocument .zero).2.1,
      (getElem?_rooms_apply _ hdocument' .zero).2.1]
  · simp only [(getElem?_rooms_apply _ hdocument .zero).2.2,
      (getElem?_rooms_apply _ hdocument' .zero).2.2]

/-! ## Events that collide -/

/-- Events that collide leave different stores. -/
theorem ne_of_collides (hfirst : s.Admits first) (hfound : s.Finds first)
    (hapart : first.Apart second) (hcollide : first.Collides second) :
    (s.apply first).apply second ≠ (s.apply second).apply first := by
  intro heq
  cases hcollide with
  | @hotels id u other hcontradicts =>
      obtain ⟨hotel, hhotel⟩ := mem_iff_lookup.mp hfound
      have hcomm := congrArg (fun t : Store => t.hotels[id]?) heq
      simp only [getElem?_hotels_apply, hhotel, Event.onHotel, if_true, Option.map_some,
        Option.some.injEq] at hcomm
      exact HotelUpdate.apply_comm_iff.mp hcomm.symm hcontradicts
  | @users id u other hcontradicts =>
      obtain ⟨user, huser⟩ := mem_iff_lookup.mp hfound
      have hcomm := congrArg (fun t : Store => t.users[id]?) heq
      simp only [getElem?_users_apply, huser, Event.onUser, if_true, Option.map_some,
        Option.some.injEq] at hcomm
      exact UserUpdate.apply_comm_iff.mp hcomm.symm hcontradicts
  | @rooms room other hhotel =>
      obtain ⟨hotel, hfound⟩ := mem_iff_lookup.mp (hhotel ▸ hfirst.2)
      have hcomm := congrArg (fun t : Store => t.hotels[other.hotel]?) heq
      simp only [getElem?_hotels_apply, hfound, Event.onHotel, hhotel, if_true, Option.map_some,
        Option.some.injEq, Hotel.mk.injEq, List.append_assoc, List.append_cancel_left_eq] at hcomm
      obtain ⟨hid, -⟩ := List.cons.inj hcomm.2.2.2.1
      exact hapart room.id rfl (congrArg some hid.symm)
  | @emails user other hemail =>
      have hcomm := congrArg (fun t : Store => t.emails[Text.lowercase user.email]?) heq
      change ((s.emails.insert _ user.id).insert _ other.id)[_]? =
        ((s.emails.insert _ other.id).insert _ user.id)[_]? at hcomm
      rw [lookup_insert, if_pos hemail.symm, lookup_insert, if_pos rfl] at hcomm
      exact hapart user.id rfl hcomm

end Store

namespace Engine

variable {e e' : Engine} {g : Generator} {event : Event} {m : Moment} {change : Change}
variable {user : User} {log : List Event}

/-! ## Side by side -/

/-- The event is written for some change of documents, if identifiers are drawn from the given
generator. -/
def WouldWrite (e : Engine) (g : Generator) (event : Event) : Prop :=
  ∃ m change, change.concernsBookings = false ∧
    ({ e with generator := g }.propose m change).1 = .ok (.write event)

/-- What a change of documents writes is about documents, and what it changes is there. -/
theorem Proposes.finds {last : RecordId} (h : e.Proposes change event last)
    (hdocument : change.concernsBookings = false) :
    e.store.Finds event ∧ event.bookedRoom? = none := by
  cases h with
  | write hplan =>
      cases Store.means_of_plan hplan with
      | updateHotel update hid hhotel => exact ⟨hhotel, rfl⟩
      | updateUser update hid huser => exact ⟨huser, rfl⟩
      | deleteUser hid huser => exact ⟨huser, rfl⟩
      | cancelBooking _ _ _ _ _ _ => cases hdocument
  | create hplan hid =>
      cases Store.means_of_plan hplan with
      | createBooking _ _ _ _ _ _ => cases hdocument
      | _ => exact ⟨trivial, rfl⟩

theorem WouldWrite.of_describes (h : e.WouldWrite g event) (he : e.Describes log)
    (hdrawn : e.generator.last ≤ g.last) :
    e.store.Admits event ∧ e.store.Finds event ∧ event.bookedRoom? = none := by
  obtain ⟨m, change, hdocument, hwrite⟩ := h
  have hdescribes : { e with generator := g }.Describes log := he.congr rfl hdrawn
  obtain ⟨-, hproposed⟩ := hdescribes.propose m change
  have hproposes := (decides_propose { e with generator := g } m change).write event hwrite
  refine ⟨?_, hproposes.finds hdocument⟩
  rcases hresult : Engine.propose m change { e with generator := g } with ⟨result, e'⟩
  rw [hresult] at hproposed hwrite
  obtain rfl := hwrite
  exact he.store_eq ▸ (hproposed.history log event [] rfl).admits

/-- A new user has an identifier of its own and holds its address from the decision on. -/
theorem of_propose_userCreated (h : e.propose m change = (.ok (.write (.userCreated user)), e')) :
    e.generator.last < user.id ∧ e'.generator.last = user.id ∧
      e.store.reserveEmail user.email user.id = (true, e'.store) := by
  unfold propose at h
  split at h
  · cases h
  · cases h
  · next event hplan =>
      obtain rfl := Proposal.write.inj (Except.ok.inj (Prod.mk.inj h).1)
      cases Store.means_of_plan hplan
  · next event hplan =>
      unfold prepare Generator.next at h
      cases hdraw : e.generator.draw? m with
      | none =>
          rw [hdraw] at h
          cases h
      | some id =>
          have hlast := Generator.lt_of_draw? hdraw
          have hsubject := subject_of_plan hplan id
          simp only [hdraw] at h
          generalize event id = proposed at hsubject h
          split at h
          · next new =>
              rcases hreserve : e.store.reserveEmail new.email new.id with ⟨_ | _, store⟩
              · rw [hreserve] at h
                cases h
              · rw [hreserve] at h
                cases h
                cases hsubject
                exact ⟨hlast, rfl, hreserve⟩
          · next hother =>
              cases h
              exact absurd rfl (hother user)

/-- Who has reserved an address holds it. -/
theorem userByEmail?_of_reserveEmail {s t : Store} {email : String} {id : RecordId}
    (h : s.reserveEmail email id = (true, t)) : t.userByEmail? email = some id := by
  unfold Store.reserveEmail at h
  split at h
  · next holder hholder =>
      obtain ⟨hid, rfl⟩ := Prod.mk.inj h
      rw [hholder, of_decide_eq_true hid]
  · obtain ⟨-, rfl⟩ := Prod.mk.inj h
    exact (lookup_insert s.emails _ _ id).trans (if_pos rfl)

/-- Two users who are created side by side, both decided by one engine, never have the same
address. -/
theorem lowercase_ne_of_propose {e'' : Engine} {m' : Moment} {change' : Change} {other : User}
    (hfirst : e.propose m change = (.ok (.write (.userCreated user)), e'))
    (hsecond : e'.propose m' change' = (.ok (.write (.userCreated other)), e'')) :
    Text.lowercase user.email ≠ Text.lowercase other.email := by
  intro hemail
  obtain ⟨-, hlast, hreserve⟩ := of_propose_userCreated hfirst
  obtain ⟨hlt, -, hreserve'⟩ := of_propose_userCreated hsecond
  have hheld : e'.store.userByEmail? other.email = some user.id := by
    rw [← userByEmail?_of_reserveEmail hreserve, Store.userByEmail?, Store.userByEmail?, hemail]
  simp only [Store.reserveEmail, hheld] at hreserve'
  have hid : user.id = other.id := of_decide_eq_true (Prod.mk.inj hreserve').1
  exact RecordId.ne_of_lt (hlast ▸ hlt) hid

/-- Of two events that an engine would write side by side, the order in which they are applied makes
no difference, unless they collide. Each event is decided here without regard to the other. An engine
that decides one right after the other never creates two users of the same address, by
`lowercase_ne_of_propose`, so then only two updates that contradict each other or two rooms of the
same hotel collide. -/
theorem run_apply_comm_iff (actions : List Action) (g g' : Generator) (first second : Event) :
    let e := (openOn []).run actions
    e.generator.last ≤ g.last → e.generator.last ≤ g'.last → e.WouldWrite g first →
      e.WouldWrite g' second → first.Apart second →
      ((e.store.apply first).apply second = (e.store.apply second).apply first ↔
        ¬ first.Collides second) := by
  intro e hdrawn hdrawn' hfirst hsecond hapart
  obtain ⟨log, hdescribes⟩ : ∃ log, e.Describes log := by
    obtain ⟨log, h | h⟩ := settled_or_broken_run (.inl settled_openOn_nil) actions
    · exact ⟨log, h.describes⟩
    · exact ⟨log, h.describes⟩
  have hpeople : e.store.PeopleAgree := hdescribes.sound.coherent.people
  obtain ⟨hadmits, hfinds, hdocument⟩ := hfirst.of_describes hdescribes hdrawn
  obtain ⟨hadmits', hfinds', hdocument'⟩ := hsecond.of_describes hdescribes hdrawn'
  constructor
  · exact fun hcomm hcollide => Store.ne_of_collides hadmits hfinds hapart hcollide hcomm
  · exact fun hcollide => hpeople.apply_comm hadmits hadmits' hfinds hfinds' hdocument hdocument'
      hapart hcollide

/-- One call renames a hotel and another one moves it. -/
theorem run_apply_comm_iff_of_two_fields :
    let e := (openOn []).run [.change .good ⟨5, 0⟩ (.createHotel "Inn" "Hill" 3)]
    let id := RecordId.ofParts 5 0
    let first := Event.hotelUpdated id { name := some "Sea" }
    let second := Event.hotelUpdated id { location := some "Moor" }
    e.WouldWrite e.generator first ∧ e.WouldWrite e.generator second ∧ first.Apart second ∧
      (e.store.apply first).apply second = (e.store.apply second).apply first := by
  intro e id first second
  have hfirst : e.WouldWrite e.generator first := by
    refine ⟨⟨5, 0⟩, .updateHotel id.hex { name := some "Sea" }, rfl, ?_⟩
    simp only [e, openOn_nil]
    decide +kernel
  have hsecond : e.WouldWrite e.generator second := by
    refine ⟨⟨5, 0⟩, .updateHotel id.hex { location := some "Moor" }, rfl, ?_⟩
    simp only [e, openOn_nil]
    decide +kernel
  have hapart : first.Apart second := fun _ h => nomatch h
  have hcollide : ¬ first.Collides second := by
    change ¬ (Event.hotelUpdated id _).Collides (.hotelUpdated id _)
    rintro (⟨⟨-, -, b, hb, -⟩ | ⟨a, ha, -⟩⟩)
    · cases hb
    · cases ha
  refine ⟨hfirst, hsecond, hapart, ?_⟩
  exact (run_apply_comm_iff _ _ _ first second (RecordId.le_refl _) (RecordId.le_refl _) hfirst
    hsecond hapart).mpr hcollide

/-- Two calls rename one hotel, and the event that is applied last has its way. -/
theorem not_apply_comm_of_two_names :
    let e := (openOn []).run [.change .good ⟨5, 0⟩ (.createHotel "Inn" "Hill" 3)]
    let id := RecordId.ofParts 5 0
    let first := Event.hotelUpdated id { name := some "Sea" }
    let second := Event.hotelUpdated id { name := some "Moor" }
    e.WouldWrite e.generator first ∧ e.WouldWrite e.generator second ∧ first.Apart second ∧
      (e.store.apply first).apply second ≠ (e.store.apply second).apply first := by
  intro e id first second
  have hwrites (name : String) (h : (e.propose ⟨5, 0⟩ (.updateHotel id.hex { name })).1 =
      .ok (.write (.hotelUpdated id { name }))) :
      e.WouldWrite e.generator (.hotelUpdated id { name }) :=
    ⟨⟨5, 0⟩, .updateHotel id.hex { name }, rfl, h⟩
  refine ⟨hwrites "Sea" ?_, hwrites "Moor" ?_, fun _ h => (nomatch h), fun heq => ?_⟩
  · simp only [e, openOn_nil]
    decide +kernel
  · simp only [e, openOn_nil]
    decide +kernel
  · have hname := congrArg (fun s : Store => (s.hotel? id).map (·.name)) heq
    revert hname
    simp only [e, openOn_nil]
    decide +kernel

end Engine

end Lodging
