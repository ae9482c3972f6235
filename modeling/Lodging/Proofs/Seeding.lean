import Lodging.Demo
import Lodging.Proofs.FittingEvents
import Lodging.Proofs.Recompaction

/-!
# Filling a ledger

On a disk without faults a new hotel or room is refused only if its fields are, or if the
identifiers have run out. The demonstration data keeps to all limits, so it is added in full, or up
to the point where the identifiers run out; the log grows by hotels and rooms alone.
-/

namespace Lodging

open Log (Conditions Journal)

/-! ## The data -/

namespace Demo

theorem fits_hotels :
    ∀ hotel ∈ hotels, fits Limits.nameBytes hotel.1 ∧ fits Limits.locationBytes hotel.2 := by
  decide +kernel

theorem rating_le (n : Nat) : rating n ≤ Limits.rating := by
  have hlt : n % 5 + 1 < 6 := Nat.add_lt_add_right (Nat.mod_lt n (by decide)) 1
  have hsize : n % 5 + 1 < UInt8.size := Nat.lt_trans hlt (by decide)
  rw [rating, UInt8.le_iff_toNat_le, Nat.toUInt8, UInt8.toNat_ofNat_of_lt' hsize]
  exact Nat.le_of_lt_succ hlt

theorem isCharge_price {n : Nat} (h : n < hotels.length) (kind : RoomKind) :
    (price kind n).isCharge = true := by
  have hprices : ∀ n < hotels.length, ∀ kind ∈ RoomKind.all, (price kind n).isCharge = true := by
    decide +kernel
  refine hprices n h kind ?_
  cases kind with
  | _ => decide

section

-- Otherwise Lean tries to compute what the addition comes to.
attribute [local irreducible] Engine.perform

variable (c : Conditions) (clock : Nat → Moment) (n : Nat) (summary : Summary) (e : Engine)

theorem addRooms_cons (hotel : RecordId) (kind : RoomKind) (rest : List RoomKind) :
    addRooms c clock n hotel (kind :: rest) (summary, e) =
      match e.perform c (clock summary.documents)
          (.createRoom hotel.hex kind (price kind n) (price kind n)) with
      | (.ok _, e) =>
        addRooms c clock n hotel rest ({ summary with rooms := summary.rooms + 1 }, e)
      | (.error error, e) => (.error error, e) := rfl

theorem addHotels_cons (hotel : String × String) (rest : List (String × String)) :
    addHotels c clock n (hotel :: rest) (summary, e) =
      match e.perform c (clock summary.documents)
          (.createHotel hotel.1 hotel.2 (rating n)) with
      | (.ok (.hotel created), e) =>
        match addRooms c clock n created.id RoomKind.all
            ({ summary with hotels := summary.hotels + 1 }, e) with
        | (.ok summary, e) => addHotels c clock (n + 1) rest (summary, e)
        | (.error error, e) => (.error error, e)
      | (.ok _, e) => addHotels c clock (n + 1) rest (summary, e)
      | (.error error, e) => (.error error, e) := rfl

end

end Demo

namespace Engine

variable {e e' : Engine} {log : List Event} {change : Change} {event : RecordId → Event}

/-! ## New documents -/

/-- The result of an addition that was refused because there is no identifier left. -/
def Exhausted {α : Type} (log : List Event) (r : Except LedgerError α × Engine) : Prop :=
  r.1 = .error (.transactionFailed .idsExhausted) ∧ r.2.Mirrors log

theorem prepare_of_drawn {id : RecordId} {g : Generator} {m : Moment}
    (hdrawn : e.generator.next m = (some id, g)) (huser : ∀ user, event id ≠ .userCreated user) :
    e.prepare m event = (.ok (.write (event id)), { e with generator := g }) := by
  simp only [prepare, hdrawn]

/-- A new document other than a user is written to the log, unless there is no identifier left. -/
theorem Mirrors.perform_create (h : e.Mirrors log)
    (hplan : e.store.plan change = .ok (.create event))
    (huser : ∀ id user, event id ≠ .userCreated user) (m : Moment) :
    let r := e.perform .good m change
    Exhausted log r ∨ ∃ id, r.1 = r.2.replyTo (event id) ∧ r.2.Mirrors (log ++ [event id]) := by
  simp only [perform, propose, hplan]
  rcases hdrawn : e.generator.next m with ⟨_ | id, g⟩
  · simp only [prepare, hdrawn]
    exact .inl ⟨rfl, h.carries, h.store_eq⟩
  · obtain ⟨journal, hcommit⟩ := Journal.commit_of_accepts Conditions.accepts_good
      h.carries.trusted (List.forall_mem_singleton.mpr (Store.fits_of_plan hplan id))
    have hcarries : journal.Carries (log ++ [event id]) [] := by
      rcases h.carries.commit_cases .good [event id] with ⟨j, heq, hj⟩ | ⟨error, j, heq, -⟩
      · cases hcommit.symm.trans heq
        exact hj
      · cases hcommit.symm.trans heq
    simp only [prepare_of_drawn hdrawn (huser id), commit, hcommit]
    refine .inr ⟨id, rfl, hcarries, ?_⟩
    rw [Store.replay_append_singleton, ← h.store_eq]
    rfl

theorem Mirrors.createHotel (h : e.Mirrors log) {name location : String} {rating : UInt8}
    (hname : fits Limits.nameBytes name) (hlocation : fits Limits.locationBytes location)
    (hrating : rating ≤ Limits.rating) (m : Moment) :
    let r := e.perform .good m (.createHotel name location rating)
    Exhausted log r ∨ ∃ hotel, r.1 = .ok (.hotel hotel) ∧
      r.2.Mirrors (log ++ [.hotelCreated hotel.id name location rating]) := by
  have hplan : e.store.plan (.createHotel name location rating) =
      .ok (.create fun id => .hotelCreated id name location rating) := by
    simp only [Store.plan, Store.planCreateHotel, hname, hlocation, hrating, decide_true]
    rfl
  refine (h.perform_create hplan (fun _ _ heq => Event.noConfusion heq) m).imp_right ?_
  rintro ⟨id, hreply, hmirrors⟩
  have hlisted : (e.perform .good m (.createHotel name location rating)).2.store.hotels[id]? =
      some ⟨id, name, location, [], rating⟩ := by
    rw [hmirrors.store_eq, Store.replay_append_singleton, Store.hotels_apply_hotelCreated,
      if_pos rfl]
  exact ⟨⟨id, name, location, [], rating⟩, by rw [hreply, replyTo, Store.hotel?, hlisted]; rfl,
    hmirrors⟩

theorem Mirrors.createRoom (h : e.Mirrors log) {hotel : RecordId} (hhotel : hotel ∈ e.store.hotels)
    (kind : RoomKind) {basePrice price : Amount} (hbase : basePrice.isCharge)
    (hprice : price.isCharge) (m : Moment) :
    let r := e.perform .good m (.createRoom hotel.hex kind basePrice price)
    Exhausted log r ∨ ∃ room, r.1 = .ok (.room room) ∧
      r.2.Mirrors (log ++ [.roomCreated room]) := by
  obtain ⟨found, hfound⟩ := mem_iff_lookup.mp hhotel
  have hplan : e.store.plan (.createRoom hotel.hex kind basePrice price) =
      .ok (.create fun id => .roomCreated ⟨id, kind, basePrice, price, hotel⟩) := by
    simp only [Store.plan, Store.planCreateRoom, readId, RecordId.parse_hex, ok_bind, hbase, hprice,
      Store.hotel?, hfound]
    rfl
  refine (h.perform_create hplan (fun _ _ heq => Event.noConfusion heq) m).imp_right ?_
  rintro ⟨id, hreply, hmirrors⟩
  exact ⟨_, hreply, hmirrors⟩

/-! ## Many documents -/

/-- The log has grown, if at all, by hotels and rooms, and only for want of an identifier was
anything refused. -/
structure Furnished (log : List Event) (r : Except LedgerError Demo.Summary × Engine) : Prop where
  grown : ∃ later, log <+: later ∧
    later.filterMap Event.entered? = log.filterMap Event.entered? ∧ r.2.Mirrors later
  refused : ∀ error, r.1 = .error error → error = .transactionFailed .idsExhausted

theorem Exhausted.furnished {r : Except LedgerError Demo.Summary × Engine} (h : Exhausted log r) :
    Furnished log r where
  grown := ⟨log, List.prefix_rfl, rfl, h.2⟩
  refused error heq := by cases h.1.symm.trans heq; rfl

namespace Furnished

variable {r : Except LedgerError Demo.Summary × Engine} {later : List Event}

theorem of_isPrefix (h : Furnished later r) (hlater : log <+: later)
    (hentered : later.filterMap Event.entered? = log.filterMap Event.entered?) :
    Furnished log r where
  grown := by
    obtain ⟨last, hlast, hentered', hmirrors⟩ := h.grown
    exact ⟨last, hlater.trans hlast, hentered'.trans hentered, hmirrors⟩
  refused := h.refused

theorem of_append {x : Event} (h : Furnished (log ++ [x]) r) (hx : x.entered? = none) :
    Furnished log r :=
  h.of_isPrefix (List.prefix_append _ _) (by simp [hx])

theorem of_ok (h : e.Mirrors log) (summary : Demo.Summary) : Furnished log (.ok summary, e) where
  grown := ⟨log, List.prefix_rfl, rfl, h⟩
  refused _ heq := nomatch heq

/-- A hotel of the log is there afterwards. -/
theorem mem_hotels (h : Furnished log r) {id : RecordId} {name location : String} {rating : UInt8}
    (hhotel : .hotelCreated id name location rating ∈ log) : id ∈ r.2.store.hotels := by
  obtain ⟨later, hlater, -, hmirrors⟩ := h.grown
  rw [hmirrors.store_eq]
  exact Store.mem_hotels_replay.mpr ⟨name, location, rating, hlater.subset hhotel⟩

end Furnished

variable {n : Nat}

theorem Mirrors.addRooms (h : e.Mirrors log) (clock : Nat → Moment) (hn : n < Demo.hotels.length)
    {hotel : RecordId} (hhotel : hotel ∈ e.store.hotels) (kinds : List RoomKind)
    (summary : Demo.Summary) :
    Furnished log (Demo.addRooms .good clock n hotel kinds (summary, e)) := by
  induction kinds generalizing log e summary with
  | nil => exact .of_ok h summary
  | cons kind rest ih =>
      have hcharge := Demo.isCharge_price hn kind
      have hroom := h.createRoom hhotel kind hcharge hcharge (clock summary.documents)
      rw [Demo.addRooms_cons]
      rcases hresult : e.perform .good (clock summary.documents) (.createRoom hotel.hex kind
        (Demo.price kind n) (Demo.price kind n)) with ⟨error | reply, e'⟩
      · rw [hresult] at hroom
        rcases hroom with ⟨herror, hmirrors⟩ | ⟨room, ⟨⟩, -⟩
        cases herror
        exact Exhausted.furnished ⟨rfl, hmirrors⟩
      · rw [hresult] at hroom
        rcases hroom with ⟨⟨⟩, -⟩ | ⟨room, -, hmirrors⟩
        refine (ih hmirrors ?_ _).of_append rfl
        rw [hmirrors.store_eq, Store.replay_append_singleton, ← h.store_eq]
        exact Store.mem_hotels_apply.mpr (.inl hhotel)

/-- A hotel is added before all that follows, unless there is no identifier left for it. -/
theorem Mirrors.addHotels_cons (h : e.Mirrors log) {clock : Nat → Moment}
    (hn : n < Demo.hotels.length) {hotel : String × String} {rest : List (String × String)}
    (hname : fits Limits.nameBytes hotel.1) (hlocation : fits Limits.locationBytes hotel.2)
    (hrest : ∀ {e' : Engine} {later : List Event}, e'.Mirrors later → ∀ summary,
      Furnished later (Demo.addHotels .good clock (n + 1) rest (summary, e')))
    (summary : Demo.Summary) :
    let r := Demo.addHotels .good clock n (hotel :: rest) (summary, e)
    Exhausted log r ∨
      ∃ id, Furnished (log ++ [.hotelCreated id hotel.1 hotel.2 (Demo.rating n)]) r := by
  have hcreated := h.createHotel hname hlocation (Demo.rating_le n) (clock summary.documents)
  rw [Demo.addHotels_cons]
  rcases hresult : e.perform .good (clock summary.documents)
    (.createHotel hotel.1 hotel.2 (Demo.rating n)) with ⟨error | reply, e'⟩
  · rw [hresult] at hcreated
    rcases hcreated with ⟨herror, hmirrors⟩ | ⟨created, ⟨⟩, -⟩
    cases herror
    exact .inl ⟨rfl, hmirrors⟩
  · rw [hresult] at hcreated
    rcases hcreated with ⟨⟨⟩, -⟩ | ⟨created, ⟨⟩, hmirrors⟩
    refine .inr ⟨created.id, ?_⟩
    have hlisted : created.id ∈ e'.store.hotels := by
      rw [hmirrors.store_eq]
      exact Store.mem_hotels_replay.mpr ⟨_, _, _, List.mem_append_right _ List.mem_cons_self⟩
    have hrooms := hmirrors.addRooms clock hn hlisted RoomKind.all
      { summary with hotels := summary.hotels + 1 }
    simp only
    rcases hadded : Demo.addRooms .good clock n created.id RoomKind.all
      ({ summary with hotels := summary.hotels + 1 }, e') with ⟨error | summary', e''⟩
    · rw [hadded] at hrooms
      exact ⟨hrooms.grown, fun _ heq => hrooms.refused _ heq⟩
    · rw [hadded] at hrooms
      obtain ⟨later, hlater, hentered, hmirrors'⟩ := hrooms.grown
      exact (hrest hmirrors' summary').of_isPrefix hlater hentered

theorem Mirrors.addHotels (h : e.Mirrors log) (clock : Nat → Moment)
    {hotels : List (String × String)} (hn : n + hotels.length ≤ Demo.hotels.length)
    (hhotels : ∀ hotel ∈ hotels,
      fits Limits.nameBytes hotel.1 ∧ fits Limits.locationBytes hotel.2)
    (summary : Demo.Summary) :
    Furnished log (Demo.addHotels .good clock n hotels (summary, e)) := by
  induction hotels generalizing log e n summary with
  | nil => exact .of_ok h summary
  | cons hotel rest ih =>
      rw [List.length_cons] at hn
      obtain ⟨⟨hname, hlocation⟩, hrest⟩ := List.forall_mem_cons.mp hhotels
      rcases h.addHotels_cons (n := n) (by omega) hname hlocation
        (fun h' => ih h' (by omega) hrest) summary with hnone | ⟨id, hadded⟩
      · exact hnone.furnished
      · exact hadded.of_append rfl

/-- The demonstration data grows the log by hotels and rooms, among them one hotel at least, and
stops only where there is no identifier left. -/
theorem Mirrors.seedOver (h : e.Mirrors log) (clock : Nat → Moment) :
    let r := Demo.seedOver .good clock e
    Furnished log r ∧ ∀ summary, r.1 = .ok summary → ∃ id, id ∈ r.2.store.hotels := by
  have hall := Demo.fits_hotels
  obtain ⟨hotel, rest, hhotels⟩ : ∃ hotel rest, Demo.hotels = hotel :: rest := ⟨_, _, rfl⟩
  have hlength := congrArg List.length hhotels
  rw [List.length_cons] at hlength
  rw [hhotels] at hall
  obtain ⟨⟨hname, hlocation⟩, hrest⟩ := List.forall_mem_cons.mp hall
  simp only [Demo.seedOver, hhotels]
  rcases h.addHotels_cons (n := 0) (by omega) hname hlocation
    (fun h' => h'.addHotels clock (by omega) hrest) {} with hnone | ⟨id, hadded⟩
  · refine ⟨hnone.furnished, fun summary heq => ?_⟩
    cases hnone.1.symm.trans heq
  · refine ⟨hadded.of_append rfl, fun summary _ => ⟨id, ?_⟩⟩
    exact hadded.mem_hotels (List.mem_append_right _ List.mem_cons_self)

end Engine

end Lodging
