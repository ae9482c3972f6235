import Lodging.Proofs.Traversals

/-!
# Pages of the rooms

The rooms that pass a filter are listed in the order of their identifiers. A numbered page is a
window of this list, and the page behind a cursor begins behind the cursor's room. So a caller who
follows the cursor gets the numbered pages one after the other, each as long as asked for until the
list ends.
-/

namespace Lodging

open Std (ExtTreeMap)

/-! ## Listings -/

namespace Store

variable {s : Store} {today : Day} {filter : List RoomStatus} {ids : List RecordId}

/-- Readers find each room under its own identifier. -/
def ShownById (s : Store) : Prop :=
  ∀ {id : RecordId} {book : RoomBook}, s.publishedBook? id = some book → book.room.id = id

theorem Keyed.shownById (h : s.Keyed) : s.ShownById := by
  intro id book hbook
  obtain ⟨slot, hslot, rfl⟩ := Option.map_eq_some_iff.mp hbook
  obtain ⟨book, rfl, hof⟩ := h.book hslot
  exact hof.room_id

/-- All rooms that pass the filter, with their status on the day. -/
def passing (s : Store) (today : Day) (filter : List RoomStatus) : List RoomListing :=
  s.listRooms today filter s.roomIds

theorem passes_iff {status : RoomStatus} :
    status.passes filter = true ↔ filter = [] ∨ status ∈ filter := by
  simp [RoomStatus.passes, List.isEmpty_iff]

/-- A listing shows the rooms of the given identifiers that are there and pass the filter. -/
theorem mem_listRooms {x : RoomListing} :
    x ∈ s.listRooms today filter ids ↔ ∃ id ∈ ids, ∃ book, s.publishedBook? id = some book ∧
      x = ⟨book.room, book.status today⟩ ∧ (filter = [] ∨ book.status today ∈ filter) := by
  simp only [listRooms, List.mem_filter, List.mem_filterMap, Option.map_eq_some_iff, passes_iff]
  constructor
  · rintro ⟨⟨id, hid, book, hbook, rfl⟩, hpasses⟩
    exact ⟨id, hid, book, hbook, rfl, hpasses⟩
  · rintro ⟨id, hid, book, hbook, rfl, hpasses⟩
    exact ⟨⟨id, hid, book, hbook, rfl⟩, hpasses⟩

theorem mem_roomIds_of_publishedBook? {id : RecordId} {book : RoomBook}
    (h : s.publishedBook? id = some book) : id ∈ s.roomIds := by
  obtain ⟨slot, hslot, -⟩ := Option.map_eq_some_iff.mp h
  exact ExtTreeMap.mem_keys.mpr (mem_iff_lookup.mpr ⟨slot, hslot⟩)

theorem ShownById.pairwise_listRooms (h : s.ShownById) (hids : ids.Pairwise (· < ·)) :
    (s.listRooms today filter ids).Pairwise fun a b => a.room.id < b.room.id := by
  refine (hids.filterMap _ ?_).filter _
  intro id id' hlt x hx y hy
  obtain ⟨book, hbook, rfl⟩ := Option.map_eq_some_iff.mp hx
  obtain ⟨book', hbook', rfl⟩ := Option.map_eq_some_iff.mp hy
  change book.room.id < book'.room.id
  rw [h hbook, h hbook']
  exact hlt

theorem ShownById.pairwise_passing (h : s.ShownById) :
    (s.passing today filter).Pairwise fun a b => a.room.id < b.room.id :=
  h.pairwise_listRooms (Engine.pairwise_roomIds s)

/-- It makes no difference whether the rooms up to a position are dropped before they are looked at
or afterwards. -/
theorem ShownById.listRooms_after (h : s.ShownById) (position : Option RecordId) :
    s.listRooms today filter (Engine.roomIdsAfter s position) =
      (s.passing today filter).filter fun x => position.all (· < x.room.id) := by
  have hlistings : (Engine.roomIdsAfter s position).filterMap
        (fun id => (s.publishedBook? id).map (·.listing today)) =
      (s.roomIds.filterMap fun id => (s.publishedBook? id).map (·.listing today)).filter
        fun x => position.all (· < x.room.id) := by
    rw [Engine.roomIdsAfter, List.filterMap_filter, List.filter_filterMap]
    refine List.filterMap_congr fun id _ => ?_
    cases hbook : s.publishedBook? id with
    | none => simp
    | some book => simp [RoomBook.listing, h hbook, Option.filter]
  rw [listRooms, hlistings, List.filter_comm]
  rfl

end Store

/-! ## Windows of a sorted listing -/

section

variable {listing : List RoomListing} {x : RoomListing}

/-- Behind the last room of a window lies all that follows the window. -/
theorem filter_after_getLast? {n : Nat}
    (hsorted : listing.Pairwise fun a b => a.room.id < b.room.id)
    (hlast : (listing.take n).getLast? = some x) :
    listing.filter (fun y => x.room.id < y.room.id) = listing.drop n := by
  obtain ⟨front, hfront⟩ := List.getLast?_eq_some_iff.mp hlast
  have hsplit : listing = front ++ [x] ++ listing.drop n := by
    rw [← hfront, List.take_append_drop]
  rw [hsplit, List.pairwise_append, List.pairwise_append] at hsorted
  obtain ⟨⟨-, -, hup⟩, -, hbehind⟩ := hsorted
  have hnone : (front ++ [x]).filter (fun y => x.room.id < y.room.id) = [] := by
    refine List.filter_eq_nil_iff.mpr fun y hy hlt => ?_
    have hlt := of_decide_eq_true hlt
    rcases List.mem_append.mp hy with hy | hy
    · exact Nat.lt_asymm hlt (hup y hy x List.mem_cons_self)
    · rw [List.mem_singleton.mp hy] at hlt
      exact Nat.lt_irrefl _ hlt
  have hall : (listing.drop n).filter (fun y => x.room.id < y.room.id) = listing.drop n :=
    List.filter_eq_self.mpr fun y hy => decide_eq_true
      (hbehind x (List.mem_append_right _ List.mem_cons_self) y hy)
  conv_lhs => rw [hsplit, List.filter_append, hnone, List.nil_append, hall]

end

namespace Engine

/-- The page at the front of what lies behind a cursor. -/
def pageOf (limit : UInt32) (behind : List RoomListing) : CursorResult RoomListing :=
  CursorPage.apply ⟨"", limit⟩ (·.room.id) behind

theorem pageOf_zero (behind : List RoomListing) : pageOf 0 behind = ⟨[], behind.length, none⟩ :=
  rfl

variable {e : Engine} {today : Day} {filter : List RoomStatus} {limit : UInt32}
variable {position : Option RecordId}

/-- Whatever an engine was opened on and whatever was asked of it, its readers find each room under
its own identifier. -/
theorem shownById_run (file : Log.Bytes) (actions : List Action) :
    ((openOn file).run actions).store.ShownById :=
  ((steady_openOn file).run actions).keyed.shownById

theorem listRoomsAfter_of_position (h : e.store.ShownById) {cursor : String}
    (hposition : CursorPage.position ⟨cursor, limit⟩ = .ok position) :
    e.listRoomsAfter today filter ⟨cursor, limit⟩ =
      (.ok (pageOf limit ((e.store.passing today filter).filter fun x =>
        position.all (· < x.room.id))), e.countListing .cursor) := by
  simp only [listRoomsAfter, hposition, h.listRooms_after]
  rfl

/-! ## Following the cursor -/

/-- The answers that a caller gets who follows the cursor with the same filter on the same day,
until one names no next cursor or as many requests as allowed are made. -/
def follow (today : Day) (filter : List RoomStatus) (limit : UInt32) :
    Nat → String → Engine → List (Except LedgerError (CursorResult RoomListing)) × Engine
  | 0, _, e => ([], e)
  | requests + 1, cursor, e =>
    let (answer, e) := e.listRoomsAfter today filter ⟨cursor, limit⟩
    match next? answer with
    | some id =>
      let (answers, e) := e.follow today filter limit requests id.hex
      (answer :: answers, e)
    | none => ([answer], e)

/-- The rooms behind the last one of a full page are those that follow the page. -/
theorem passing_after_page {s : Store} {rest : List RoomListing} {x : RoomListing} {n : Nat}
    (h : s.ShownById)
    (hrest : ((s.passing today filter).filter fun y => position.all (· < y.room.id)) = rest)
    (hlast : (rest.take n).getLast? = some x) :
    ((s.passing today filter).filter fun y => (some x.room.id).all (· < y.room.id)) =
      rest.drop n := by
  have hsorted : rest.Pairwise fun a b => a.room.id < b.room.id :=
    hrest ▸ h.pairwise_passing.filter _
  have hx : position.all (· < x.room.id) = true := by
    have hmem : x ∈ rest := List.mem_of_mem_take (List.mem_of_getLast? hlast)
    rw [← hrest] at hmem
    exact (List.mem_filter.mp hmem).2
  rw [← filter_after_getLast? hsorted hlast, ← hrest, List.filter_filter]
  refine List.filter_congr fun y _ => ?_
  -- What lies behind the room lies behind the position as well.
  cases position with
  | none => simp
  | some old =>
      by_cases hlt : x.room.id < y.room.id
      · have hold : old < y.room.id := Nat.lt_trans (of_decide_eq_true hx) hlt
        simp [hlt, hold]
      · simp [hlt]

/-- A caller who follows the cursor from a position gets the windows of what lies behind it, up to
and with the first one that is not full. -/
theorem follow_eq {rest : List RoomListing} {cursor : String} (h : e.store.ShownById)
    (hlimit : limit ≠ 0) (hposition : CursorPage.position ⟨cursor, limit⟩ = .ok position)
    (hrest : ((e.store.passing today filter).filter fun x => position.all (· < x.room.id)) = rest)
    (requests : Nat) :
    (e.follow today filter limit requests cursor).1 =
      (List.range (min requests (rest.length / pageLength limit + 1))).map fun i =>
        .ok (pageOf limit (rest.drop (i * pageLength limit))) := by
  have hpositive : 0 < pageLength limit := Nat.pos_of_ne_zero (pageLength_ne_zero hlimit)
  induction requests generalizing e cursor position rest with
  | zero => simp [follow]
  | succ requests ih =>
      simp only [follow, listRoomsAfter_of_position h hposition, hrest, next?]
      by_cases hfull : pageLength limit ≤ rest.length
      · have hlength : (rest.take (pageLength limit)).length = pageLength limit :=
          List.length_take_of_le hfull
        obtain ⟨x, hlast⟩ : ∃ x, (rest.take (pageLength limit)).getLast? = some x := by
          refine Option.ne_none_iff_exists'.mp fun hnone => ?_
          rw [List.getLast?_eq_none_iff.mp hnone] at hlength
          exact hpositive.ne hlength
        have hnext : (pageOf limit rest).next = some x.room.id := by
          simp only [pageOf, CursorPage.apply, hlength, if_true, hlast, Option.map_some]
        have hcount : min (requests + 1) (rest.length / pageLength limit + 1) =
            min requests ((rest.drop (pageLength limit)).length / pageLength limit + 1) + 1 := by
          rw [Nat.div_eq_sub_div hpositive hfull, List.length_drop]
          omega
        have hfollow := ih (e := e.countListing .cursor) h (position_hex x.room.id limit)
          (passing_after_page h hrest hlast)
        simp only [hnext, hfollow, hcount, List.range_succ_eq_map, List.map_cons, List.map_map,
          Nat.zero_mul, List.drop_zero]
        congr 1
        refine List.map_congr_left fun i _ => ?_
        simp only [Function.comp, List.drop_drop, Nat.succ_mul, Nat.add_comm]
      · have hshort : (rest.take (pageLength limit)).length ≠ pageLength limit := by
          rw [List.length_take]
          omega
        have hnext : (pageOf limit rest).next = none := by
          simp only [pageOf, CursorPage.apply, hshort, if_false]
        have hone : min (requests + 1) (rest.length / pageLength limit + 1) = 1 := by
          rw [Nat.div_eq_of_lt (Nat.lt_of_not_le hfull)]
          omega
        simp [hnext, hone]

/-! ## Both ways of paging -/

theorem skip_lt (page : NumberedPage) : page.skip < 2 ^ 64 := by
  have hnumber := page.number.toNat_lt
  have hshown : page.shown - 1 < 2 ^ 32 := by
    rw [NumberedPage.shown]
    omega
  have hlimit : pageLength page.limit ≤ 100 := Nat.min_le_right _ _
  calc page.skip ≤ (page.shown - 1) * 100 := Nat.mul_le_mul_left _ hlimit
    _ < 2 ^ 64 := by omega

/-- Whatever the store, the day, the filter and the limit, the rooms whose status passes the filter
make one list in the order of their identifiers, of which a numbered page is a window, with the
length of the whole list. Page zero is page one. Behind a cursor lie the rooms of the list above it.
So a caller who follows the cursor from the start gets the numbered pages in their order, and needs
one request more than there are full pages. With a limit of zero nothing is shown but the total. The
number of rooms that a numbered page skips fits a word of 64 bits. -/
theorem pagings_agree (e : Engine) (h : e.store.ShownById) (today : Day)
    (filter : List RoomStatus) (limit : UInt32) :
    let length := min limit.toNat 100
    ∃ rooms : List RoomListing,
      (rooms.Pairwise fun a b => a.room.id < b.room.id) ∧
      (∀ x, x ∈ rooms ↔ ∃ id book, e.store.publishedBook? id = some book ∧
        x = ⟨book.room, book.status today⟩ ∧ (filter = [] ∨ book.status today ∈ filter)) ∧
      (∀ number : UInt32, number ≠ 0 →
        let page := (e.listRooms today filter ⟨number, limit⟩).1
        page.items = (rooms.drop ((number.toNat - 1) * length)).take length ∧
          page.total = rooms.length) ∧
      e.listRooms today filter ⟨0, limit⟩ = e.listRooms today filter ⟨1, limit⟩ ∧
      (∀ cursor position, CursorPage.position ⟨cursor, limit⟩ = .ok position →
        ∃ page, (e.listRoomsAfter today filter ⟨cursor, limit⟩).1 = .ok page ∧
          page.total = (rooms.filter fun x => position.all (· < x.room.id)).length ∧
          (limit = 0 → page.items = [] ∧ page.next = none)) ∧
      (limit ≠ 0 → ∀ requests,
        let answers := (e.follow today filter limit requests "").1
        answers.length = min requests (rooms.length / length + 1) ∧
          ∀ i < answers.length, ∃ page, answers[i]? = some (.ok page) ∧
            page.items = (rooms.drop (i * length)).take length ∧
            page.total = rooms.length - i * length ∧
            ∀ number : UInt32, number.toNat = i + 1 →
              page.items = (e.listRooms today filter ⟨number, limit⟩).1.items) ∧
      (limit = 0 → ∀ number, (e.listRooms today filter ⟨number, limit⟩).1.items = []) ∧
      ∀ page : NumberedPage, page.skip < 2 ^ 64 := by
  intro length
  have hwindow (number : UInt32) (hnumber : number ≠ 0) :
      (e.listRooms today filter ⟨number, limit⟩).1.items =
        ((e.store.passing today filter).drop ((number.toNat - 1) * length)).take length := by
    have hshown : NumberedPage.shown ⟨number, limit⟩ = number.toNat :=
      Nat.max_eq_left (Nat.pos_of_ne_zero fun hzero => hnumber (UInt32.toNat.inj hzero))
    change ((e.store.passing today filter).drop (NumberedPage.skip ⟨number, limit⟩)).take _ = _
    rw [NumberedPage.skip, hshown]
    rfl
  refine ⟨e.store.passing today filter, h.pairwise_passing, fun x => ?_,
    fun number hnumber => ⟨hwindow number hnumber, rfl⟩, rfl, fun cursor position hposition => ?_,
    fun hlimit requests => ?_, ?_, skip_lt⟩
  · rw [Store.passing, Store.mem_listRooms]
    constructor
    · rintro ⟨id, -, book, hbook, hx⟩
      exact ⟨id, book, hbook, hx⟩
    · rintro ⟨id, book, hbook, hx⟩
      exact ⟨id, Store.mem_roomIds_of_publishedBook? hbook, book, hbook, hx⟩
  · refine ⟨_, congrArg Prod.fst (listRoomsAfter_of_position h hposition), rfl, ?_⟩
    rintro rfl
    rw [pageOf_zero]
    exact ⟨rfl, rfl⟩
  · have hstart : CursorPage.position ⟨"", limit⟩ = .ok none := rfl
    have hall : ((e.store.passing today filter).filter fun x => Option.all (· < x.room.id) none) =
        e.store.passing today filter := List.filter_eq_self.mpr fun _ _ => rfl
    rw [follow_eq h hlimit hstart hall requests]
    refine ⟨by rw [List.length_map, List.length_range]; rfl, fun i hi => ?_⟩
    rw [List.length_map, List.length_range] at hi
    refine ⟨pageOf limit ((e.store.passing today filter).drop (i * length)), ?_, rfl,
      List.length_drop, fun number hnumber => ?_⟩
    · rw [List.getElem?_map, List.getElem?_range hi]
      rfl
    · have hne : number ≠ 0 := by
        rintro rfl
        cases hnumber
      rw [hwindow number hne, hnumber]
      rfl
  · rintro rfl number
    rfl

/-- Of three rooms one is booked. The others stand one to a page, and a third request finds no more
of them. -/
theorem pagings_agree_of_booked_room :
    let stay : Stay := ⟨⟨2030, 5, 1, by decide, by decide, by decide⟩,
      ⟨2030, 5, 4, by decide, by decide, by decide⟩⟩
    let room : Change := .createRoom (RecordId.ofParts 5 0).hex .king .zero .zero
    let e := (openOn []).run
      [.change .good ⟨5, 0⟩ (.createHotel "Inn" "Hill" 3), .change .good ⟨6, 0⟩ room,
        .change .good ⟨7, 0⟩ room, .change .good ⟨8, 0⟩ room,
        .change .good ⟨9, 0⟩ (.createBooking (RecordId.ofParts 7 0).hex (.ofParts 3 0) 1 stay)]
    e.store.ShownById ∧ (e.follow stay.checkIn [.available] 1 10 "").1.length = 3 ∧
      ∃ page, (e.follow stay.checkIn [.available] 1 10 "").1[1]? = some (.ok page) ∧
        page.items.map (·.room.id) = [.ofParts 8 0] ∧ page.total = 1 := by
  intro stay room e
  have hshown : e.store.ShownById := shownById_run [] _
  have htotal : (e.listRooms stay.checkIn [.available] ⟨2, 1⟩).1.total = 2 ∧
      (e.listRooms stay.checkIn [.available] ⟨2, 1⟩).1.items.map (·.room.id) =
        [.ofParts 8 0] := by
    simp only [e, openOn_nil, room, stay]
    decide +kernel
  obtain ⟨rooms, -, -, hnumbered, -, -, hfollow, -, -⟩ :=
    pagings_agree e hshown stay.checkIn [.available] 1
  have hlength : rooms.length = 2 := (hnumbered 2 (by decide)).2.symm.trans htotal.1
  obtain ⟨hcount, hpages⟩ := hfollow (by decide) 10
  rw [hlength] at hcount
  obtain ⟨page, hpage, -, hbehind, hsame⟩ := hpages 1 (by rw [hcount]; decide)
  refine ⟨hshown, hcount, page, hpage, ?_, ?_⟩
  · rw [hsame 2 rfl, htotal.2]
  · rw [hbehind, hlength]
    rfl

end Engine

end Lodging
