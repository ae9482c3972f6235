import Mathlib.Data.List.ReduceOption
import Lodging.RecordId.Generator

/-!
# Identifiers drawn one after the other

The identifier that is drawn is above the last one, and its time is the latest that the generator
has seen, on the clock or in the identifier it began with. A draw may fail although identifiers are
left: the successor of the last one has to be of the same millisecond, and a millisecond can come to
its end while the clock is behind.
-/

namespace Lodging

namespace RecordId

variable {a b id : RecordId}

/-! ## Time and chance -/

/-- The chance part. -/
def chance (id : RecordId) : Nat := id.toNat % 0x1_0000_00000000_00000000

/-- The chance part of the last identifier of a millisecond. -/
def lastChance : Nat := 0xffff_ffffffff_ffffffff

/-- The time part of the last identifiers of all. -/
def lastMillis : Nat := 0xffff_ffffffff

theorem millis_ofParts (millis chance : Nat) :
    (ofParts millis chance).millis = millis % 0x1_0000_00000000 := by
  simp only [RecordId.millis, ofParts]
  omega

theorem millis_le (id : RecordId) : id.millis ≤ lastMillis := by
  have := id.toNat_lt
  simp only [millis, lastMillis]
  omega

theorem millis_le_of_lt (h : a < b) : a.millis ≤ b.millis :=
  Nat.div_le_div_right (Nat.le_of_lt h)

theorem lt_of_millis_lt (h : a.millis < b.millis) : a < b := by
  change a.toNat < b.toNat
  simp only [millis] at h
  omega

/-- Above the last identifier of a millisecond there are only those of a later one. -/
theorem lt_iff_of_lastChance (h : a.chance = lastChance) : a < b ↔ a.millis < b.millis := by
  refine ⟨fun hlt => ?_, lt_of_millis_lt⟩
  change a.toNat < b.toNat at hlt
  simp only [chance, lastChance, millis] at h ⊢
  omega

theorem succ?_eq_none_iff : id.succ? = none ↔ id.chance = lastChance := by
  unfold succ?
  split
  · next hlast => exact iff_of_true rfl hlast
  · next hlast => exact iff_of_false nofun hlast

theorem toNat_of_succ? (h : id.succ? = some b) : b.toNat = id.toNat + 1 := by
  unfold succ? at h
  split at h
  · cases h
  · rw [← Option.some.inj h]

theorem lt_of_succ? (h : id.succ? = some b) : id < b ∧ b.millis = id.millis := by
  have hnext := toNat_of_succ? h
  have hchance : id.chance ≠ lastChance := fun hlast => by
    rw [succ?_eq_none_iff.mpr hlast] at h
    cases h
  refine ⟨Nat.lt_of_lt_of_eq (Nat.lt_succ_self _) hnext.symm, ?_⟩
  simp only [chance, lastChance, millis] at hchance ⊢
  omega

theorem not_exists_gt_iff :
    (¬ ∃ b, id < b) ↔ id.chance = lastChance ∧ id.millis = lastMillis := by
  have hbound := id.toNat_lt
  constructor
  · intro h
    by_contra hother
    refine h ⟨⟨id.toNat + 1, ?_⟩, Nat.lt_succ_self _⟩
    simp only [chance, lastChance, millis, lastMillis] at hother
    omega
  · rintro ⟨hchance, hmillis⟩ ⟨b, hb⟩
    have hlt := (lt_iff_of_lastChance hchance).mp hb
    have hbound := b.toNat_lt
    simp only [millis, lastMillis] at hmillis hlt
    omega

end RecordId

/-- What the clock shows, in as many bits as an identifier has for it. -/
def Moment.reading (m : Moment) : Nat := m.millis.toNat % 0x1_0000_00000000

theorem Moment.millis_freshId (m : Moment) : m.freshId.millis = m.reading :=
  RecordId.millis_ofParts _ _

namespace Generator

open RecordId (lastChance lastMillis)

variable {g : Generator} {m : Moment} {id : RecordId}

/-! ## One draw -/

theorem lt_of_draw? (h : g.draw? m = some id) : g.last < id := by
  unfold draw? at h
  split at h
  · next hlt => exact Option.some.inj h ▸ hlt
  · exact (RecordId.lt_of_succ? h).1

/-- The identifier that is drawn is above any other one, unless the other one is above the last one
and the clock suggests none above the other one. -/
theorem le_iff_of_draw? (h : g.draw? m = some id) {other : RecordId} :
    id ≤ other ↔ g.last < other ∧ m.freshId ≤ other := by
  unfold draw? at h
  split at h
  · next hlt =>
      obtain rfl := Option.some.inj h
      exact (and_iff_right_of_imp fun hle => Nat.lt_of_lt_of_le hlt hle).symm
  · next hle =>
      have hfresh : m.freshId ≤ g.last := Nat.le_of_not_lt hle
      change id.toNat ≤ other.toNat ↔ _
      rw [RecordId.toNat_of_succ? h]
      exact (and_iff_left_of_imp fun hlt => Nat.le_of_lt (Nat.lt_of_le_of_lt hfresh hlt)).symm

theorem draw?_eq_none_iff :
    g.draw? m = none ↔ g.last.chance = lastChance ∧ m.reading ≤ g.last.millis := by
  rw [← m.millis_freshId]
  unfold draw?
  split
  · next hlt =>
      refine iff_of_false nofun fun ⟨hchance, hle⟩ => ?_
      exact Nat.not_lt_of_le hle ((RecordId.lt_iff_of_lastChance hchance).mp hlt)
  · next hle =>
      rw [RecordId.succ?_eq_none_iff]
      refine (and_iff_left_of_imp fun _ => Nat.le_of_not_lt fun hlt => ?_).symm
      exact hle (RecordId.lt_of_millis_lt hlt)

theorem millis_of_draw? (h : g.draw? m = some id) :
    id.millis = max g.last.millis m.reading := by
  rw [← m.millis_freshId]
  unfold draw? at h
  split at h
  · next hlt =>
      obtain rfl := Option.some.inj h
      exact (Nat.max_eq_right (RecordId.millis_le_of_lt hlt)).symm
  · next hle =>
      have hreading : m.freshId.millis ≤ g.last.millis :=
        Nat.le_of_not_lt fun hlt => hle (RecordId.lt_of_millis_lt hlt)
      rw [(RecordId.lt_of_succ? h).2, Nat.max_eq_left hreading]

theorem next_of_draw?_eq_none (h : g.draw? m = none) : g.next m = (none, g) := by
  rw [next, h]

theorem next_of_draw?_eq_some (h : g.draw? m = some id) : g.next m = (some id, ⟨id⟩) := by
  rw [next, h]

theorem fst_next (g : Generator) (m : Moment) : (g.next m).1 = g.draw? m := by
  cases h : g.draw? m with
  | none => rw [next_of_draw?_eq_none h]
  | some id => rw [next_of_draw?_eq_some h]

theorem snd_next_of_none (h : (g.next m).1 = none) : (g.next m).2 = g := by
  rw [fst_next] at h
  rw [next_of_draw?_eq_none h]

theorem last_next_of_some (h : (g.next m).1 = some id) : (g.next m).2.last = id := by
  rw [fst_next] at h
  rw [next_of_draw?_eq_some h]

/-- A draw that fails has still taken note of the clock, since the clock showed nothing new. -/
theorem millis_snd_next (g : Generator) (m : Moment) :
    (g.next m).2.last.millis = max g.last.millis m.reading := by
  cases h : g.draw? m with
  | none =>
      rw [next_of_draw?_eq_none h]
      exact (Nat.max_eq_left (draw?_eq_none_iff.mp h).2).symm
  | some id =>
      rw [next_of_draw?_eq_some h]
      exact millis_of_draw? h

/-- The millisecond of the last identifier is used up, though it is not the last of all, and the
clock shows no later one. -/
structure IsStuck (g : Generator) (m : Moment) : Prop where
  chance_eq : g.last.chance = lastChance
  millis_lt : g.last.millis < lastMillis
  reading_le : m.reading ≤ g.last.millis

theorem IsStuck.exists_gt (h : g.IsStuck m) : ∃ id, g.last < id := by
  by_contra hnone
  exact Nat.ne_of_lt h.millis_lt (RecordId.not_exists_gt_iff.mp hnone).2

/-- A draw gives an identifier above the last one, or none, and then it leaves the generator as it
was. None is given where none is left, and also, although one is left, while the generator is
stuck at the end of a millisecond; otherwise there always is one. -/
theorem next_eq_none_iff (g : Generator) (m : Moment) :
    ((g.next m).1 = none ↔ (¬ ∃ id, g.last < id) ∨ g.IsStuck m) ∧
      (g.IsStuck m → ∃ id, g.last < id) ∧
      ((g.next m).1 = none → (g.next m).2 = g) ∧
      ∀ id, (g.next m).1 = some id → g.last < id ∧ (g.next m).2.last = id := by
  refine ⟨?_, IsStuck.exists_gt, snd_next_of_none, fun id hid => ⟨?_, last_next_of_some hid⟩⟩
  · rw [fst_next, draw?_eq_none_iff, RecordId.not_exists_gt_iff]
    have hreading : m.reading ≤ lastMillis := Nat.le_of_lt_succ (Nat.mod_lt _ (by decide))
    constructor
    · rintro ⟨hchance, hle⟩
      rcases Nat.lt_or_ge g.last.millis lastMillis with hlt | hge
      · exact .inr ⟨hchance, hlt, hle⟩
      · exact .inl ⟨hchance, Nat.le_antisymm g.last.millis_le hge⟩
    · rintro (⟨hchance, hmillis⟩ | hstuck)
      · exact ⟨hchance, hmillis ▸ hreading⟩
      · exact ⟨hstuck.chance_eq, hstuck.reading_le⟩
  · rw [fst_next] at hid
    exact lt_of_draw? hid

/-- The clock is behind an identifier that is the last one of its millisecond. -/
theorem next_eq_none_of_lastChance :
    let g := startingAfter (.ofParts 0xf000_00000000 lastChance)
    g.last < .ofParts 0xf000_00000001 0 ∧ (g.next ⟨1907755200000, 0⟩).1 = none := by
  decide

/-! ## Draw after draw -/

/-- What comes of drawing at several moments. -/
def draws (g : Generator) : List Moment → List (Option RecordId)
  | [] => []
  | m :: rest => (g.next m).1 :: (g.next m).2.draws rest

/-- The generator after drawing at several moments. -/
def afterDraws (g : Generator) (moments : List Moment) : Generator :=
  moments.foldl (fun g m => (g.next m).2) g

/-- The latest time that is known: the one of the given identifier, or one that the clock showed. -/
def latest (floor : RecordId) (moments : List Moment) : Nat :=
  (moments.map Moment.reading).foldl max floor.millis

theorem draws_append (g : Generator) (earlier later : List Moment) :
    g.draws (earlier ++ later) = g.draws earlier ++ (g.afterDraws earlier).draws later := by
  induction earlier generalizing g with
  | nil => rfl
  | cons m rest ih => exact congrArg ((g.next m).1 :: ·) (ih _)

theorem length_draws (g : Generator) (moments : List Moment) :
    (g.draws moments).length = moments.length := by
  induction moments generalizing g with
  | nil => rfl
  | cons m rest ih => exact congrArg (· + 1) (ih _)

/-- All identifiers that are drawn grow from the last one on. -/
theorem pairwise_draws (g : Generator) (moments : List Moment) :
    (g.last :: (g.draws moments).reduceOption).Pairwise (· < ·) := by
  induction moments generalizing g with
  | nil => exact List.pairwise_singleton _ _
  | cons m rest ih =>
      have hrest := ih (g.next m).2
      rw [draws]
      cases h : g.draw? m with
      | none =>
          rw [next_of_draw?_eq_none h] at hrest ⊢
          rwa [List.reduceOption_cons_of_none]
      | some id =>
          rw [next_of_draw?_eq_some h] at hrest ⊢
          rw [List.reduceOption_cons_of_some]
          have habove := lt_of_draw? h
          refine List.pairwise_cons.mpr ⟨fun next hnext => ?_, hrest⟩
          rcases List.mem_cons.mp hnext with rfl | hnext
          · exact habove
          · exact Nat.lt_trans habove ((List.pairwise_cons.mp hrest).1 next hnext)

/-- Whatever the draws came to, the generator knows the latest time. -/
theorem millis_last_afterDraws (g : Generator) (moments : List Moment) :
    (g.afterDraws moments).last.millis = latest g.last moments := by
  unfold afterDraws latest
  rw [List.foldl_map]
  induction moments generalizing g with
  | nil => rfl
  | cons m rest ih => rw [List.foldl_cons, List.foldl_cons, ih, millis_snd_next]

/-- The identifiers that are drawn from a floor on grow, and all are above the floor, however the
clock goes and whichever draws fail in between. A draw that fails changes nothing, and one that
succeeds gives an identifier of the latest time that the floor has or the clock has shown so far. -/
theorem draws_startingAfter (floor : RecordId) (moments : List Moment) :
    let g := startingAfter floor
    (floor :: (g.draws moments).reduceOption).Pairwise (· < ·) ∧
      ∀ before m after, moments = before ++ m :: after →
        let g' := g.afterDraws before
        (g.draws moments)[before.length]? = some (g'.next m).1 ∧
          ((g'.next m).1 = none → (g'.next m).2 = g') ∧
          ∀ id, (g'.next m).1 = some id → id.millis = latest floor (before ++ [m]) := by
  intro g
  refine ⟨pairwise_draws g moments, ?_⟩
  rintro before m after rfl
  intro g'
  refine ⟨?_, snd_next_of_none, fun id hid => ?_⟩
  · rw [draws_append, List.getElem?_append_right (Nat.le_of_eq (length_draws g before)),
      length_draws, Nat.sub_self]
    rfl
  · have hlast := millis_last_afterDraws g (before ++ [m])
    rw [afterDraws, List.foldl_append] at hlast
    rw [← last_next_of_some hid]
    exact hlast

/-- While the clock is behind, a draw fails; it shows a later time, and then steps back again. -/
example :
    (startingAfter (.ofParts 5 lastChance)).draws [⟨5, 0⟩, ⟨6, 3⟩, ⟨4, 0⟩] =
      [none, some (.ofParts 6 3), some (.ofParts 6 4)] := by
  decide

end Generator

end Lodging
