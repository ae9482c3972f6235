import Lodging.Calendar.Stay
import Mathlib.Data.Int.ConditionallyCompleteOrder
import Mathlib.Data.Int.Interval
import Mathlib.Data.Set.Card

/-!
# The nights of a stay

The numbers of days count the calendar without a gap, over the ends of months and years, in leap
years and through year zero. So a stay has as many nights as the numbers of its two days differ by,
and two stays that have nights overlap exactly if they share one.
-/

namespace Lodging

namespace Day

/-! ## The next day -/

theorem daysBeforeYear_succ (year : Int) :
    daysBeforeYear (year + 1) = daysBeforeYear year + if isLeapYear year then 366 else 365 := by
  simp only [daysBeforeYear, isLeapYear, Bool.and_eq_true, Bool.or_eq_true, beq_iff_eq, bne_iff_ne]
  split
  · omega
  · omega

theorem daysBeforeMonth_succ (year : Int) {month : Nat} (h : month ≠ 0) :
    daysBeforeMonth year (month + 1) = daysBeforeMonth year month + monthLength year month := by
  rw [daysBeforeMonth, if_neg h]

/-- The months of a year make up the year. -/
theorem daysBeforeMonth_thirteen (year : Int) :
    daysBeforeMonth year 13 = if isLeapYear year then 366 else 365 := by
  simp only [daysBeforeMonth, monthLength]
  cases isLeapYear year with
  | false => rfl
  | true => rfl

theorem one_le_monthLength (year : Int) (month : Nat) : 1 ≤ monthLength year month := by
  unfold monthLength
  split
  · split <;> decide
  all_goals decide

/-- Behind the last day of a month, every later day lies in a later month. -/
theorem month_lt_of_lt {d later : Day} (hlast : d.day = monthLength d.year d.month)
    (h : d < later) : d.year * 12 + d.month < later.year * 12 + later.month := by
  obtain ⟨y, m, k, _, hm, hk⟩ := d
  obtain ⟨y', m', k', _, hm', hk'⟩ := later
  have hlength := monthLength_le y m
  have hlength' := monthLength_le y' m'
  simp only [lt_iff_rank, rank] at hlast h ⊢
  by_contra hle
  obtain rfl : y' = y := by omega
  obtain rfl : m' = m := by omega
  omega

/-- The last day of a month is followed by the first of the next month, unless no day follows. -/
theorem exists_next_of_last {d later : Day} (hlast : d.day = monthLength d.year d.month)
    (h : d < later) : ∃ next : Day, next.number = d.number + 1 ∧ next.day = 1 ∧
      next.year * 12 + next.month = d.year * 12 + d.month + 1 := by
  obtain ⟨y, m, k, hy, hm, hk⟩ := d
  have hmonth := month_lt_of_lt hlast h
  have hnext := daysBeforeMonth_succ y (Nat.ne_of_gt hm.1)
  simp only at hlast hmonth
  by_cases hyear : m = 12
  · have hlater := later.year_mem
    have hlater' := later.month_mem
    subst hyear
    refine ⟨⟨y + 1, 1, 1, by omega, by decide, le_refl 1, one_le_monthLength _ _⟩, ?_, rfl, ?_⟩
    · have hyears := daysBeforeYear_succ y
      have hfirst : daysBeforeMonth (y + 1) 1 = 0 := rfl
      rw [daysBeforeMonth_thirteen] at hnext
      simp only [number, hfirst]
      split at hnext
      · next hleap =>
          rw [if_pos hleap] at hyears
          omega
      · next hleap =>
          rw [if_neg hleap] at hyears
          omega
    · simp only
      omega
  · refine ⟨⟨y, m + 1, 1, hy, by omega, le_refl 1, one_le_monthLength _ _⟩, ?_, rfl, ?_⟩
    · simp only [number]
      omega
    · simp only
      omega

/-- A day before another one has a next day. Its number is one greater, and it is not behind any
later day. -/
theorem exists_next {d e : Day} (h : d < e) :
    ∃ next : Day, next.number = d.number + 1 ∧ d < next ∧ ∀ later, d < later → next ≤ later := by
  by_cases hlast : d.day = monthLength d.year d.month
  · obtain ⟨next, hnumber, hday, hmonth⟩ := exists_next_of_last hlast h
    have hlength := monthLength_le d.year d.month
    refine ⟨next, hnumber, ?_, fun later hlater => ?_⟩
    · rw [lt_iff_rank, rank, rank]
      omega
    · have hlater := month_lt_of_lt hlast hlater
      have hfirst := later.day_mem.1
      rw [le_iff_rank, rank, rank]
      omega
  · have hday := d.day_mem
    refine ⟨⟨d.year, d.month, d.day + 1, d.year_mem, d.month_mem, by omega⟩, ?_, ?_,
      fun later hlater => ?_⟩
    · simp only [number]
      omega
    · simp only [lt_iff_rank, rank]
      omega
    · simp only [lt_iff_rank, le_iff_rank, rank] at hlater ⊢
      omega

/-! ## Counting on -/

/-- From a day up to a later one, the numbers grow and leave none out. -/
theorem count_up {d e : Day} (h : d < e) : d.number < e.number ∧
    ∀ n, d.number ≤ n → n < e.number → ∃ day, d ≤ day ∧ day < e ∧ day.number = n := by
  -- The gap to the later day gets smaller with every next day.
  induction hgap : (e.rank - d.rank).toNat using Nat.strong_induction_on generalizing d with
  | h gap ih =>
      obtain ⟨next, hnumber, hlt, hnext⟩ := exists_next h
      have hle : next.rank ≤ e.rank := hnext e h
      have hrank : d.rank < next.rank := hlt
      have hfirst : d ≤ d := Int.le_refl d.rank
      rcases Int.lt_or_eq_of_le hle with hbefore | heq
      · obtain ⟨hup, hall⟩ := ih (e.rank - next.rank).toNat (by omega) hbefore rfl
        refine ⟨by omega, fun n hn hn' => ?_⟩
        by_cases hhere : n = d.number
        · exact ⟨d, hfirst, h, hhere.symm⟩
        · obtain ⟨day, hday, hday', rfl⟩ := hall n (by omega) hn'
          exact ⟨day, Int.le_trans (Int.le_of_lt hrank) hday, hday', rfl⟩
      · obtain rfl := rank_injective heq
        exact ⟨by omega, fun n hn hn' => ⟨d, hfirst, h, by omega⟩⟩

theorem number_lt_of_lt {d e : Day} (h : d < e) : d.number < e.number := (count_up h).1

theorem number_le_of_le {d e : Day} (h : d ≤ e) : d.number ≤ e.number := by
  rcases Int.lt_or_eq_of_le h with hlt | heq
  · exact Int.le_of_lt (number_lt_of_lt hlt)
  · rw [rank_injective heq]

theorem number_injective : Function.Injective number := by
  intro d e hnumber
  by_contra hne
  rcases Int.lt_trichotomy d.rank e.rank with hlt | heq | hgt
  · exact Int.ne_of_lt (number_lt_of_lt hlt) hnumber
  · exact hne (rank_injective heq)
  · exact Int.ne_of_gt (number_lt_of_lt hgt) hnumber

end Day

namespace Stay

variable {s t : Stay} {d : Day}

/-- The night that follows the day is one of the stay. -/
def HasNight (s : Stay) (d : Day) : Prop := s.checkIn ≤ d ∧ d < s.checkOut

theorem image_nights (h : s.checkIn < s.checkOut) :
    Day.number '' {d | s.HasNight d} = Set.Ico s.checkIn.number s.checkOut.number := by
  ext n
  constructor
  · rintro ⟨d, ⟨hin, hout⟩, rfl⟩
    exact ⟨Day.number_le_of_le hin, Day.number_lt_of_lt hout⟩
  · rintro ⟨hn, hn'⟩
    obtain ⟨d, hin, hout, rfl⟩ := (Day.count_up h).2 n hn hn'
    exact ⟨d, ⟨hin, hout⟩, rfl⟩

/-- A stay whose days are in order has as many nights as are counted for it. -/
theorem encard_nights (h : s.checkIn < s.checkOut) :
    {d | s.HasNight d}.encard = s.nights.toNat := by
  rw [← Day.number_injective.injOn.encard_image, image_nights h, ← Finset.coe_Ico,
    Set.encard_coe_eq_coe_finsetCard, Int.card_Ico]
  rfl

/-- Two stays that have nights overlap exactly if they share one. -/
theorem overlaps_iff (hs : s.checkIn < s.checkOut) (ht : t.checkIn < t.checkOut) :
    s.overlaps t = true ↔ ∃ d, s.HasNight d ∧ t.HasNight d := by
  simp only [overlaps, Bool.and_eq_true, decide_eq_true_eq]
  constructor
  · rintro ⟨hst, hts⟩
    -- The first common night is the later one of the first nights.
    rcases Int.le_total s.checkIn.rank t.checkIn.rank with hle | hle
    · exact ⟨t.checkIn, ⟨hle, hts⟩, Int.le_refl _, ht⟩
    · exact ⟨s.checkIn, ⟨Int.le_refl _, hs⟩, hle, hst⟩
  · rintro ⟨d, hd, hd'⟩
    exact ⟨Int.lt_of_le_of_lt hd.1 hd'.2, Int.lt_of_le_of_lt hd'.1 hd.2⟩

end Stay

end Lodging
