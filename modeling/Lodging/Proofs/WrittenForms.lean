import Lodging.Calendar.Day
import Lodging.RecordId
import Mathlib.Algebra.Order.Ring.Nat

/-!
# Written forms

Identifiers and days are read back from the texts that are written for them. Both are made of
digits in a fixed number of places, so the laws of such digits come first.
-/

namespace Lodging

namespace Text

/-- The values of the last `width` digits of `n`, highest first. -/
def digitValues (base : Nat) : Nat → Nat → List Nat
  | 0, _ => []
  | width + 1, n => digitValues base width (n / base) ++ [n % base]

theorem fixedDigits_eq_map (base width n : Nat) :
    fixedDigits base width n = (digitValues base width n).map digitChar := by
  induction width generalizing n with
  | zero => rfl
  | succ width ih => rw [fixedDigits, digitValues, ih, List.map_append, List.map_singleton]

@[simp] theorem length_digitValues (base width n : Nat) :
    (digitValues base width n).length = width := by
  induction width generalizing n with
  | zero => rfl
  | succ width ih => rw [digitValues, List.length_append, ih, List.length_singleton]

@[simp] theorem length_fixedDigits (base width n : Nat) :
    (fixedDigits base width n).length = width := by
  rw [fixedDigits_eq_map, List.length_map, length_digitValues]

theorem lt_of_mem_digitValues {base width n d : Nat} (hbase : 0 < base)
    (hd : d ∈ digitValues base width n) : d < base := by
  induction width generalizing n with
  | zero => cases hd
  | succ width ih =>
      rcases List.mem_append.mp hd with hd | hd
      · exact ih hd
      · rw [List.mem_singleton.mp hd]
        exact Nat.mod_lt n hbase

theorem ofDigitValues_snoc (base : Nat) (values : List Nat) (d : Nat) :
    ofDigitValues base (values ++ [d]) = base * ofDigitValues base values + d := by
  rw [ofDigitValues, List.foldl_append]
  rfl

theorem ofDigitValues_digitValues (base width n : Nat) :
    ofDigitValues base (digitValues base width n) = n % base ^ width := by
  induction width generalizing n with
  | zero => rw [Nat.pow_zero, Nat.mod_one]; rfl
  | succ width ih =>
      rw [digitValues, ofDigitValues_snoc, ih, Nat.pow_succ, Nat.mul_comm _ base, Nat.mod_mul,
        Nat.add_comm]

theorem hexValue?_digitChar : ∀ d < 16, hexValue? (digitChar d) = some d := by decide

theorem decimalValue?_digitChar : ∀ d < 10, decimalValue? (digitChar d) = some d := by decide

theorem isBlank_digitChar : ∀ d < 10, isBlank (digitChar d) = false := by decide

theorem digitChar_ne_sign : ∀ d < 10, digitChar d ≠ '-' ∧ digitChar d ≠ '+' := by decide

/-- Reading digit characters one by one gives back the values they were written for. -/
theorem mapM_map_digitChar {read : Char → Option Nat} {values : List Nat}
    (h : ∀ d ∈ values, read (digitChar d) = some d) :
    (values.map digitChar).mapM read = some values := by
  induction values with
  | nil => rfl
  | cons d rest ih =>
      have hrest := ih fun d hd => h d (List.mem_cons_of_mem _ hd)
      simp [h d List.mem_cons_self, hrest]

theorem filterMap_map_digitChar {read : Char → Option Nat} {values : List Nat}
    (h : ∀ d ∈ values, read (digitChar d) = some d) :
    (values.map digitChar).filterMap read = values := by
  induction values with
  | nil => rfl
  | cons d rest ih =>
      rw [List.map_cons, List.filterMap_cons_some (h d List.mem_cons_self)]
      rw [ih fun d hd => h d (List.mem_cons_of_mem _ hd)]

/-- The first of at least one decimal digit. -/
theorem exists_fixedDigits_eq_cons (width n : Nat) :
    ∃ d rest, d < 10 ∧ fixedDigits 10 (width + 1) n = digitChar d :: rest := by
  cases hvalues : digitValues 10 (width + 1) n with
  | nil => exact absurd (length_digitValues 10 (width + 1) n) (by simp [hvalues])
  | cons d rest =>
      have hd : d < 10 := lt_of_mem_digitValues (by decide) (hvalues ▸ List.mem_cons_self)
      exact ⟨d, rest.map digitChar, hd, by rw [fixedDigits_eq_map, hvalues, List.map_cons]⟩

/-- A number is read from its digits if the reader takes exactly these: because the limit says so,
or because no digit follows. -/
theorem leadingNumber_fixedDigits {limit : Option Nat} (width n : Nat) (rest : List Char)
    (hstop : limit = some (width + 1) ∨
      limit = none ∧ rest.takeWhile (fun c => (decimalValue? c).isSome) = []) :
    leadingNumber limit (fixedDigits 10 (width + 1) n ++ rest) =
      some (n % 10 ^ (width + 1), rest) := by
  have hread : ∀ d ∈ digitValues 10 (width + 1) n, decimalValue? (digitChar d) = some d :=
    fun d hd => decimalValue?_digitChar d (lt_of_mem_digitValues (by decide) hd)
  have hall : (fixedDigits 10 (width + 1) n ++ rest).takeWhile
        (fun c => (decimalValue? c).isSome) =
      fixedDigits 10 (width + 1) n ++ rest.takeWhile fun c => (decimalValue? c).isSome := by
    apply List.takeWhile_append_of_pos
    rw [fixedDigits_eq_map]
    intro c hc
    obtain ⟨d, hd, rfl⟩ := List.mem_map.mp hc
    rw [hread d hd]
    rfl
  have hlength : (fixedDigits 10 (width + 1) n).length = width + 1 := length_fixedDigits _ _ _
  have hnonempty : fixedDigits 10 (width + 1) n ≠ [] := by
    intro h
    rw [h] at hlength
    cases hlength
  have hvalue : ofDigitValues 10 ((fixedDigits 10 (width + 1) n).filterMap decimalValue?) =
      n % 10 ^ (width + 1) := by
    rw [fixedDigits_eq_map, filterMap_map_digitChar hread, ofDigitValues_digitValues]
  rcases hstop with rfl | ⟨rfl, hrest⟩
  · simp only [leadingNumber, hall, List.take_left' hlength, List.isEmpty_iff, hnonempty, if_false,
      hvalue, List.drop_left]
  · simp only [leadingNumber, hall, hrest, List.append_nil, List.isEmpty_iff, hnonempty, if_false,
      hvalue, List.drop_left]

theorem skipBlanks_fixedDigits (width n : Nat) (rest : List Char) :
    skipBlanks (fixedDigits 10 (width + 1) n ++ rest) = fixedDigits 10 (width + 1) n ++ rest := by
  obtain ⟨d, more, hd, heq⟩ := exists_fixedDigits_eq_cons width n
  rw [heq, List.cons_append, skipBlanks,
    List.dropWhile_cons_of_neg (by rw [isBlank_digitChar d hd]; decide)]

end Text

/-! ## Identifiers -/

namespace RecordId

open Text

/-- Reading an identifier undoes writing it. -/
theorem parse_hex (id : RecordId) : parse id.hex = .ok id := by
  have hread : ∀ d ∈ digitValues 16 hexLength id.toNat, hexValue? (digitChar d) = some d :=
    fun d hd => hexValue?_digitChar d (lt_of_mem_digitValues (by decide) hd)
  have hvalues : id.hexChars.mapM hexValue? = some (digitValues 16 hexLength id.toNat) := by
    rw [hexChars, fixedDigits_eq_map]
    exact mapM_map_digitChar hread
  have hnat : ofDigitValues 16 (digitValues 16 hexLength id.toNat) = id.toNat := by
    rw [ofDigitValues_digitValues]
    exact Nat.mod_eq_of_lt id.toNat_lt
  have hchars : ofHexChars? id.hexChars = some id := by
    have hlength : id.hexChars.length = hexLength := length_fixedDigits _ _ _
    simp only [ofHexChars?, hlength, if_true, hvalues, Option.bind_some, hnat, ofNat?,
      id.toNat_lt, dif_pos]
  rw [parse, hex, String.toList_ofList, hchars]

end RecordId

/-! ## Days -/

namespace Day

open Text

theorem month_lt (d : Day) : d.month < 10 ^ 2 := by
  have := d.month_mem
  omega

theorem day_lt (d : Day) : d.day < 10 ^ 2 := by
  have := d.day_mem
  have := monthLength_le d.year d.month
  omega

theorem readHyphen_cons (cs : List Char) : readHyphen ('-' :: cs) = some cs := rfl

theorem readPart_fixedDigits {n : Nat} (hn : n < 10 ^ 2) (rest : List Char) :
    readPart (fixedDigits 10 2 n ++ rest) = some (n, rest) := by
  rw [readPart, skipBlanks_fixedDigits 1 n rest,
    leadingNumber_fixedDigits 1 n rest (.inl rfl), Nat.mod_eq_of_lt hn]

theorem exists_yearWidth_eq_succ (n : Nat) : ∃ w, yearWidth n = w + 1 := by
  unfold yearWidth
  split
  · exact ⟨3, rfl⟩
  · split
    · exact ⟨4, rfl⟩
    · exact ⟨5, rfl⟩

theorem lt_pow_yearWidth {n : Nat} (hn : n < 1000000) : n < 10 ^ yearWidth n := by
  unfold yearWidth
  split
  · assumption
  · split
    · assumption
    · exact hn

/-- A year of a sign and digits is read up to the hyphen that follows. -/
theorem leadingNumber_year {n : Nat} (hn : n < 1000000) (rest : List Char) :
    leadingNumber none (fixedDigits 10 (yearWidth n) n ++ '-' :: rest) =
      some (n, '-' :: rest) := by
  obtain ⟨w, hw⟩ := exists_yearWidth_eq_succ n
  have hlt := lt_pow_yearWidth hn
  rw [hw] at hlt ⊢
  rw [leadingNumber_fixedDigits w n ('-' :: rest) (.inr ⟨rfl, rfl⟩), Nat.mod_eq_of_lt hlt]

theorem readYear_yearText (d : Day) (rest : List Char) :
    readYear (yearText d.year ++ '-' :: rest) = some (d.year, '-' :: rest) := by
  have hyear := d.year_mem
  have hsmall : d.year.natAbs < 1000000 := by omega
  have hread := leadingNumber_year hsmall rest
  unfold yearText
  split
  · have hvalue : -((d.year.natAbs : Nat) : Int) = d.year := by omega
    change (leadingNumber none (fixedDigits 10 _ _ ++ _)).map _ = _
    simp only [hread, Option.map_some, hvalue]
  · split
    · have hvalue : ((d.year.natAbs : Nat) : Int) = d.year := by omega
      change (leadingNumber none (fixedDigits 10 _ _ ++ _)).map _ = _
      simp only [hread, Option.map_some, hvalue]
    · have hvalue : ((d.year.natAbs : Nat) : Int) = d.year := by omega
      have hwidth : yearWidth d.year.natAbs = 4 := if_pos (by omega)
      obtain ⟨c, more, hc, heq⟩ := exists_fixedDigits_eq_cons 3 d.year.natAbs
      obtain ⟨hminus, hplus⟩ := digitChar_ne_sign c hc
      have hfour : leadingNumber (some 4) (fixedDigits 10 4 d.year.natAbs ++ '-' :: rest) =
          some (d.year.natAbs, '-' :: rest) := by
        rw [leadingNumber_fixedDigits 3 _ _ (.inl rfl), Nat.mod_eq_of_lt (by omega)]
      rw [hwidth, readYear, skipBlanks_fixedDigits 3]
      -- The first digit is no sign, so the third branch is taken.
      rw [heq] at hfour ⊢
      simp only [List.cons_append] at hfour ⊢
      split
      · next h => exact absurd (List.cons.inj h).1 hminus
      · next h => exact absurd (List.cons.inj h).1 hplus
      · rw [hfour, Option.map_some, hvalue]

/-- Reading a day undoes writing it. -/
theorem ofText?_text (d : Day) : ofText? d.text = some d := by
  have hcivil : ofCivil? d.year d.month d.day = some d :=
    dif_pos ⟨d.year_mem, d.month_mem, d.day_mem⟩
  have hlast := readPart_fixedDigits d.day_lt []
  rw [List.append_nil] at hlast
  rw [ofText?, text, String.toList_ofList, ofChars?, chars, List.append_assoc, List.cons_append]
  simp only [readYear_yearText, Option.bind_eq_bind, Option.bind_some, readHyphen_cons,
    readPart_fixedDigits d.month_lt, hlast]
  exact hcivil

end Day

end Lodging
