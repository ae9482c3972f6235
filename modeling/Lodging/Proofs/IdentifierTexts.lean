import Mathlib.Data.List.Basic
import Mathlib.Data.List.Induction
import Lodging.Engine.Queries
import Lodging.Log.Bytes
import Lodging.Proofs.WrittenForms

/-!
# Identifiers as texts

An identifier is read from exactly the texts of 32 hexadecimal digits, in either case, and is
written in lower case. The order of the written forms is that of the identifiers, so a cursor can be
compared as the text that it is sent as.
-/

namespace Lodging

namespace Text

variable {c : Char} {cs : List Char} {values : List Nat} {base width a b : Nat}

/-! ## Hexadecimal digits -/

/-- The character is an ASCII hexadecimal digit, of either case. -/
def IsHexDigit (c : Char) : Prop :=
  '0' ≤ c ∧ c ≤ '9' ∨ 'a' ≤ c ∧ c ≤ 'f' ∨ 'A' ≤ c ∧ c ≤ 'F'

instance (c : Char) : Decidable (IsHexDigit c) :=
  inferInstanceAs (Decidable ('0' ≤ c ∧ c ≤ '9' ∨ 'a' ≤ c ∧ c ≤ 'f' ∨ 'A' ≤ c ∧ c ≤ 'F'))

theorem isHexDigit_iff_exists : IsHexDigit c ↔ ∃ d, hexValue? c = some d := by
  rw [← Option.isSome_iff_exists]
  unfold IsHexDigit hexValue?
  split_ifs <;> simp_all

theorem IsHexDigit.toNat_lt (h : IsHexDigit c) : c.toNat < 128 := by
  have hle : ∀ {last : Char}, c ≤ last → c.toNat ≤ last.toNat := fun h => h
  rcases h with ⟨-, h⟩ | ⟨-, h⟩ | ⟨-, h⟩
  all_goals exact Nat.lt_of_le_of_lt (hle h) (by decide)

/-- What holds of the ASCII characters one by one holds of all of them. -/
theorem forall_ascii {p : Char → Prop} (h : ∀ n < 128, p (Char.ofNat n)) (hc : c.toNat < 128) :
    p c :=
  c.ofNat_toNat ▸ h c.toNat hc

theorem toLower_of_not_ascii (hc : 128 ≤ c.toNat) : c.toLower = c := by
  unfold Char.toLower
  refine dif_neg fun h => ?_
  have hle : c.toNat ≤ 'Z'.toNat := h.2
  exact absurd (Nat.le_trans hc hle) (by decide)

theorem toList_toLower (s : String) : s.toLower.toList = s.toList.map Char.toLower :=
  String.toList_map

theorem hexValue?_toLower (c : Char) : hexValue? c.toLower = hexValue? c := by
  rcases Nat.lt_or_ge c.toNat 128 with hc | hc
  · exact forall_ascii (p := fun c => hexValue? c.toLower = hexValue? c) (by decide +kernel) hc
  · rw [toLower_of_not_ascii hc]

theorem digitChar_of_hexValue? {d : Nat} (h : hexValue? c = some d) :
    d < 16 ∧ digitChar d = c.toLower := by
  have hc : c.toNat < 128 := (isHexDigit_iff_exists.mpr ⟨d, h⟩).toNat_lt
  exact forall_ascii (p := fun c => ∀ d ∈ hexValue? c, d < 16 ∧ digitChar d = c.toLower)
    (by decide +kernel) hc d h

theorem forall_isHexDigit_iff :
    (∀ c ∈ cs, IsHexDigit c) ↔ ∃ values, cs.mapM hexValue? = some values := by
  induction cs with
  | nil => exact iff_of_true nofun ⟨[], rfl⟩
  | cons c rest ih =>
      rw [List.forall_mem_cons, ih, isHexDigit_iff_exists, List.mapM_cons]
      constructor
      · rintro ⟨⟨d, hd⟩, values, hvalues⟩
        exact ⟨d :: values, by rw [hd, hvalues]; rfl⟩
      · rintro ⟨all, hall⟩
        obtain ⟨d, hd, hall⟩ := Option.bind_eq_some_iff.mp hall
        obtain ⟨values, hvalues, -⟩ := Option.bind_eq_some_iff.mp hall
        exact ⟨⟨d, hd⟩, values, hvalues⟩

/-- Digits that are read are, in lower case, the ones that are written for their values. -/
theorem map_digitChar_of_mapM (h : cs.mapM hexValue? = some values) :
    (∀ d ∈ values, d < 16) ∧ values.map digitChar = cs.map Char.toLower := by
  induction cs generalizing values with
  | nil =>
      obtain rfl := Option.some.inj h
      exact ⟨nofun, rfl⟩
  | cons c rest ih =>
      rw [List.mapM_cons] at h
      obtain ⟨d, hd, h⟩ := Option.bind_eq_some_iff.mp h
      obtain ⟨tail, htail, h⟩ := Option.bind_eq_some_iff.mp h
      obtain rfl := Option.some.inj h
      obtain ⟨hlt, hchar⟩ := digitChar_of_hexValue? hd
      obtain ⟨hlts, hchars⟩ := ih htail
      refine ⟨List.forall_mem_cons.mpr ⟨hlt, hlts⟩, ?_⟩
      rw [List.map_cons, List.map_cons, hchar, hchars]

/-! ## Values of digits -/

theorem ofDigitValues_lt (h : ∀ d ∈ values, d < base) :
    ofDigitValues base values < base ^ values.length := by
  induction values using List.reverseRecOn with
  | nil => exact Nat.one_pos
  | append_singleton values d ih =>
      obtain ⟨hvalues, hd⟩ := List.forall_mem_append.mp h
      have hlt := ih hvalues
      have hd := hd d List.mem_cons_self
      rw [ofDigitValues_snoc, List.length_append, List.length_singleton, Nat.pow_succ']
      calc base * ofDigitValues base values + d
          < base * ofDigitValues base values + base := Nat.add_lt_add_left hd _
        _ = base * (ofDigitValues base values + 1) := (Nat.mul_succ _ _).symm
        _ ≤ base * base ^ values.length := Nat.mul_le_mul_left base hlt

theorem digitValues_ofDigitValues (h : ∀ d ∈ values, d < base) :
    digitValues base values.length (ofDigitValues base values) = values := by
  induction values using List.reverseRecOn with
  | nil => rfl
  | append_singleton values d ih =>
      obtain ⟨hvalues, hd⟩ := List.forall_mem_append.mp h
      have hd := hd d List.mem_cons_self
      have hbase : 0 < base := Nat.zero_lt_of_lt hd
      rw [ofDigitValues_snoc, List.length_append, List.length_singleton, digitValues,
        Nat.mul_add_div hbase, Nat.div_eq_of_lt hd, Nat.add_zero, ih hvalues, Nat.mul_add_mod,
        Nat.mod_eq_of_lt hd]

/-! ## Order -/

theorem append_lt_append {α : Type} [LT α] {xs ys xs' ys' : List α}
    (hlength : xs.length = ys.length) (h : xs < ys) : xs ++ xs' < ys ++ ys' := by
  induction xs generalizing ys with
  | nil =>
      obtain rfl := List.eq_nil_of_length_eq_zero hlength.symm
      cases h
  | cons x xs ih =>
      cases ys with
      | nil => cases hlength
      | cons y ys =>
          rw [List.cons_append, List.cons_append, List.cons_lt_cons_iff]
          rcases List.cons_lt_cons_iff.mp h with hlt | ⟨rfl, hlt⟩
          · exact .inl hlt
          · exact .inr ⟨rfl, ih (Nat.succ.inj hlength) hlt⟩

/-- Numbers of the same width are in the order of their digits, whatever stands for the digits. -/
theorem map_digitValues_lt {α : Type} [LT α] {digit : Nat → α}
    (hdigit : ∀ d < base, ∀ c < d, digit c < digit d) (hab : a < b) (hb : b < base ^ width) :
    (digitValues base width a).map digit < (digitValues base width b).map digit := by
  induction width generalizing a b with
  | zero => exact absurd (Nat.lt_of_lt_of_le hab (Nat.le_of_lt_succ hb)) (Nat.not_lt_zero a)
  | succ width ih =>
      have hbase : 0 < base := Nat.pos_of_ne_zero fun h => by simp [h] at hb
      rw [digitValues, digitValues, List.map_append, List.map_append]
      rcases Nat.lt_or_eq_of_le (Nat.div_le_div_right (c := base) (Nat.le_of_lt hab)) with hlt | heq
      · refine append_lt_append (by simp) (ih hlt ?_)
        exact Nat.div_lt_of_lt_mul (Nat.pow_succ' ▸ hb)
      · rw [heq]
        have hlast : a % base < b % base := by
          have ha := Nat.div_add_mod a base
          have hb := Nat.div_add_mod b base
          rw [heq] at ha
          omega
        exact List.append_left_lt
          (List.cons_lt_cons_iff.mpr (.inl (hdigit _ (Nat.mod_lt b hbase) _ hlast)))

theorem digitChar_lt : ∀ d < 16, ∀ c < d, digitChar c < digitChar d := by decide

/-! ## Encoded texts -/

open Log (utf8)

/-- The byte is the code of a hexadecimal digit. -/
def IsHexByte (b : UInt8) : Prop := IsHexDigit (Char.ofNat b.toNat)

theorem IsHexByte.toNat_lt {b : UInt8} (h : IsHexByte b) : b.toNat < 128 := by
  have hvalid : b.toNat.isValidChar := .inl (Nat.lt_trans b.toNat_lt (by decide))
  have hchar : (Char.ofNat b.toNat).toNat = b.toNat := by
    rw [Char.ofNat, dif_pos hvalid]
    rfl
  exact hchar ▸ IsHexDigit.toNat_lt h

theorem utf8_eq_flatMap (s : String) : utf8 s = s.toList.flatMap String.utf8EncodeChar := by
  rw [utf8, String.toUTF8_eq_toByteArray, ← String.utf8Encode_toList, List.utf8Encode,
    List.data_toByteArray]

theorem utf8EncodeChar_of_ascii (hc : c.toNat < 128) :
    String.utf8EncodeChar c = [UInt8.ofNat c.toNat] :=
  if_pos (Nat.le_of_lt_succ hc)

theorem exists_mem_utf8EncodeChar_of_not_ascii (hc : 128 ≤ c.toNat) :
    ∃ b ∈ String.utf8EncodeChar c, 128 ≤ b.toNat := by
  have hfirst : ∀ n, 128 ≤ n → n < 256 → 128 ≤ (UInt8.ofNat n).toNat := fun n hle hlt => by
    rwa [UInt8.toNat_ofNat_of_lt' hlt]
  fun_cases String.utf8EncodeChar c
  case case1 hle => exact absurd hle (Nat.not_le_of_lt hc)
  all_goals exact ⟨_, List.mem_cons_self, hfirst _ (by omega) (by omega)⟩

/-- The code of an ASCII character is its only byte, while any other character has a byte that is no
ASCII character's. -/
theorem forall_isHexByte_utf8EncodeChar_iff (c : Char) :
    (∀ b ∈ String.utf8EncodeChar c, IsHexByte b) ↔ IsHexDigit c := by
  rcases Nat.lt_or_ge c.toNat 128 with hc | hc
  · have hcode : (UInt8.ofNat c.toNat).toNat = c.toNat :=
      UInt8.toNat_ofNat_of_lt' (Nat.lt_trans hc (by decide))
    rw [utf8EncodeChar_of_ascii hc, List.forall_mem_singleton, IsHexByte, hcode, Char.ofNat_toNat]
  · obtain ⟨b, hb, hle⟩ := exists_mem_utf8EncodeChar_of_not_ascii hc
    refine iff_of_false (fun h => ?_) fun h => ?_
    · exact Nat.not_lt_of_le hle (h b hb).toNat_lt
    · exact Nat.not_lt_of_le hc h.toNat_lt

theorem forall_isHexByte_utf8_iff (s : String) :
    (∀ b ∈ utf8 s, IsHexByte b) ↔ ∀ c ∈ s.toList, IsHexDigit c := by
  rw [utf8_eq_flatMap, List.forall_mem_flatMap]
  exact forall₂_congr fun c _ => forall_isHexByte_utf8EncodeChar_iff c

theorem utf8_of_forall_ascii {s : String} (h : ∀ c ∈ s.toList, c.toNat < 128) :
    utf8 s = s.toList.map fun c => UInt8.ofNat c.toNat := by
  rw [utf8_eq_flatMap, List.map_eq_flatMap]
  exact List.flatMap_congr fun c hc => utf8EncodeChar_of_ascii (h c hc)

theorem length_utf8_of_forall_isHexDigit {s : String} (h : ∀ c ∈ s.toList, IsHexDigit c) :
    (utf8 s).length = s.length := by
  rw [utf8_of_forall_ascii fun c hc => (h c hc).toNat_lt, List.length_map, String.length_toList]

end Text

namespace RecordId

open Text Log

variable {s : String} {a b id : RecordId}

/-! ## Reading -/

/-- The text is made of as many hexadecimal digits as an identifier has. -/
structure IsWritten (s : String) : Prop where
  length_eq : s.length = hexLength
  isHexDigit : ∀ c ∈ s.toList, IsHexDigit c

/-- Counting and checking the bytes of a text comes to the same as its characters. -/
theorem isWritten_iff_utf8 :
    IsWritten s ↔ (utf8 s).length = hexLength ∧ ∀ b ∈ utf8 s, IsHexByte b := by
  rw [forall_isHexByte_utf8_iff]
  constructor
  · rintro ⟨hlength, hdigits⟩
    exact ⟨(length_utf8_of_forall_isHexDigit hdigits).trans hlength, hdigits⟩
  · rintro ⟨hlength, hdigits⟩
    exact ⟨(length_utf8_of_forall_isHexDigit hdigits).symm.trans hlength, hdigits⟩

theorem ofHexChars?_map_toLower (cs : List Char) :
    ofHexChars? (cs.map Char.toLower) = ofHexChars? cs := by
  have hvalues : (cs.map Char.toLower).mapM hexValue? = cs.mapM hexValue? := by
    rw [List.mapM_map]
    exact congrArg (cs.mapM ·) (funext hexValue?_toLower)
  rw [ofHexChars?, ofHexChars?, List.length_map, hvalues]

theorem parse_eq_ok_iff_ofHexChars? : parse s = .ok id ↔ ofHexChars? s.toList = some id := by
  unfold parse
  split
  · next h => rw [h, Except.ok.injEq, Option.some.injEq]
  · next h => exact iff_of_false nofun (by rw [h]; nofun)

theorem isWritten_of_parse (h : parse s = .ok id) : IsWritten s := by
  have hread := parse_eq_ok_iff_ofHexChars?.mp h
  unfold ofHexChars? at hread
  split at hread
  · next hlength =>
      obtain ⟨values, hvalues, -⟩ := Option.bind_eq_some_iff.mp hread
      exact ⟨String.length_toList.symm.trans hlength, forall_isHexDigit_iff.mpr ⟨values, hvalues⟩⟩
  · cases hread

/-- The digits of an identifier in either case are read as the identifier. -/
theorem parse_of_toLower (h : id.hex = s.toLower) : parse s = .ok id := by
  have hchars : id.hex.toList = s.toList.map Char.toLower := by
    rw [h, toList_toLower]
  rw [parse_eq_ok_iff_ofHexChars?, ← ofHexChars?_map_toLower, ← hchars,
    ← parse_eq_ok_iff_ofHexChars?]
  exact parse_hex id

theorem exists_hex_of_isWritten (h : IsWritten s) : ∃ id : RecordId, id.hex = s.toLower := by
  obtain ⟨values, hvalues⟩ := forall_isHexDigit_iff.mp h.isHexDigit
  obtain ⟨hlt, hchars⟩ := map_digitChar_of_mapM hvalues
  have hlength : values.length = hexLength := by
    have hlengths := congrArg List.length hchars
    rwa [List.length_map, List.length_map, String.length_toList, h.length_eq] at hlengths
  have hbound := ofDigitValues_lt hlt
  rw [hlength] at hbound
  refine ⟨⟨ofDigitValues 16 values, hbound⟩, String.toList_injective ?_⟩
  rw [hex, String.toList_ofList, hexChars, fixedDigits_eq_map, ← hlength,
    digitValues_ofDigitValues hlt, hchars, toList_toLower]

theorem isWritten_iff_exists : IsWritten s ↔ ∃ id, parse s = .ok id := by
  refine ⟨fun h => ?_, fun ⟨id, hid⟩ => isWritten_of_parse hid⟩
  obtain ⟨id, hid⟩ := exists_hex_of_isWritten h
  exact ⟨id, parse_of_toLower hid⟩

theorem parse_eq_ok_iff : parse s = .ok id ↔ id.hex = s.toLower := by
  refine ⟨fun h => ?_, parse_of_toLower⟩
  obtain ⟨read, hread⟩ := exists_hex_of_isWritten (isWritten_of_parse h)
  obtain rfl : read = id := Except.ok.inj ((parse_of_toLower hread).symm.trans h)
  exact hread

theorem parse_of_not_isWritten (h : ¬ IsWritten s) :
    parse s = .error ⟨String.ofList (s.toList.take keptLength)⟩ := by
  cases hread : ofHexChars? s.toList with
  | none => rw [parse, hread]
  | some id => exact absurd (isWritten_of_parse (parse_eq_ok_iff_ofHexChars?.mpr hread)) h

theorem isWritten_hex (id : RecordId) : IsWritten id.hex :=
  isWritten_of_parse (parse_hex id)

/-! ## Order -/

/-- What grows with identifiers is in their order. -/
theorem lt_iff_of_lt {α : Type} [LT α] [Std.Asymm (α := α) (· < ·)] {f : RecordId → α}
    (hf : ∀ {a b}, a < b → f a < f b) : a < b ↔ f a < f b := by
  refine ⟨hf, fun h => ?_⟩
  rcases Nat.lt_trichotomy a.toNat b.toNat with hlt | heq | hgt
  · exact hlt
  · rw [toNat_injective heq] at h
    exact absurd h (Std.Irrefl.irrefl _)
  · exact absurd h (Std.Asymm.asymm _ _ (hf hgt))

theorem hex_lt_hex (h : a < b) : a.hex < b.hex := by
  rw [String.lt_iff, hex, hex, String.toList_ofList, String.toList_ofList, hexChars, hexChars,
    fixedDigits_eq_map, fixedDigits_eq_map]
  exact map_digitValues_lt digitChar_lt h b.toNat_lt

theorem utf8_hex (id : RecordId) :
    utf8 id.hex =
      (digitValues 16 hexLength id.toNat).map fun d => UInt8.ofNat (digitChar d).toNat := by
  rw [utf8_of_forall_ascii fun c hc => ((isWritten_hex id).isHexDigit c hc).toNat_lt, hex,
    String.toList_ofList, hexChars, fixedDigits_eq_map, List.map_map]
  rfl

theorem utf8_hex_lt_utf8_hex (h : a < b) : utf8 a.hex < utf8 b.hex := by
  have hdigit : ∀ d < 16, ∀ c < d,
      UInt8.ofNat (digitChar c).toNat < UInt8.ofNat (digitChar d).toNat := by decide
  rw [utf8_hex, utf8_hex]
  exact map_digitValues_lt hdigit h b.toNat_lt

/-- What lies behind a cursor is what its text, in lower case, stands before. At the start, this is
the empty text, which stands before everything. -/
theorem all_lt_iff_toLower_lt {page : CursorPage} {position : Option RecordId}
    (h : page.position = .ok position) (id : RecordId) :
    position.all (· < id) ↔ page.lastId.toLower < id.hex := by
  unfold CursorPage.position at h
  split at h
  · next hempty =>
      obtain rfl := Except.ok.inj h
      rw [String.isEmpty_iff.mp hempty]
      obtain ⟨c, rest, hchars⟩ : ∃ c rest, id.hexChars = c :: rest :=
        List.exists_cons_of_length_eq_add_one (length_fixedDigits 16 hexLength _)
      rw [String.lt_iff, toList_toLower, String.toList_empty, hex, String.toList_ofList, hchars]
      exact iff_of_true rfl (List.nil_lt_cons c rest)
  · obtain ⟨last, hlast, rfl⟩ : ∃ last, parse page.lastId = .ok last ∧ position = some last := by
      cases hread : parse page.lastId with
      | error error => rw [hread] at h; cases h
      | ok last => rw [hread] at h; exact ⟨last, rfl, (Except.ok.inj h).symm⟩
    rw [← parse_eq_ok_iff.mp hlast, ← lt_iff_of_lt hex_lt_hex]
    exact decide_eq_true_iff

/-- Exactly the texts of 32 hexadecimal digits are read, in characters or in bytes, each as the
identifier that is written as the text in lower case; any other is reported by its first characters.
What is written for an identifier is such a text, is read as that identifier, and stands in the
order of the identifiers, in characters or in bytes, so that the rooms behind a cursor are those
that its text is before. -/
theorem texts_of_identifiers :
    (∀ s, (IsWritten s ↔ (utf8 s).length = hexLength ∧ ∀ b ∈ utf8 s, IsHexByte b) ∧
      (IsWritten s ↔ ∃ id, parse s = .ok id) ∧
      (∀ id, parse s = .ok id ↔ id.hex = s.toLower) ∧
      (¬ IsWritten s → parse s = .error ⟨String.ofList (s.toList.take keptLength)⟩)) ∧
    (∀ id : RecordId, parse id.hex = .ok id ∧ id.hex.length = hexLength) ∧
    (∀ a b : RecordId, (a < b ↔ a.hex < b.hex) ∧ (a < b ↔ utf8 a.hex < utf8 b.hex)) ∧
    ∀ (page : CursorPage) position, page.position = .ok position → ∀ store,
      Engine.roomIdsAfter store position =
        store.roomIds.filter (page.lastId.toLower < ·.hex) := by
  refine ⟨fun s => ⟨isWritten_iff_utf8, isWritten_iff_exists, fun id => parse_eq_ok_iff,
    parse_of_not_isWritten⟩, fun id => ⟨parse_hex id, (isWritten_hex id).length_eq⟩,
    fun a b => ⟨lt_iff_of_lt hex_lt_hex, ?_⟩,
    fun page position h store => List.filter_congr fun id _ => ?_⟩
  · exact lt_iff_of_lt (f := fun id => utf8 id.hex) utf8_hex_lt_utf8_hex
  · rw [Bool.eq_iff_iff, decide_eq_true_iff]
    exact all_lt_iff_toLower_lt h id

/-- A sign is no digit, nor is a letter of two bytes that would bring the text to its length. -/
example : (parse "+0000000000000000000000000000abc").toOption = none ∧
    (parse "000000000000000000000000000000é").toOption = none := by
  decide +kernel

end RecordId

end Lodging
