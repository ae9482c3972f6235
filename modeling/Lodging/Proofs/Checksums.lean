import Mathlib.Algebra.Group.Nat.Defs
import Lodging.Log.Checksum

/-!
# What the checksum tells apart

A step of the register is linear in exclusive or and can be taken back, as the polynomial has its
highest bit set. So bytes after a difference never make up for it, and up to four bytes, which the
register holds as a whole, leave it different whenever they differ. The checksum that follows a
payload takes the register to one value, whatever the payload: from there on, a frame's payload and
its checksum are one run of bytes, and no difference within four bytes of it goes unseen.
-/

namespace Lodging.Log

theorem ofLittleEndian_lt (bytes : Bytes) : ofLittleEndian bytes < 256 ^ bytes.length := by
  induction bytes with
  | nil => exact Nat.one_pos
  | cons b rest ih =>
      have hb : b.toNat < 256 := b.toNat_lt
      rw [ofLittleEndian, List.length_cons, Nat.pow_succ]
      omega

/-- Different bytes of one length stand for different numbers. -/
theorem eq_of_ofLittleEndian_eq {bytes bytes' : Bytes} (hlength : bytes.length = bytes'.length)
    (h : ofLittleEndian bytes = ofLittleEndian bytes') : bytes = bytes' := by
  induction bytes generalizing bytes' with
  | nil => exact (List.eq_nil_of_length_eq_zero hlength.symm).symm
  | cons b rest ih =>
      cases bytes' with
      | nil => cases hlength
      | cons b' rest' =>
          have hb : b.toNat < 256 := b.toNat_lt
          have hb' : b'.toNat < 256 := b'.toNat_lt
          simp only [ofLittleEndian] at h
          have hhead : b = b' := UInt8.toNat_inj.mp (by omega)
          have htail : rest = rest' := ih (Nat.succ.inj hlength) (by omega)
          rw [hhead, htail]

namespace Checksum

/-! ## Steps of the register -/

theorem low_bit_iff (register : UInt32) : register &&& 1 = 1 ↔ register.toNat % 2 = 1 := by
  rw [← UInt32.toNat_inj, UInt32.toNat_and]
  exact iff_of_eq (congrArg (· = 1) (Nat.and_one_is_mod _))

theorem toNat_half (register : UInt32) : (register >>> 1).toNat = register.toNat / 2 := by
  rw [UInt32.toNat_shiftRight]
  rfl

theorem shift_xor (a b : UInt32) : shift (a ^^^ b) = shift a ^^^ shift b := by
  have hlow : (a ^^^ b).toNat % 2 = a.toNat % 2 ^^^ b.toNat % 2 := by
    rw [UInt32.toNat_xor]
    exact Nat.xor_mod_two_pow (n := 1)
  have hcancel (x y : UInt32) : x ^^^ polynomial ^^^ (y ^^^ polynomial) = x ^^^ y := by
    rw [UInt32.xor_comm y, UInt32.xor_assoc, ← UInt32.xor_assoc polynomial, UInt32.xor_self,
      UInt32.zero_xor]
  simp only [shift, low_bit_iff, hlow, UInt32.shiftRight_xor]
  -- The polynomial comes in for each of the two whose lowest bit is set, and cancels for both.
  rcases Nat.mod_two_eq_zero_or_one a.toNat with ha | ha <;>
    rcases Nat.mod_two_eq_zero_or_one b.toNat with hb | hb <;>
    simp only [ha, hb, reduceIte, Nat.reduceXor, Nat.zero_ne_one]
  · ac_rfl
  · ac_rfl
  · exact (hcancel _ _).symm

theorem eq_zero_of_shift_eq_zero {register : UInt32} (h : shift register = 0) : register = 0 := by
  rw [shift] at h
  split at h
  · -- The highest bit of the polynomial is one that no halved register has.
    have heq : register >>> 1 = polynomial := UInt32.xor_eq_zero_iff.mp h
    have hvalue := congrArg UInt32.toNat heq
    rw [toNat_half, show polynomial.toNat = 0xedb88320 by rfl] at hvalue
    have := register.toNat_lt
    omega
  · next hlow =>
      have hvalue := congrArg UInt32.toNat h
      rw [toNat_half, UInt32.toNat_zero] at hvalue
      rw [low_bit_iff] at hlow
      exact UInt32.toNat_inj.mp (by rw [UInt32.toNat_zero]; omega)

theorem shift_injective {a b : UInt32} (h : shift a = shift b) : a = b := by
  have hzero : shift (a ^^^ b) = 0 := by rw [shift_xor, h, UInt32.xor_self]
  exact UInt32.xor_eq_zero_iff.mp (eq_zero_of_shift_eq_zero hzero)

/-- While the lowest bit is clear, a step only moves the others. -/
theorem shift_double {n : Nat} (hn : 2 * n < 2 ^ 32) :
    shift (UInt32.ofNat (2 * n)) = UInt32.ofNat n := by
  have hvalue : (UInt32.ofNat (2 * n)).toNat = 2 * n := UInt32.toNat_ofNat_of_lt' hn
  have hlow : ¬UInt32.ofNat (2 * n) &&& 1 = 1 := by
    rw [low_bit_iff, hvalue]
    omega
  rw [shift, if_neg hlow, ← UInt32.toNat_inj, toNat_half, hvalue,
    UInt32.toNat_ofNat_of_lt' (show n < UInt32.size by simp only [UInt32.size]; omega)]
  omega

/-! ## Several steps -/

/-- The register after so many bits. -/
abbrev shifts (count : Nat) (register : UInt32) : UInt32 := Nat.repeat shift count register

theorem shifts_succ (count : Nat) (register : UInt32) :
    shifts (count + 1) register = shift (shifts count register) := rfl

theorem shifts_add (more count : Nat) (register : UInt32) :
    shifts (more + count) register = shifts more (shifts count register) := by
  induction more with
  | zero => rw [Nat.zero_add]; rfl
  | succ more ih => rw [Nat.succ_add, shifts_succ, ih, shifts_succ]

theorem shifts_xor (count : Nat) (a b : UInt32) :
    shifts count (a ^^^ b) = shifts count a ^^^ shifts count b := by
  induction count with
  | zero => rfl
  | succ count ih => rw [shifts_succ, ih, shift_xor, shifts_succ, shifts_succ]

theorem shifts_injective {count : Nat} {a b : UInt32} (h : shifts count a = shifts count b) :
    a = b := by
  induction count with
  | zero => exact h
  | succ count ih => exact ih (shift_injective h)

theorem shifts_scaled {count n : Nat} (hn : 2 ^ count * n < 2 ^ 32) :
    shifts count (UInt32.ofNat (2 ^ count * n)) = UInt32.ofNat n := by
  induction count generalizing n with
  | zero => rw [Nat.pow_zero, Nat.one_mul]; rfl
  | succ count ih =>
      rw [Nat.pow_succ, Nat.mul_assoc] at hn ⊢
      have hpositive : 0 < 2 ^ count := Nat.two_pow_pos count
      have hdouble : 2 * n < 2 ^ 32 := Nat.lt_of_le_of_lt (Nat.le_mul_of_pos_left _ hpositive) hn
      rw [shifts_succ, ih hn, shift_double hdouble]

/-! ## Bytes -/

theorem absorb_injective {a b : UInt32} {byte : UInt8} (h : absorb a byte = absorb b byte) :
    a = b :=
  (UInt32.xor_left_inj _).mp (shifts_injective h)

theorem foldl_absorb_injective {bytes : Bytes} {a b : UInt32}
    (h : bytes.foldl absorb a = bytes.foldl absorb b) : a = b := by
  induction bytes generalizing a b with
  | nil => exact h
  | cons byte rest ih => exact absorb_injective (ih h)

theorem toUInt32_xor_scaled (byte : UInt8) (n : Nat) :
    byte.toUInt32 ^^^ UInt32.ofNat (2 ^ 8 * n) = UInt32.ofNat (byte.toNat + 256 * n) := by
  have hbyte : byte.toNat < 2 ^ 8 := byte.toNat_lt
  have hbits : byte.toNat ^^^ 2 ^ 8 * n = byte.toNat + 256 * n := by
    have hlow : (byte.toNat ^^^ 2 ^ 8 * n) % 2 ^ 8 = byte.toNat := by
      rw [Nat.xor_mod_two_pow, Nat.mul_mod_right, Nat.xor_zero, Nat.mod_eq_of_lt hbyte]
    have hhigh : (byte.toNat ^^^ 2 ^ 8 * n) / 2 ^ 8 = n := by
      rw [Nat.xor_div_two_pow, Nat.div_eq_of_lt hbyte, Nat.zero_xor,
        Nat.mul_div_cancel_left n (by decide)]
    omega
  rw [← hbits, UInt32.ofNat_xor, UInt32.ofNat_uInt8ToNat]

/-- As many bytes as the register has room for are taken in as one number. -/
theorem foldl_absorb_word {bytes : Bytes} (hlength : bytes.length ≤ 4) (register : UInt32) :
    bytes.foldl absorb register =
      shifts (8 * bytes.length) (register ^^^ UInt32.ofNat (ofLittleEndian bytes)) := by
  induction bytes generalizing register with
  | nil => exact (UInt32.xor_zero).symm
  | cons byte rest ih =>
      have hlt : ofLittleEndian rest < 256 ^ 3 :=
        Nat.lt_of_lt_of_le (ofLittleEndian_lt rest)
          (Nat.pow_le_pow_right (by decide) (Nat.le_of_succ_le_succ hlength))
      have hrest : 2 ^ 8 * ofLittleEndian rest < 2 ^ 32 := by omega
      rw [List.foldl_cons, ih (Nat.le_of_succ_le hlength), List.length_cons, Nat.mul_succ,
        shifts_add, ofLittleEndian, ← toUInt32_xor_scaled, ← UInt32.xor_assoc, shifts_xor 8,
        shifts_scaled hrest]
      rfl

/-- Different bytes leave the register different, if it had room for them. -/
theorem foldl_absorb_ne {bytes bytes' : Bytes} (hlength : bytes.length = bytes'.length)
    (hfour : bytes.length ≤ 4) (hne : bytes ≠ bytes') (register : UInt32) :
    bytes.foldl absorb register ≠ bytes'.foldl absorb register := by
  intro h
  rw [foldl_absorb_word hfour, foldl_absorb_word (hlength ▸ hfour), hlength] at h
  have hword : UInt32.ofNat (ofLittleEndian bytes) = UInt32.ofNat (ofLittleEndian bytes') :=
    (UInt32.xor_right_inj _).mp (shifts_injective h)
  have hlt (bytes : Bytes) (hfour : bytes.length ≤ 4) : ofLittleEndian bytes < UInt32.size :=
    Nat.lt_of_lt_of_le (ofLittleEndian_lt bytes) (Nat.pow_le_pow_right (by decide) hfour)
  have hvalue := congrArg UInt32.toNat hword
  rw [UInt32.toNat_ofNat_of_lt' (hlt bytes hfour),
    UInt32.toNat_ofNat_of_lt' (hlt bytes' (hlength ▸ hfour))] at hvalue
  exact hne (eq_of_ofLittleEndian_eq hlength hvalue)

/-! ## A payload and its checksum -/

/-- What the register comes to over a payload and its checksum. -/
def residue : UInt32 := shifts 32 0xffffffff

example : residue = 0xdebb20e3 := by decide +kernel

theorem foldl_absorb_append_eq_residue_iff {payload stored : Bytes} (hstored : stored.length = 4) :
    (payload ++ stored).foldl absorb 0xffffffff = residue ↔
      ofLittleEndian stored = (crc32 payload).toNat := by
  have hlt : ofLittleEndian stored < UInt32.size := by
    have h := ofLittleEndian_lt stored
    rwa [hstored] at h
  rw [List.foldl_append, foldl_absorb_word (Nat.le_of_eq hstored), hstored, residue, crc32]
  generalize payload.foldl absorb 0xffffffff = register
  constructor
  · intro h
    have hsum := shifts_injective h
    rw [← hsum, ← UInt32.xor_assoc, UInt32.xor_self, UInt32.zero_xor,
      UInt32.toNat_ofNat_of_lt' hlt]
  · intro h
    rw [h, UInt32.ofNat_toNat, ← UInt32.xor_assoc, UInt32.xor_self, UInt32.zero_xor]

/-- A difference within four bytes of a payload and its checksum: they do not fit together any
more. -/
theorem ne_crc32_of_burst {payload stored payload' stored' front word word' back : Bytes}
    (hstored : stored.length = 4) (hstored' : stored'.length = 4)
    (hsum : ofLittleEndian stored = (crc32 payload).toNat)
    (heq : payload ++ stored = front ++ word ++ back)
    (heq' : payload' ++ stored' = front ++ word' ++ back)
    (hlength : word.length = word'.length) (hfour : word.length ≤ 4) (hne : word ≠ word') :
    ofLittleEndian stored' ≠ (crc32 payload').toNat := by
  intro hsum'
  have h := (foldl_absorb_append_eq_residue_iff hstored).mpr hsum
  have h' := (foldl_absorb_append_eq_residue_iff hstored').mpr hsum'
  rw [heq, ← h', heq'] at h
  simp only [List.foldl_append] at h
  exact foldl_absorb_ne hlength hfour hne _ (foldl_absorb_injective h)

end Checksum

end Lodging.Log
