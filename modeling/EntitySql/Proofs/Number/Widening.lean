import EntitySql.Proofs.Number.Exact

/-!
# 32-bit floating-point numbers in 64 bits

A 32-bit number is widened to the 64-bit number of the same value and comes back as it was, and so
do infinities.  A NaN keeps its sign and payload but becomes quiet; it comes back if it was quiet.
These are the only exceptions (`Single.toSingle_toDouble`).
-/

namespace EntitySql

open Format (single double)

/-! ### The two formats -/

theorem hiddenBit_single : single.hiddenBit = 2 ^ 23 := rfl

theorem hiddenBit_double : double.hiddenBit = 2 ^ 52 := rfl

theorem leastExponent_single : single.leastExponent = -149 := rfl

theorem leastExponent_double : double.leastExponent = -1074 := rfl

theorem infinityBits_single : single.infinityBits = 255 * 2 ^ 23 := rfl

theorem infinityBits_double : double.infinityBits = 2047 * 2 ^ 52 := rfl

theorem signBit_single : single.signBit = 2 ^ 31 := rfl

theorem signBit_double : double.signBit = 2 ^ 63 := rfl

/-- A value of the smaller format is one of the greater format. -/
theorem exists_canonical_double {m : Nat} {q : Int} (h : single.Canonical m q) :
    ∃ m' q', double.Canonical m' q' ∧ (m' : ℚ) * 2 ^ q' = m * 2 ^ q := by
  obtain ⟨hleast, hsignificand, -, hfinite⟩ := h
  rw [leastExponent_single] at hleast
  rw [hiddenBit_single] at hsignificand
  rw [Format.bitsOf, leastExponent_single, hiddenBit_single, infinityBits_single] at hfinite
  -- zero has no highest bit
  rcases Nat.eq_zero_or_pos m with rfl | hm
  · refine ⟨0, -1074, ⟨?_, ?_, ?_, ?_⟩, by simp⟩ <;> decide
  · -- shifted so that the hidden bit is the highest one
    have hlow : 2 ^ Nat.log2 m ≤ m := Nat.log2_self_le hm.ne'
    have hhigh : m < 2 ^ (Nat.log2 m + 1) := Nat.lt_log2_self
    have hlog : Nat.log2 m < 24 := (Nat.log2_lt hm.ne').2 hsignificand
    obtain ⟨k, hk⟩ : ∃ k, Nat.log2 m + k = 52 := ⟨52 - Nat.log2 m, by omega⟩
    have hlow' : 2 ^ 52 ≤ m * 2 ^ k := by
      rw [← hk, Nat.pow_add]
      exact Nat.mul_le_mul_right _ hlow
    have hhigh' : m * 2 ^ k < 2 * 2 ^ 52 := by
      rw [← hk, Nat.pow_add, ← Nat.mul_assoc, ← Nat.pow_succ']
      exact Nat.mul_lt_mul_of_pos_right hhigh (Nat.two_pow_pos k)
    refine ⟨m * 2 ^ k, q - k, ⟨?_, ?_, ?_, ?_⟩, ?_⟩
    · rw [leastExponent_double]
      omega
    · rw [hiddenBit_double]
      exact hhigh'
    · rw [hiddenBit_double]
      exact .inr hlow'
    · have hexponent : (q - k - -1074).toNat ≤ 1179 := by omega
      rw [Format.bitsOf, leastExponent_double, hiddenBit_double, infinityBits_double]
      have hbits : (q - k - -1074).toNat * 2 ^ 52 + m * 2 ^ k < 1179 * 2 ^ 52 + 2 * 2 ^ 52 :=
        Nat.add_lt_add_of_le_of_lt (Nat.mul_le_mul_right _ hexponent) hhigh'
      exact hbits.trans (by decide)
    · rw [zpow_sub₀ two_ne_zero, zpow_natCast]
      push_cast
      field_simp

/-! ### Magnitudes with a sign -/

theorem Double.toNat_ofMagnitude (negative : Bool) {magnitude : Nat}
    (h : magnitude < double.signBit) :
    (Double.ofMagnitude negative magnitude).bits.toNat = double.signed negative magnitude := by
  have hbits : double.signed negative magnitude < 2 ^ 64 := by
    rw [signBit_double] at h
    rw [Format.signed, signBit_double]
    split_ifs <;> omega
  exact UInt64.toNat_ofNat_of_lt' hbits

/-- The number with a sign and a magnitude stands for what its bits do. -/
theorem Double.decode_ofMagnitude (negative : Bool) {magnitude : Nat}
    (h : magnitude < double.signBit) :
    (Double.ofMagnitude negative magnitude).decode =
      double.decode (double.signed negative magnitude) := by
  rw [Double.decode, Double.toNat_ofMagnitude negative h]

namespace Single

theorem toNat_ofMagnitude (negative : Bool) {magnitude : Nat} (h : magnitude < single.signBit) :
    (ofMagnitude negative magnitude).bits.toNat = single.signed negative magnitude := by
  have hbits : single.signed negative magnitude < 2 ^ 32 := by
    rw [signBit_single] at h
    rw [Format.signed, signBit_single]
    split_ifs <;> omega
  exact UInt32.toNat_ofNat_of_lt' hbits

/-- A number is its sign and its magnitude. -/
theorem ofMagnitude_eq_iff (x : Single) {magnitude : Nat} (h : magnitude < single.signBit) :
    ofMagnitude (decide (single.signBit ≤ x.bits.toNat)) magnitude = x ↔
      magnitude = x.bits.toNat % single.signBit := by
  have hbits : x.bits.toNat < 2 * single.signBit := x.bits.toNat_lt
  constructor
  · intro heq
    rw [← Format.signed_mod h (decide (single.signBit ≤ x.bits.toNat)), ← toNat_ofMagnitude _ h, heq]
  · rintro rfl
    show Single.mk (UInt32.ofNat (single.signed _ _)) = x
    rw [Format.signed_magnitude hbits, UInt32.ofNat_toNat]

/-! ### There and back -/

variable {x : Single}

theorem toSingle_toDouble_of_finite {negative : Bool} {m : Nat} {q : Int}
    (h : x.decode = .finite negative m q) : x.toDouble.toSingle = x := by
  obtain ⟨hcanonical, hmagnitude, rfl⟩ := Format.canonical_of_decode h
  obtain ⟨m', q', hcanonical', hvalue⟩ := exists_canonical_double hcanonical
  -- the value belongs to both formats, so neither rounding changes it
  have hround : double.round (dyadicRatio m q).1 (dyadicRatio m q).2 = double.bitsOf m' q' := by
    obtain ⟨hden, hratio⟩ := hasValue_dyadicRatio m q
    exact Format.round_of_canonical hcanonical' (by decide) ⟨hden, hratio.trans hvalue.symm⟩
  have hround' : single.round (dyadicRatio m' q').1 (dyadicRatio m' q').2 = single.bitsOf m q := by
    obtain ⟨hden, hratio⟩ := hasValue_dyadicRatio m' q'
    exact Format.round_of_canonical hcanonical (by decide) ⟨hden, hratio.trans hvalue⟩
  have hsign := hcanonical'.finite.trans double.infinityBits_lt_signBit
  have hsign' := hcanonical.finite.trans single.infinityBits_lt_signBit
  have hdouble : x.toDouble =
      Double.ofMagnitude (decide (single.signBit ≤ x.bits.toNat)) (double.bitsOf m' q') := by
    rw [toDouble, h]
    dsimp only
    rw [Double.ofRatio, hround]
  have hdecode := (Double.decode_ofMagnitude (decide (single.signBit ≤ x.bits.toNat)) hsign).trans
    (Format.decode_bitsOf hcanonical' _)
  rw [hdouble, Double.toSingle, hdecode]
  dsimp only
  rw [ofRatio, hround', ofMagnitude_eq_iff x hsign', hmagnitude]

theorem toSingle_toDouble_of_infinite {negative : Bool} (h : x.decode = .infinite negative) :
    x.toDouble.toSingle = x := by
  obtain ⟨hmagnitude, rfl⟩ := Format.magnitude_of_decode_infinite h
  have hdecode := (Double.decode_ofMagnitude (decide (single.signBit ≤ x.bits.toNat))
    double.infinityBits_lt_signBit).trans (Format.decode_infinity _)
  rw [toDouble, h]
  dsimp only
  rw [Double.toSingle, hdecode]
  dsimp only
  rw [ofMagnitude_eq_iff x single.infinityBits_lt_signBit, hmagnitude]

/-- The magnitude of a quiet NaN in 64 bits, with the payload of one in 32 bits. -/
def widenedNaN (x : Single) : Nat :=
  double.infinityBits + 1 <<< 51 + (x.bits.toNat % (1 <<< 22)) <<< 29

theorem widenedNaN_eq (x : Single) :
    x.widenedNaN = 2047 * 2 ^ 52 + 2 ^ 51 + x.bits.toNat % 2 ^ 22 * 2 ^ 29 := by
  unfold widenedNaN
  rw [infinityBits_double, Nat.shiftLeft_eq 1 51, Nat.shiftLeft_eq 1 22, Nat.shiftLeft_eq _ 29,
    Nat.one_mul, Nat.one_mul]

/-- The payload is where it was put. -/
theorem payload_widenedNaN (x : Single) (negative : Bool) :
    (double.signed negative x.widenedNaN >>> 29) % (1 <<< 22) = x.bits.toNat % 2 ^ 22 := by
  have hpayload : x.bits.toNat % 2 ^ 22 < 2 ^ 22 := Nat.mod_lt _ (Nat.two_pow_pos 22)
  rw [Nat.shiftRight_eq_div_pow, Nat.shiftLeft_eq, Nat.one_mul, widenedNaN_eq, Format.signed,
    signBit_double]
  generalize x.bits.toNat % 2 ^ 22 = payload at hpayload ⊢
  split_ifs <;> omega

/-- A NaN comes back quiet. -/
theorem toSingle_toDouble_of_nan (h : x.decode = .nan) :
    x.toDouble.toSingle = ofMagnitude (decide (single.signBit ≤ x.bits.toNat))
      (single.infinityBits + 2 ^ 22 + x.bits.toNat % 2 ^ 22) := by
  -- a NaN has no value to round, so its sign and its payload are followed through the bits
  generalize hnegative : decide (single.signBit ≤ x.bits.toNat) = negative
  have hpayload : x.bits.toNat % 2 ^ 22 < 2 ^ 22 := Nat.mod_lt _ (Nat.two_pow_pos 22)
  have hsign : x.widenedNaN < double.signBit := by
    rw [widenedNaN_eq, signBit_double]
    omega
  have hnan : double.decode (double.signed negative x.widenedNaN) = .nan := by
    rw [Format.decode_eq_nan_iff, Format.signed_mod hsign, widenedNaN_eq, infinityBits_double]
    omega
  have hdouble : x.toDouble = Double.ofMagnitude negative x.widenedNaN := by
    rw [toDouble, h, ← hnegative]
    rfl
  rw [hdouble, Double.toSingle, Double.decode_ofMagnitude negative hsign, hnan]
  dsimp only
  rw [Double.toNat_ofMagnitude negative hsign, Format.le_signed hsign, payload_widenedNaN]
  rfl

/-- A NaN whose payload has not got the bit of quiet ones. -/
def IsSignalling (x : Single) : Prop := x.decode = .nan ∧ x.bits.toNat % 2 ^ 23 < 2 ^ 22

instance (x : Single) : Decidable x.IsSignalling := inferInstanceAs (Decidable (_ ∧ _))

/-- All numbers but signalling NaNs come back from 64 bits. -/
theorem toSingle_toDouble (x : Single) : x.toDouble.toSingle = x ↔ ¬ x.IsSignalling := by
  cases h : x.decode with
  | finite negative m q => simp [toSingle_toDouble_of_finite h, IsSignalling, h]
  | infinite negative => simp [toSingle_toDouble_of_infinite h, IsSignalling, h]
  | nan =>
    have hnan : single.infinityBits < x.bits.toNat % single.signBit := Format.decode_eq_nan_iff.1 h
    have hbits : x.bits.toNat < 2 ^ 32 := x.bits.toNat_lt
    have hquiet : single.infinityBits + 2 ^ 22 + x.bits.toNat % 2 ^ 22 < single.signBit := by
      rw [infinityBits_single, signBit_single]
      omega
    -- what came back has the bit of quiet NaNs set and all others as they were
    rw [toSingle_toDouble_of_nan h, ofMagnitude_eq_iff x hquiet, IsSignalling]
    rw [infinityBits_single, signBit_single] at *
    simp only [h, true_and]
    omega

end Single

end EntitySql
