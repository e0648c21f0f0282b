import EntitySql.Number.Binary
import Mathlib.Algebra.Order.Field.Power
import Mathlib.Algebra.Order.Field.Rat
import Mathlib.Tactic.FieldSimp
import Mathlib.Tactic.Ring
import Mathlib.Tactic.NormNum
import Mathlib.Tactic.Positivity

/-!
# Exact conversions of floating-point numbers

A pair of a significand and an exponent is `Canonical` in a format if it is what a bit pattern
decodes to, and `Format.bitsOf` is that pattern (`decode_bitsOf`, `canonical_of_decode`).  Rounding a
ratio that has the value of a canonical pair gives its bits (`round_of_canonical`).
-/

namespace EntitySql

namespace Format

variable {f : Format}

/-- The magnitude bits of `m · 2^q`. -/
def bitsOf (f : Format) (m : Nat) (q : Int) : Nat := (q - f.leastExponent).toNat * f.hiddenBit + m

/-- A significand and an exponent as numbers of the format have them. -/
structure Canonical (f : Format) (m : Nat) (q : Int) : Prop where
  exponent : f.leastExponent ≤ q
  significand : m < 2 * f.hiddenBit
  /-- Only the least exponent has significands without the hidden bit. -/
  normal : q = f.leastExponent ∨ f.hiddenBit ≤ m
  finite : f.bitsOf m q < f.infinityBits

theorem hiddenBit_eq (f : Format) : f.hiddenBit = 2 ^ (f.precision - 1) := by
  rw [hiddenBit, Nat.shiftLeft_eq, Nat.one_mul]

theorem hiddenBit_pos (f : Format) : 0 < f.hiddenBit := by
  rw [hiddenBit_eq]
  exact Nat.two_pow_pos _

/-- The bits of infinity are those below the sign. -/
theorem infinityBits_lt_signBit (f : Format) : f.infinityBits < f.signBit := by
  have hpos := Nat.two_pow_pos f.exponentBits
  rw [infinityBits, signBit, Nat.shiftLeft_eq, Nat.shiftLeft_eq, Nat.one_mul, Nat.mul_comm]
  exact Nat.mul_lt_mul_of_pos_left (Nat.sub_lt hpos Nat.one_pos) f.hiddenBit_pos

/-! ### Signs -/

/-- The bits of a magnitude with a sign. -/
def signed (f : Format) (negative : Bool) (magnitude : Nat) : Nat :=
  if negative then f.signBit + magnitude else magnitude

section

variable {magnitude : Nat} (h : magnitude < f.signBit) (negative : Bool)
include h

theorem signed_mod : f.signed negative magnitude % f.signBit = magnitude := by
  cases negative with
  | false => exact Nat.mod_eq_of_lt h
  | true =>
    show (f.signBit + magnitude) % f.signBit = magnitude
    rw [Nat.add_mod_left, Nat.mod_eq_of_lt h]

theorem le_signed : decide (f.signBit ≤ f.signed negative magnitude) = negative := by
  cases negative with
  | false => exact decide_eq_false (Nat.not_le.2 h)
  | true => exact decide_eq_true (Nat.le_add_right _ _)

end

/-- Bits are a magnitude with a sign. -/
theorem signed_magnitude {bits : Nat} (h : bits < 2 * f.signBit) :
    f.signed (decide (f.signBit ≤ bits)) (bits % f.signBit) = bits := by
  rw [signed]
  by_cases hsign : f.signBit ≤ bits
  · rw [if_pos (decide_eq_true hsign), Nat.mod_eq_sub_mod hsign, Nat.mod_eq_of_lt (by omega)]
    omega
  · rw [if_neg (by simpa using hsign), Nat.mod_eq_of_lt (Nat.not_le.1 hsign)]

/-! ### Decoding -/

/-- Infinity has the bits of its own. -/
theorem decode_infinity (negative : Bool) :
    f.decode (f.signed negative f.infinityBits) = .infinite negative := by
  have hsign := f.infinityBits_lt_signBit
  rw [decode]
  simp only [signed_mod hsign, le_signed hsign]
  rw [if_neg (Nat.lt_irrefl _), if_pos trivial]

theorem magnitude_of_decode_infinite {bits : Nat} {negative : Bool}
    (h : f.decode bits = .infinite negative) :
    bits % f.signBit = f.infinityBits ∧ negative = decide (f.signBit ≤ bits) := by
  rw [decode] at h
  dsimp only at h
  split_ifs at h with hnan hinfinite
  exact ⟨hinfinite, (Decoded.infinite.inj h).symm⟩

/-- Beyond infinity there are only NaNs. -/
theorem decode_eq_nan_iff {bits : Nat} : f.decode bits = .nan ↔ f.infinityBits < bits % f.signBit := by
  rw [decode]
  dsimp only
  split_ifs with hnan <;> simp [hnan]

/-- The exponent field and the fraction of a number without the hidden bit. -/
theorem bitsOf_of_lt {m : Nat} {q : Int} (h : f.Canonical m q) (hm : m < f.hiddenBit) :
    q = f.leastExponent ∧ f.bitsOf m q = m := by
  have hq : q = f.leastExponent := h.normal.resolve_right (Nat.not_le.2 hm)
  refine ⟨hq, ?_⟩
  rw [bitsOf, hq, Int.sub_self, Int.toNat_zero, Nat.zero_mul, Nat.zero_add]

/-- The exponent field and the fraction of a number with the hidden bit. -/
theorem bitsOf_of_le {m : Nat} {q : Int} (hm : f.hiddenBit ≤ m) :
    f.bitsOf m q = ((q - f.leastExponent).toNat + 1) * f.hiddenBit + (m - f.hiddenBit) := by
  rw [bitsOf, Nat.add_mul, Nat.one_mul]
  omega

/-- The bits of a canonical pair decode to it. -/
theorem decode_bitsOf {m : Nat} {q : Int} (h : f.Canonical m q) (negative : Bool) :
    f.decode (f.signed negative (f.bitsOf m q)) = .finite negative m q := by
  have hfinite := h.finite
  have hsign := hfinite.trans f.infinityBits_lt_signBit
  rw [decode]
  simp only [signed_mod hsign, le_signed hsign]
  rw [if_neg (by omega), if_neg (by omega)]
  have hpos := f.hiddenBit_pos
  -- without the hidden bit the exponent field is zero; with it the field is one above the exponent
  rcases Nat.lt_or_ge m f.hiddenBit with hm | hm
  · obtain ⟨rfl, hbits⟩ := bitsOf_of_lt h hm
    rw [hbits, Nat.div_eq_of_lt hm, if_pos rfl, Nat.mod_eq_of_lt hm]
  · have hrest : m - f.hiddenBit < f.hiddenBit := by
      have := h.significand
      omega
    have hfield : f.bitsOf m q / f.hiddenBit = (q - f.leastExponent).toNat + 1 := by
      rw [bitsOf_of_le hm, Nat.mul_comm, Nat.mul_add_div hpos, Nat.div_eq_of_lt hrest, Nat.add_zero]
    have hfraction : f.bitsOf m q % f.hiddenBit = m - f.hiddenBit := by
      rw [bitsOf_of_le hm, Nat.mul_add_mod_of_lt hrest]
    have hexponent := h.exponent
    rw [hfield, hfraction, if_neg (Nat.succ_ne_zero _)]
    congr 1 <;> omega

/-- What decodes to a number has the bits of a canonical pair. -/
theorem canonical_of_decode {bits : Nat} {negative : Bool} {m : Nat} {q : Int}
    (h : f.decode bits = .finite negative m q) :
    f.Canonical m q ∧ bits % f.signBit = f.bitsOf m q ∧ negative = decide (f.signBit ≤ bits) := by
  have hpos := f.hiddenBit_pos
  rw [decode] at h
  dsimp only at h
  generalize hmagnitude : bits % f.signBit = magnitude at h
  split_ifs at h with hnan hinfinite hfield
  · -- without an exponent field the fraction is the significand, at the least exponent
    obtain ⟨rfl, rfl, rfl⟩ := Decoded.finite.inj h
    have hsmall : magnitude < f.hiddenBit := (Nat.div_eq_zero_iff_lt hpos).1 hfield
    have hbits : f.bitsOf (magnitude % f.hiddenBit) f.leastExponent = magnitude := by
      rw [bitsOf, Int.sub_self, Int.toNat_zero, Nat.zero_mul, Nat.zero_add, Nat.mod_eq_of_lt hsmall]
    refine ⟨⟨Int.le_refl _, ?_, .inl rfl, ?_⟩, hbits.symm, rfl⟩
    · rw [Nat.mod_eq_of_lt hsmall]
      omega
    · omega
  · obtain ⟨rfl, rfl, rfl⟩ := Decoded.finite.inj h
    have hfraction := Nat.mod_lt magnitude hpos
    replace hfield : 0 < magnitude / f.hiddenBit := Nat.pos_of_ne_zero hfield
    have hbits : f.bitsOf (f.hiddenBit + magnitude % f.hiddenBit)
        (f.leastExponent + ↑(magnitude / f.hiddenBit) - 1) = magnitude := by
      have hexponent : (f.leastExponent + ↑(magnitude / f.hiddenBit) - 1 - f.leastExponent).toNat =
          magnitude / f.hiddenBit - 1 := by omega
      have hstep : (magnitude / f.hiddenBit - 1) * f.hiddenBit + f.hiddenBit =
          magnitude / f.hiddenBit * f.hiddenBit := by
        rw [← Nat.succ_mul, Nat.succ_eq_add_one, Nat.sub_add_cancel hfield]
      rw [bitsOf, hexponent, ← Nat.add_assoc, hstep, Nat.div_add_mod']
    refine ⟨⟨by omega, by omega, .inr (Nat.le_add_right _ _), by omega⟩, hbits.symm, rfl⟩

end Format

/-! ### Ratios -/

/-- A ratio of natural numbers has the value `m · 2^q`. -/
def HasValue (num den : Nat) (m : Nat) (q : Int) : Prop :=
  0 < den ∧ (num : ℚ) / den = m * 2 ^ q

theorem hasValue_dyadicRatio (m : Nat) (q : Int) :
    HasValue (dyadicRatio m q).1 (dyadicRatio m q).2 m q := by
  rw [dyadicRatio]
  -- the power is put into the numerator, or, if it is negative, into the denominator
  split_ifs with hq
  · refine ⟨Nat.one_pos, ?_⟩
    obtain ⟨n, rfl⟩ := Int.eq_ofNat_of_zero_le hq
    rw [Int.toNat_natCast, Nat.shiftLeft_eq, zpow_natCast]
    push_cast
    ring
  · obtain ⟨n, hn⟩ := Int.eq_ofNat_of_zero_le (show 0 ≤ -q by omega)
    obtain rfl : q = -n := by omega
    refine ⟨?_, ?_⟩
    · rw [Nat.shiftLeft_eq, Nat.one_mul]
      exact Nat.two_pow_pos _
    · rw [Int.neg_neg, Int.toNat_natCast, Nat.shiftLeft_eq, Nat.one_mul, zpow_neg, zpow_natCast]
      push_cast
      rw [div_eq_mul_inv]

namespace Format

/-- Division by a power of two, as a ratio. -/
theorem dividePow2_eq (num : Nat) {den : Nat} (hden : 0 < den) (k : Int) :
    0 < (dividePow2 num den k).2 ∧
      ((dividePow2 num den k).1 : ℚ) / (dividePow2 num den k).2 = num / den / 2 ^ k := by
  rw [dividePow2]
  split_ifs with hk
  · obtain ⟨n, rfl⟩ := Int.eq_ofNat_of_zero_le hk
    refine ⟨?_, ?_⟩
    · rw [Int.toNat_natCast, Nat.shiftLeft_eq]
      exact Nat.mul_pos hden (Nat.two_pow_pos _)
    · rw [Int.toNat_natCast, Nat.shiftLeft_eq, zpow_natCast]
      push_cast
      rw [div_div]
  · obtain ⟨n, hn⟩ := Int.eq_ofNat_of_zero_le (show 0 ≤ -k by omega)
    obtain rfl : k = -n := by omega
    refine ⟨hden, ?_⟩
    rw [Int.neg_neg, Int.toNat_natCast, Nat.shiftLeft_eq, zpow_neg, zpow_natCast, div_inv_eq_mul]
    push_cast
    ring

/-- The binary exponent of a positive ratio. -/
theorem ratioExponent_spec {num den : Nat} (hnum : 0 < num) (hden : 0 < den) :
    (2 : ℚ) ^ ratioExponent num den ≤ num / den ∧
      (num : ℚ) / den < 2 ^ (ratioExponent num den + 1) := by
  have hden' : (0 : ℚ) < den := by exact_mod_cast hden
  generalize hguess : ((Nat.log2 num : Int) - (Nat.log2 den : Int)) = guess
  -- the guess is at most one too large
  have hlow : (2 : ℚ) ^ (guess - 1) ≤ num / den := by
    rw [le_div_iff₀ hden']
    have hnumlow : (2 : ℚ) ^ Nat.log2 num ≤ num := by
      exact_mod_cast Nat.log2_self_le hnum.ne'
    have hdenhigh : (den : ℚ) ≤ 2 ^ (Nat.log2 den + 1) := by
      exact_mod_cast Nat.lt_log2_self.le
    calc (2 : ℚ) ^ (guess - 1) * den ≤ 2 ^ (guess - 1) * 2 ^ (Nat.log2 den + 1) := by gcongr
      _ = 2 ^ Nat.log2 num := by
        rw [← zpow_natCast, ← zpow_natCast, ← zpow_add₀ two_ne_zero]
        congr 1
        push_cast
        omega
      _ ≤ num := hnumlow
  have hhigh : (num : ℚ) / den < 2 ^ (guess + 1) := by
    rw [div_lt_iff₀ hden']
    have hnumhigh : (num : ℚ) < 2 ^ (Nat.log2 num + 1) := by
      exact_mod_cast Nat.lt_log2_self
    have hdenlow : (2 : ℚ) ^ Nat.log2 den ≤ den := by
      exact_mod_cast Nat.log2_self_le hden.ne'
    calc (num : ℚ) < 2 ^ (Nat.log2 num + 1) := hnumhigh
      _ = 2 ^ (guess + 1) * 2 ^ Nat.log2 den := by
        rw [← zpow_natCast, ← zpow_natCast, ← zpow_add₀ two_ne_zero]
        congr 1
        push_cast
        omega
      _ ≤ 2 ^ (guess + 1) * den := by gcongr
  obtain ⟨hpos, hratio⟩ := dividePow2_eq num hden guess
  have hguess' : (dividePow2 num den guess).2 ≤ (dividePow2 num den guess).1 ↔
      (2 : ℚ) ^ guess ≤ num / den := by
    have hpos' : (0 : ℚ) < (dividePow2 num den guess).2 := by exact_mod_cast hpos
    rw [← one_le_div₀ (by positivity : (0 : ℚ) < 2 ^ guess), ← hratio, one_le_div₀ hpos',
      Nat.cast_le]
  rw [ratioExponent, hguess]
  dsimp only
  split_ifs with hle
  · exact ⟨hguess'.1 hle, hhigh⟩
  · rw [sub_add_cancel]
    exact ⟨hlow, not_le.1 fun h => hle (hguess'.2 h)⟩

/-! ### Rounding -/

/-- A whole quotient is rounded to itself. -/
theorem roundQuotient_mul {den : Nat} (hden : 0 < den) (m : Nat) :
    roundQuotient (m * den) den = m := by
  rw [roundQuotient, Nat.mul_div_cancel m hden, Nat.mul_mod_left]
  rw [if_neg (by omega)]

variable {f : Format}

/-- The exponent that a value of the format is rounded at is its own. -/
theorem max_ratioExponent {m : Nat} {q : Int} (h : f.Canonical m q) (hprecision : 0 < f.precision)
    {num den : Nat} (hvalue : HasValue num den m q) (hnum : 0 < num) :
    max f.leastExponent (ratioExponent num den - (f.precision - 1)) = q := by
  obtain ⟨hden, hratio⟩ := hvalue
  obtain ⟨hlow, hhigh⟩ := ratioExponent_spec hnum hden
  rw [hratio] at hlow hhigh
  have htwo : (1 : ℚ) < 2 := one_lt_two
  have hhidden : (f.hiddenBit : ℚ) = 2 ^ ((f.precision : ℤ) - 1) := by
    rw [hiddenBit_eq, ← Nat.cast_pred hprecision, zpow_natCast]
    push_cast
    rfl
  -- the significand bounds the exponent from above, its hidden bit bounds it from below
  have hupper : ratioExponent num den < f.precision + q := by
    have hm : (m : ℚ) < 2 * f.hiddenBit := by exact_mod_cast h.significand
    rw [← zpow_lt_zpow_iff_right₀ htwo]
    calc (2 : ℚ) ^ ratioExponent num den ≤ m * 2 ^ q := hlow
      _ < 2 * f.hiddenBit * 2 ^ q := by gcongr
      _ = 2 ^ ((f.precision : ℤ) + q) := by
        rw [hhidden, ← zpow_one_add₀ two_ne_zero, ← zpow_add₀ two_ne_zero]
        congr 1
        omega
  have hexponent := h.exponent
  rcases h.normal with hleast | hm
  · omega
  · have hlower : (f.precision : ℤ) - 1 + q < ratioExponent num den + 1 := by
      have hm : (f.hiddenBit : ℚ) ≤ m := by exact_mod_cast hm
      rw [← zpow_lt_zpow_iff_right₀ htwo]
      calc (2 : ℚ) ^ ((f.precision : ℤ) - 1 + q) = f.hiddenBit * 2 ^ q := by
            rw [hhidden, ← zpow_add₀ two_ne_zero]
        _ ≤ m * 2 ^ q := by gcongr
        _ < 2 ^ (ratioExponent num den + 1) := hhigh
    omega

/-- The value of a number of the format is rounded to its bits. -/
theorem round_of_canonical {m : Nat} {q : Int} (h : f.Canonical m q)
    (hprecision : 0 < f.precision) {num den : Nat} (hvalue : HasValue num den m q) :
    f.round num den = f.bitsOf m q := by
  have hpower : (0 : ℚ) < 2 ^ q := by positivity
  rw [round]
  split_ifs with hnum
  · -- zero has the least exponent and no bits
    have hm : m = 0 := by
      have hzero := hvalue.2
      rw [hnum, Nat.cast_zero, zero_div, eq_comm, mul_eq_zero, or_iff_left hpower.ne'] at hzero
      exact_mod_cast hzero
    obtain ⟨-, hbits⟩ := bitsOf_of_lt h (hm ▸ f.hiddenBit_pos)
    rw [hbits, hm]
  · have hexponent := max_ratioExponent h hprecision hvalue (Nat.pos_of_ne_zero hnum)
    obtain ⟨hpos, hquotient⟩ := dividePow2_eq num hvalue.1 q
    have hpos' : ((dividePow2 num den q).2 : ℚ) ≠ 0 := by exact_mod_cast hpos.ne'
    -- at the exponent of the value the quotient is the significand, so nothing is rounded
    have hwhole : (dividePow2 num den q).1 = m * (dividePow2 num den q).2 := by
      rw [hvalue.2, mul_div_cancel_right₀ _ hpower.ne', div_eq_iff hpos'] at hquotient
      exact_mod_cast hquotient
    dsimp only
    rw [hexponent, hwhole, roundQuotient_mul hpos, ← bitsOf, min_eq_right h.finite.le]

end Format

end EntitySql
