import FullText.Number.Binary
import Mathlib.Algebra.Order.Field.Power
import Mathlib.Algebra.Order.Field.Rat
import Mathlib.Tactic.Positivity
import Mathlib.Tactic.Linarith
import Mathlib.Tactic.Ring

/-!
# The values of binary numbers

A finite datum stands for a rational number (`Datum.value?`).  The pattern of a finite
datum has a significand and an exponent that are bound to each other: the significand has
its full width, unless the exponent is the least one (`BinaryFormat.Canonical`).  For such a
pair there is one unsigned pattern (`BinaryFormat.pattern`), and `BinaryFormat.decode`
reads it back.
-/

namespace FullText

/-- A power with an integer exponent as the quotient of two natural numbers. -/
theorem pow_toNat_div_pow_toNat {b : ℕ} (hb : b ≠ 0) (e : ℤ) :
  ((b ^ e.toNat : ℕ) : ℚ) / ((b ^ (-e).toNat : ℕ) : ℚ) = (b : ℚ) ^ e
  := by
  have hb' : (b : ℚ) ≠ 0 := Nat.cast_ne_zero.mpr hb
  push_cast
  rw [← zpow_natCast, ← zpow_natCast, ← zpow_sub₀ hb']
  congr 1
  omega

/-- A magnitude with a sign put on it. -/
def signed (negative : Bool) (magnitude : ℚ) : ℚ :=
  if negative then -magnitude else magnitude

@[simp]
theorem signed_false (magnitude : ℚ) :
  signed false magnitude = magnitude
  := rfl

@[simp]
theorem signed_true (magnitude : ℚ) :
  signed true magnitude = -magnitude
  := rfl

@[simp]
theorem signed_zero (negative : Bool) :
  signed negative 0 = 0
  := by
  cases negative with
  | false => rfl
  | true => exact neg_zero

theorem abs_signed (negative : Bool) {magnitude : ℚ} (h : 0 ≤ magnitude) :
  |signed negative magnitude| = magnitude
  := by
  cases negative with
  | false => rw [signed_false, abs_of_nonneg h]
  | true => rw [signed_true, abs_neg, abs_of_nonneg h]

/-- The sign of an integer other than zero. -/
theorem eq_decide_of_signed {negative : Bool} {magnitude : ℚ} (h : 0 ≤ magnitude) {n : ℤ}
    (hn : n ≠ 0) (hvalue : signed negative magnitude = n) :
  negative = decide (n < 0)
  := by
  cases negative with
  | true =>
    rw [signed_true] at hvalue
    have hle : (n : ℚ) ≤ 0 := by linarith
    have hle' : n ≤ 0 := by exact_mod_cast hle
    exact (decide_eq_true (by omega)).symm
  | false =>
    rw [signed_false] at hvalue
    rw [hvalue] at h
    have hge : 0 ≤ n := by exact_mod_cast h
    exact (decide_eq_false (by omega)).symm

namespace Datum

/-- The rational number that a datum stands for. -/
def value? : Datum → Option ℚ
  | .finite negative significand exponent =>
    some (signed negative (significand * 2 ^ exponent))
  | _ => none

theorem isSome_value? (d : Datum) :
  d.value?.isSome = d.isFinite
  := by
  cases d with
  | _ => rfl

/-- A magnitude is a natural number if its significand has no digits below the point. -/
theorem scaled_eq_natCast_iff (significand n : ℕ) (exponent : ℤ) :
  (significand : ℚ) * 2 ^ exponent = n ↔
    significand % 2 ^ (-exponent).toNat = 0 ∧
      significand * 2 ^ exponent.toNat / 2 ^ (-exponent).toNat = n
  := by
  have hpos : 0 < 2 ^ (-exponent).toNat := by positivity
  have hcast : ((2 ^ (-exponent).toNat : ℕ) : ℚ) ≠ 0 := Nat.cast_ne_zero.mpr hpos.ne'
  have hpow : (2 : ℚ) ^ exponent
    = ((2 ^ exponent.toNat : ℕ) : ℚ) / ((2 ^ (-exponent).toNat : ℕ) : ℚ)
    := (pow_toNat_div_pow_toNat two_ne_zero exponent).symm
  rw [hpow, ← mul_div_assoc, div_eq_iff hcast, ← Nat.cast_mul, ← Nat.cast_mul, Nat.cast_inj]
  rcases le_total 0 exponent with h | h
  · have hzero : (-exponent).toNat = 0 := by omega
    simp [hzero, Nat.mod_one]
  · have hzero : exponent.toNat = 0 := by omega
    rw [hzero, Nat.pow_zero, Nat.mul_one]
    constructor
    · rintro rfl
      exact ⟨Nat.mul_mod_left _ _, Nat.mul_div_cancel n hpos⟩
    · rintro ⟨hmod, rfl⟩
      rw [Nat.div_mul_cancel (Nat.dvd_of_mod_eq_zero hmod)]

/-- Nothing below zero is a natural number. -/
theorem neg_scaled_ne_natCast {significand : ℕ} (h : significand ≠ 0) (exponent : ℤ) (n : ℕ) :
  -((significand : ℚ) * 2 ^ exponent) ≠ n
  := by
  have hsignificand : (0 : ℚ) < significand := Nat.cast_pos.mpr (Nat.pos_of_ne_zero h)
  have hscaled : (0 : ℚ) < significand * 2 ^ exponent := by positivity
  have hn : (0 : ℚ) ≤ n := Nat.cast_nonneg n
  linarith

/-- A datum denotes the natural number that it stands for. -/
theorem toNat?_eq_some_iff (d : Datum) (n : ℕ) :
  d.toNat? = some n ↔ d.value? = some (n : ℚ)
  := by
  cases d with
  | nan => simp [toNat?, value?]
  | infinite negative => simp [toNat?, value?]
  | finite negative significand exponent =>
    rw [toNat?, value?, Option.some_inj]
    by_cases hzero : significand = 0
    · simp [hzero, eq_comm]
    cases negative with
    | true => simp [hzero, neg_scaled_ne_natCast hzero]
    | false => simp [scaled_eq_natCast_iff]

end Datum

/-! ### Patterns -/

namespace BinaryFormat

variable (f : BinaryFormat)

/-- The significand and the exponent of a pattern that is not an infinity. -/
structure Canonical (significand : ℕ) (exponent : ℤ) : Prop where
  significand_lt : significand < 2 ^ (f.fractionBits + 1)
  least_le : f.leastExponent ≤ exponent
  full : exponent = f.leastExponent ∨ 2 ^ f.fractionBits ≤ significand

/-- The unsigned pattern of a significand and an exponent. -/
def pattern (significand : ℕ) (exponent : ℤ) : ℕ :=
  (exponent - f.leastExponent).toNat * 2 ^ f.fractionBits + significand

/-- A significand that is too wide by one bit carries into the exponent. -/
theorem pattern_carry {exponent : ℤ} (h : f.leastExponent ≤ exponent) :
  f.pattern (2 ^ (f.fractionBits + 1)) exponent = f.pattern (2 ^ f.fractionBits) (exponent + 1)
  := by
  have hstep : (exponent + 1 - f.leastExponent).toNat = (exponent - f.leastExponent).toNat + 1 := by
    omega
  rw [pattern, pattern, hstep, Nat.pow_succ]
  ring

theorem infinity_lt_signBit :
  f.infinity < f.signBit
  := by
  have hpow : 0 < 2 ^ f.exponentBits := by positivity
  rw [infinity, signBit, Nat.pow_add]
  apply Nat.mul_lt_mul_of_pos_right _ (by positivity)
  omega

theorem withSign_of_lt {magnitude : ℕ} (h : magnitude < f.signBit) (negative : Bool) :
  decide (f.signBit ≤ f.withSign negative magnitude) = negative ∧
    f.withSign negative magnitude % f.signBit = magnitude
  := by
  cases negative with
  | false =>
    rw [withSign, if_neg Bool.false_ne_true]
    exact ⟨decide_eq_false (by omega), Nat.mod_eq_of_lt h⟩
  | true =>
    rw [withSign, if_pos rfl]
    exact ⟨decide_eq_true (by omega), by rw [Nat.add_mod_left, Nat.mod_eq_of_lt h]⟩

theorem decode_withSign {magnitude : ℕ} (h : magnitude < f.infinity) (negative : Bool) :
  f.decode (f.withSign negative magnitude)
    = if magnitude / 2 ^ f.fractionBits = 0 then
        .finite negative (magnitude % 2 ^ f.fractionBits) f.leastExponent
      else .finite negative (2 ^ f.fractionBits + magnitude % 2 ^ f.fractionBits)
        (f.leastExponent + (magnitude / 2 ^ f.fractionBits - 1 : ℕ))
  := by
  obtain ⟨hsign, hmagnitude⟩ := f.withSign_of_lt (h.trans f.infinity_lt_signBit) negative
  rw [decode, hsign, hmagnitude]
  simp only [if_neg h.not_gt, if_neg h.ne]

/-- Every magnitude below infinity is the pattern of a canonical pair. -/
theorem exists_canonical (magnitude : ℕ) :
  ∃ significand exponent, f.Canonical significand exponent ∧
    f.pattern significand exponent = magnitude
  := by
  have hdivide := Nat.div_add_mod' magnitude (2 ^ f.fractionBits)
  have hfraction : magnitude % 2 ^ f.fractionBits < 2 ^ f.fractionBits :=
    Nat.mod_lt magnitude (by positivity)
  cases hfield : magnitude / 2 ^ f.fractionBits with
  | zero =>
    rw [hfield, Nat.zero_mul, Nat.zero_add] at hdivide
    use magnitude, f.leastExponent
    refine ⟨⟨?_, le_refl _, .inl rfl⟩, ?_⟩
    · rw [Nat.pow_succ]
      omega
    · rw [pattern, sub_self, Int.toNat_zero, Nat.zero_mul, Nat.zero_add]
  | succ k =>
    rw [hfield, Nat.succ_mul] at hdivide
    use 2 ^ f.fractionBits + magnitude % 2 ^ f.fractionBits, f.leastExponent + k
    refine ⟨⟨?_, by omega, .inr (Nat.le_add_right _ _)⟩, ?_⟩
    · rw [Nat.pow_succ]
      omega
    · rw [pattern, add_sub_cancel_left, Int.toNat_natCast]
      omega

/-- The pattern of a canonical pair stands for the pair. -/
theorem decode_pattern {significand : ℕ} {exponent : ℤ} (h : f.Canonical significand exponent)
    (hfinite : f.pattern significand exponent < f.infinity) (negative : Bool) :
  f.decode (f.withSign negative (f.pattern significand exponent))
    = .finite negative significand exponent
  := by
  have hpos : 0 < 2 ^ f.fractionBits := by positivity
  have hlt := h.significand_lt
  rw [Nat.pow_succ] at hlt
  rw [f.decode_withSign hfinite]
  by_cases hfull : 2 ^ f.fractionBits ≤ significand
  · obtain ⟨fraction, rfl⟩ := Nat.exists_eq_add_of_le hfull
    have hpattern : f.pattern (2 ^ f.fractionBits + fraction) exponent
      = fraction + 2 ^ f.fractionBits * ((exponent - f.leastExponent).toNat + 1)
      := by
      rw [pattern]
      ring
    have hfraction : fraction < 2 ^ f.fractionBits := by omega
    have hexponent := h.least_le
    rw [hpattern, Nat.add_mul_div_left _ _ hpos, Nat.add_mul_mod_self_left,
      Nat.div_eq_of_lt hfraction, Nat.mod_eq_of_lt hfraction, if_neg (by omega)]
    congr 1
    omega
  · have hleast : exponent = f.leastExponent := h.full.resolve_right hfull
    have hpattern : f.pattern significand exponent = significand := by
      rw [pattern, hleast, sub_self, Int.toNat_zero, Nat.zero_mul, Nat.zero_add]
    rw [hpattern, Nat.div_eq_of_lt (by omega), if_pos rfl, Nat.mod_eq_of_lt (by omega), hleast]

/-- A pattern is made of its sign and the rest. -/
theorem eq_withSign {p : ℕ} (hp : p < 2 * f.signBit) :
  p = f.withSign (decide (f.signBit ≤ p)) (p % f.signBit)
  := by
  rw [withSign]
  by_cases hsign : f.signBit ≤ p
  · rw [decide_eq_true hsign, if_pos rfl, Nat.mod_eq_sub_mod hsign, Nat.mod_eq_of_lt (by omega)]
    omega
  · rw [decide_eq_false hsign, if_neg Bool.false_ne_true, Nat.mod_eq_of_lt (by omega)]

/-- The pattern of a finite datum is that of a canonical pair with a sign. -/
theorem exists_of_isFinite {p : ℕ} (hp : p < 2 * f.signBit) (h : (f.decode p).isFinite = true) :
  ∃ negative significand exponent, f.Canonical significand exponent ∧
    f.pattern significand exponent < f.infinity ∧
    p = f.withSign negative (f.pattern significand exponent)
  := by
  obtain ⟨significand, exponent, hcanonical, hpattern⟩ := f.exists_canonical (p % f.signBit)
  have hfinite : p % f.signBit < f.infinity := by
    rw [decode] at h
    split at h
    · cases h
    split at h
    · cases h
    · omega
  use decide (f.signBit ≤ p), significand, exponent, hcanonical
  rw [hpattern]
  exact ⟨hfinite, f.eq_withSign hp⟩

end BinaryFormat

namespace Binary64

theorem signBit_double :
  BinaryFormat.double.signBit = 2 ^ 63
  := rfl

/-- A magnitude below the sign bit is not cut. -/
theorem datum_ofMagnitude {magnitude : ℕ} (h : magnitude < 2 ^ 63) (negative : Bool) :
  (ofMagnitude negative magnitude).datum
    = BinaryFormat.double.decode (BinaryFormat.double.withSign negative magnitude)
  := by
  have hlt : BinaryFormat.double.withSign negative magnitude < 2 ^ 64 := by
    rw [BinaryFormat.withSign, signBit_double]
    split
    · omega
    · omega
  rw [datum, ofMagnitude, UInt64.toNat_ofNat_of_lt' hlt]

/-- A finite value is made of its sign and of a canonical pair. -/
theorem exists_of_isFinite {x : Binary64} (h : x.isFinite = true) :
  ∃ negative significand exponent, BinaryFormat.double.Canonical significand exponent ∧
    BinaryFormat.double.pattern significand exponent < BinaryFormat.double.infinity ∧
    x = ofMagnitude negative (BinaryFormat.double.pattern significand exponent) ∧
    x.datum = .finite negative significand exponent
  := by
  have hbits : x.bits.toNat < 2 * BinaryFormat.double.signBit := by
    rw [signBit_double]
    have hlt := x.bits.toNat_lt
    omega
  obtain ⟨negative, significand, exponent, hcanonical, hfinite, hpattern⟩ :=
    BinaryFormat.double.exists_of_isFinite hbits h
  use negative, significand, exponent, hcanonical, hfinite
  constructor
  · rw [ofMagnitude, ← hpattern, UInt64.ofNat_toNat]
  · rw [datum, hpattern, BinaryFormat.double.decode_pattern hcanonical hfinite]

end Binary64

end FullText
