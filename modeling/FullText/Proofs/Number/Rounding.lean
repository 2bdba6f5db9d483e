import FullText.Number.Decimal
import FullText.Proofs.Number.Value
import Mathlib.Tactic.NormNum

/-!
# Rounding

A quotient is rounded in three steps: its binary logarithm says where the significand ends
(`BinaryFormat.lastPlace`), there the quotient is rounded to an integer (`nearestEven`),
and the integer is put into a pattern.

The rationals that round to a value are those of its rounding span
(`BinaryFormat.roundQuotient_of_holds`).  Most of a span lies in the binade of the value;
only below the least significand of a binade it reaches into the binade beneath, where the
significand ends one place later and the rounding carries.  So every finite value rounds to
itself.
-/

namespace FullText

/-! ### Rounding to an integer -/

namespace BinaryFormat

/-- What is at most half off an integer is rounded to it, except for a tie if the integer
is odd. -/
theorem nearestEven_eq {num den n : ℕ} (hlower : 2 * n * den ≤ 2 * num + den)
    (hupper : 2 * num ≤ 2 * n * den + den)
    (hodd : n % 2 = 1 → 2 * n * den < 2 * num + den ∧ 2 * num < 2 * n * den + den)
    (hden : 0 < den) :
  nearestEven num den = n
  := by
  have hdivide := Nat.div_add_mod num den
  have hrest := Nat.mod_lt num hden
  rw [nearestEven]
  generalize num / den = below at *
  generalize num % den = rest at *
  subst hdivide
  -- The integer is one of the two neighbours of the quotient.
  have hle : n ≤ below + 1 := by
    by_contra h
    have hmul := Nat.mul_le_mul_right den (by omega : below + 2 ≤ n)
    nlinarith
  have hge : below ≤ n := by
    by_contra h
    have hmul := Nat.mul_le_mul_right den (by omega : n + 1 ≤ below)
    nlinarith
  obtain rfl | rfl : n = below ∨ n = below + 1 := by omega
  · have hprod : 2 * (den * n) = 2 * n * den := by ring
    rw [if_neg]
    simp only [Bool.or_eq_true, Bool.and_eq_true, decide_eq_true_eq, beq_iff_eq]
    omega
  · have hprod : 2 * (den * below) + 2 * den = 2 * (below + 1) * den := by ring
    rw [if_pos]
    simp only [Bool.or_eq_true, Bool.and_eq_true, decide_eq_true_eq, beq_iff_eq]
    omega

theorem le_nearestEven {num den n : ℕ} (hden : 0 < den) (h : n * den ≤ num) :
  n ≤ nearestEven num den
  := by
  have hdiv := (Nat.le_div_iff_mul_le hden).mpr h
  rw [nearestEven]
  split
  · omega
  · exact hdiv

theorem nearestEven_le {num den n : ℕ} (hden : 0 < den) (h : num ≤ n * den) :
  nearestEven num den ≤ n
  := by
  rcases h.eq_or_lt with rfl | hlt
  · simp [nearestEven, Nat.mul_div_cancel n hden, hden.ne]
  · have hdiv := (Nat.div_lt_iff_lt_mul hden).mpr hlt
    rw [nearestEven]
    split
    · omega
    · omega

/-- A multiple of a power of two is compared with a quotient after both are made integers. -/
theorem mul_zpow_le_div_iff {num den : ℕ} (hden : 0 < den) (n : ℕ) (e : ℤ) :
  (n : ℚ) * 2 ^ e ≤ num / den ↔ n * (den * 2 ^ e.toNat) ≤ num * 2 ^ (-e).toNat
  := by
  have hden' : (0 : ℚ) < den := Nat.cast_pos.mpr hden
  have hscale : (0 : ℚ) < ((2 ^ (-e).toNat : ℕ) : ℚ) := Nat.cast_pos.mpr (by positivity)
  have hpow : (2 : ℚ) ^ e = ((2 ^ e.toNat : ℕ) : ℚ) / ((2 ^ (-e).toNat : ℕ) : ℚ) :=
    (pow_toNat_div_pow_toNat two_ne_zero e).symm
  rw [hpow, ← mul_div_assoc, div_le_div_iff₀ hscale hden', mul_assoc, mul_comm _ (den : ℚ)]
  norm_cast

/-- The binary logarithms of two numbers tell that of their quotient up to one. -/
theorem log2_bounds {num den : ℕ} (hnum : 0 < num) (hden : 0 < den) :
  (2 : ℚ) ^ ((num.log2 : ℤ) - den.log2 - 1) ≤ num / den ∧
    (num : ℚ) / den < 2 ^ ((num.log2 : ℤ) - den.log2 + 1)
  := by
  have hden' : (0 : ℚ) < den := Nat.cast_pos.mpr hden
  constructor
  · have hnum' : (2 : ℚ) ^ num.log2 ≤ num := by exact_mod_cast Nat.log2_self_le hnum.ne'
    have hden_lt : (den : ℚ) < 2 ^ (den.log2 + 1) := by exact_mod_cast Nat.lt_log2_self
    rw [le_div_iff₀ hden']
    calc (2 : ℚ) ^ ((num.log2 : ℤ) - den.log2 - 1) * den
      _ ≤ 2 ^ ((num.log2 : ℤ) - den.log2 - 1) * 2 ^ (den.log2 + 1) := by gcongr
      _ = 2 ^ num.log2 := by
        rw [← zpow_natCast, ← zpow_natCast, ← zpow_add₀ two_ne_zero]
        congr 1
        push_cast
        ring
      _ ≤ num := hnum'
  · have hnum_lt : (num : ℚ) < 2 ^ (num.log2 + 1) := by exact_mod_cast Nat.lt_log2_self
    have hden_le : (2 : ℚ) ^ den.log2 ≤ den := by exact_mod_cast Nat.log2_self_le hden.ne'
    rw [div_lt_iff₀ hden']
    calc (num : ℚ)
      _ < 2 ^ (num.log2 + 1) := hnum_lt
      _ = 2 ^ ((num.log2 : ℤ) - den.log2 + 1) * 2 ^ den.log2 := by
        rw [← zpow_natCast, ← zpow_natCast, ← zpow_add₀ two_ne_zero]
        congr 1
        push_cast
        ring
      _ ≤ 2 ^ ((num.log2 : ℤ) - den.log2 + 1) * den := by gcongr

/-- The leading exponent is the binary logarithm. -/
theorem le_leadingExponent_iff {num den : ℕ} (hnum : 0 < num) (hden : 0 < den) (e : ℤ) :
  e ≤ leadingExponent num den ↔ (2 : ℚ) ^ e ≤ num / den
  := by
  -- The logarithms of the two numbers leave two candidates, the gap and one below.
  obtain ⟨hlower, hupper⟩ := log2_bounds hnum hden
  have hgap := @mul_zpow_le_div_iff num den hden 1 (num.log2 - den.log2)
  rw [Nat.cast_one, one_mul, Nat.one_mul] at hgap
  rw [← not_iff_not, not_le, not_le, leadingExponent]
  generalize (num.log2 : ℤ) - den.log2 = gap at *
  split
  · rename_i hlt
    have hbelow : (num : ℚ) / den < 2 ^ gap := by
      rw [← not_le, hgap, not_le]
      exact hlt
    constructor
    · intro he
      exact hbelow.trans_le (zpow_le_zpow_right₀ one_le_two (by omega))
    · intro he
      have hlt := (zpow_lt_zpow_iff_right₀ one_lt_two).mp (hlower.trans_lt he)
      omega
  · rename_i hle
    have habove : (2 : ℚ) ^ gap ≤ num / den := hgap.mpr (not_lt.mp hle)
    constructor
    · intro he
      exact hupper.trans_le (zpow_le_zpow_right₀ one_le_two (by omega))
    · intro he
      exact (zpow_lt_zpow_iff_right₀ one_lt_two).mp (habove.trans_lt he)

/-- A quotient is rounded to an integer multiple of a power of two that is at most half
that power away, except for a tie if the integer is odd. -/
theorem nearestEven_scaled {num den n : ℕ} {place : ℤ} (hden : 0 < den)
    (hlower : (n - 1 / 2) * (2 : ℚ) ^ place ≤ num / den)
    (hupper : (num : ℚ) / den ≤ (n + 1 / 2) * 2 ^ place)
    (hodd : n % 2 = 1 → (n - 1 / 2) * (2 : ℚ) ^ place < num / den ∧
      (num : ℚ) / den < (n + 1 / 2) * 2 ^ place) :
  nearestEven (num * 2 ^ (-place).toNat) (den * 2 ^ place.toNat) = n
  := by
  have hden' : (0 : ℚ) < den := Nat.cast_pos.mpr hden
  have hpos : 0 < 2 ^ place.toNat := by positivity
  have hscale : (0 : ℚ) < ((2 ^ (-place).toNat : ℕ) : ℚ) := Nat.cast_pos.mpr (by positivity)
  have hpow : (2 : ℚ) ^ place = ((2 ^ place.toNat : ℕ) : ℚ) / ((2 ^ (-place).toNat : ℕ) : ℚ) :=
    (pow_toNat_div_pow_toNat two_ne_zero place).symm
  rw [hpow] at hlower hupper hodd
  generalize 2 ^ place.toNat = a at *
  generalize 2 ^ (-place).toNat = b at *
  simp only [← mul_div_assoc, div_le_div_iff₀ hscale hden', div_le_div_iff₀ hden' hscale,
    div_lt_div_iff₀ hscale hden', div_lt_div_iff₀ hden' hscale] at hlower hupper hodd
  apply nearestEven_eq _ _ _ (Nat.mul_pos hden hpos)
  · rw [← Nat.cast_le (α := ℚ)]
    push_cast
    linarith
  · rw [← Nat.cast_le (α := ℚ)]
    push_cast
    linarith
  · intro h
    obtain ⟨hlower, hupper⟩ := hodd h
    rw [← Nat.cast_lt (α := ℚ), ← Nat.cast_lt (α := ℚ)]
    push_cast
    constructor
    · linarith
    · linarith

end BinaryFormat

/-! ### The span of a value -/

/-- A rational lies in a span; an end of the span counts if it belongs to it. -/
structure RoundingSpan.Holds (s : RoundingSpan) (v : ℚ) : Prop where
  lower_le : s.lower * 2 ^ s.place ≤ v
  le_upper : v ≤ s.upper * 2 ^ s.place
  strict : s.closed = false → s.lower * 2 ^ s.place < v ∧ v < s.upper * 2 ^ s.place

namespace BinaryFormat

variable (f : BinaryFormat) {significand : ℕ} {exponent : ℤ}

theorem span_upper (significand : ℕ) (exponent : ℤ) :
  ((f.span significand exponent).upper : ℚ) * 2 ^ (f.span significand exponent).place
    = (significand + 1 / 2) * 2 ^ exponent
  := by
  rw [span, zpow_sub₀ two_ne_zero]
  push_cast
  ring

/-- The lower end is half a place off, and a quarter below the least significand of a
binade. -/
theorem span_lower (hne : significand ≠ 0) (exponent : ℤ) :
  ((f.span significand exponent).lower : ℚ) * 2 ^ (f.span significand exponent).place
    = (significand - if significand = 2 ^ f.fractionBits ∧ f.leastExponent < exponent then 1 / 4
        else 1 / 2) * 2 ^ exponent
  := by
  have hpos : 1 ≤ significand := Nat.pos_of_ne_zero hne
  rw [span, zpow_sub₀ two_ne_zero]
  split
  · rw [Nat.cast_sub (by omega)]
    push_cast
    ring
  · rw [Nat.cast_sub (by omega)]
    push_cast
    ring

variable {f}

/-- What a span holds is at most half a place off, and strictly less than that if the
significand is odd. -/
theorem bounds_of_holds (hne : significand ≠ 0) {v : ℚ}
    (h : (f.span significand exponent).Holds v) :
  (significand - 1 / 2) * 2 ^ exponent ≤ v ∧ v ≤ (significand + 1 / 2) * 2 ^ exponent ∧
    (significand % 2 = 1 → (significand - 1 / 2) * 2 ^ exponent < v ∧
      v < (significand + 1 / 2) * 2 ^ exponent)
  := by
  obtain ⟨hlower, hupper, hstrict⟩ := h
  have hpow : (0 : ℚ) < 2 ^ exponent := by positivity
  have hends : (significand - 1 / 2) * 2 ^ exponent
    ≤ ((f.span significand exponent).lower : ℚ) * 2 ^ (f.span significand exponent).place
    := by
    rw [f.span_lower hne]
    gcongr
    split
    · norm_num
    · apply le_refl
  rw [f.span_upper] at hupper hstrict
  refine ⟨hends.trans hlower, hupper, ?_⟩
  intro hodd
  have hopen : (f.span significand exponent).closed = false := by
    simp [span, hodd]
  obtain ⟨hlower, hupper⟩ := hstrict hopen
  exact ⟨hends.trans_lt hlower, hupper⟩

theorem pos_of_holds (hne : significand ≠ 0) {v : ℚ}
    (h : (f.span significand exponent).Holds v) :
  0 < v
  := by
  have hone : (1 : ℚ) ≤ significand := by exact_mod_cast Nat.pos_of_ne_zero hne
  have hpos : (0 : ℚ) < (significand - 1 / 2) * 2 ^ exponent := by
    apply mul_pos _ (by positivity)
    linarith
  exact hpos.trans_le (bounds_of_holds hne h).1

/-- The significand of a quotient in the span of a canonical pair ends where that of the
pair does, or one place after it, if the quotient lies in the binade beneath. -/
theorem lastPlace_of_holds (hcanonical : f.Canonical significand exponent)
    (hne : significand ≠ 0) {num den : ℕ} (hden : 0 < den)
    (h : (f.span significand exponent).Holds ((num : ℚ) / den)) :
  f.lastPlace num den = exponent ∨
    f.lastPlace num den = exponent - 1 ∧ f.leastExponent < exponent ∧
      significand = 2 ^ f.fractionBits ∧
      (2 ^ f.fractionBits - 1 / 4) * 2 ^ exponent ≤ (num : ℚ) / den ∧
      (num : ℚ) / den < 2 ^ f.fractionBits * 2 ^ exponent
  := by
  obtain ⟨hlower, hupper, -⟩ := bounds_of_holds hne h
  have hnum : 0 < num := by
    have hpos := pos_of_holds hne h
    by_contra hzero
    rw [Nat.eq_zero_of_not_pos hzero, Nat.cast_zero, zero_div] at hpos
    exact lt_irrefl 0 hpos
  have hlog := le_leadingExponent_iff hnum hden
  have hplace : f.lastPlace num den
    = max f.leastExponent (leadingExponent num den - f.fractionBits)
    := rfl
  have hleast := hcanonical.least_le
  have hpow : (0 : ℚ) < 2 ^ exponent := by positivity
  have hle : f.lastPlace num den ≤ exponent := by
    have hlt : (num : ℚ) / den < 2 ^ (exponent + (f.fractionBits + 1 : ℕ)) := by
      have hsignificand : (significand : ℚ) + 1 ≤ 2 ^ (f.fractionBits + 1) := by
        exact_mod_cast hcanonical.significand_lt
      rw [zpow_add₀ two_ne_zero, zpow_natCast]
      calc (num : ℚ) / den
        _ ≤ (significand + 1 / 2) * 2 ^ exponent := hupper
        _ < 2 ^ (f.fractionBits + 1) * 2 ^ exponent := by
          gcongr
          linarith
        _ = 2 ^ exponent * 2 ^ (f.fractionBits + 1) := mul_comm _ _
    rw [← not_le, ← hlog] at hlt
    omega
  refine hle.eq_or_lt.imp_right fun hlt => ?_
  have hbeneath : (num : ℚ) / den < 2 ^ f.fractionBits * 2 ^ exponent := by
    rw [← zpow_natCast, ← zpow_add₀ two_ne_zero, ← not_le, ← hlog]
    omega
  have hleast_lt : f.leastExponent < exponent := by
    omega
  have hsignificand : significand = 2 ^ f.fractionBits := by
    have hfull := hcanonical.full.resolve_left hleast_lt.ne'
    have hlt : (significand : ℚ) < 2 ^ f.fractionBits + 1 := by
      have hcancel := lt_of_mul_lt_mul_right (hlower.trans_lt hbeneath) hpow.le
      linarith
    have hlt' : significand < 2 ^ f.fractionBits + 1 := by
      exact_mod_cast hlt
    omega
  have hquarter : (2 ^ f.fractionBits - 1 / 4) * 2 ^ exponent ≤ (num : ℚ) / den := by
    have hlower := h.lower_le
    rw [f.span_lower hne, if_pos ⟨hsignificand, hleast_lt⟩, hsignificand] at hlower
    push_cast at hlower
    exact hlower
  -- A quarter of a place is less than the width of the binade beneath.
  have hhalf : (2 : ℚ) ^ (f.fractionBits + (exponent - 1)) ≤ num / den := by
    have hone : (1 : ℚ) ≤ 2 ^ f.fractionBits := one_le_pow₀ one_le_two
    calc (2 : ℚ) ^ (f.fractionBits + (exponent - 1))
      _ = 2 ^ f.fractionBits / 2 * 2 ^ exponent := by
        rw [zpow_add₀ two_ne_zero, zpow_sub₀ two_ne_zero, zpow_natCast, zpow_one]
        ring
      _ ≤ (2 ^ f.fractionBits - 1 / 4) * 2 ^ exponent := by
        gcongr
        linarith
      _ ≤ num / den := hquarter
  rw [← hlog] at hhalf
  exact ⟨by omega, hleast_lt, hsignificand, hquarter, hbeneath⟩

/-- Whatever the span of a canonical pair holds is rounded to its pattern. -/
theorem roundQuotient_of_holds (hcanonical : f.Canonical significand exponent)
    (hne : significand ≠ 0) {num den : ℕ} (hden : 0 < den)
    (h : (f.span significand exponent).Holds ((num : ℚ) / den)) :
  f.roundQuotient num den = min f.infinity (f.pattern significand exponent)
  := by
  have hnum : num ≠ 0 := by
    rintro rfl
    simpa using pos_of_holds hne h
  rw [roundQuotient, if_neg hnum]
  obtain hplace | ⟨hplace, hleast, hsignificand, hlower, hupper⟩ :=
    lastPlace_of_holds hcanonical hne hden h
  · obtain ⟨hlower, hupper, hodd⟩ := bounds_of_holds hne h
    simp only [hplace, nearestEven_scaled hden hlower hupper hodd]
    rfl
  · have hhalve : (2 : ℚ) ^ (exponent - 1) = 2 ^ exponent / 2 := by
      rw [zpow_sub₀ two_ne_zero, zpow_one]
    have hcarry : nearestEven (num * 2 ^ (-(exponent - 1)).toNat) (den * 2 ^ (exponent - 1).toNat)
      = 2 ^ (f.fractionBits + 1)
      := by
      have hpow : (0 : ℚ) < 2 ^ exponent := by positivity
      apply nearestEven_scaled hden
      · rw [hhalve]
        push_cast
        rw [pow_succ]
        linarith
      · rw [hhalve]
        push_cast
        rw [pow_succ]
        linarith
      · intro hodd
        rw [Nat.pow_succ, Nat.mul_mod_left] at hodd
        cases hodd
    have hpattern := f.pattern_carry (by omega : f.leastExponent ≤ exponent - 1)
    rw [sub_add_cancel, ← hsignificand] at hpattern
    simp only [hplace, hcarry, ← hpattern]
    rfl

/-- A value lies in its own span. -/
theorem holds_self (hne : significand ≠ 0) (exponent : ℤ) :
  (f.span significand exponent).Holds (significand * 2 ^ exponent)
  := by
  have hpow : (0 : ℚ) < 2 ^ exponent := by positivity
  have hlower :
    ((f.span significand exponent).lower : ℚ) * 2 ^ (f.span significand exponent).place
      < significand * 2 ^ exponent
    := by
    rw [f.span_lower hne]
    gcongr
    split
    · norm_num
    · norm_num
  have hupper :
    significand * 2 ^ exponent
      < ((f.span significand exponent).upper : ℚ) * 2 ^ (f.span significand exponent).place
    := by
    rw [f.span_upper]
    gcongr
    norm_num
  exact ⟨hlower.le, hupper.le, fun _ => ⟨hlower, hupper⟩⟩

/-- A value is rounded to its own pattern. -/
theorem roundQuotient_of_eq (hcanonical : f.Canonical significand exponent)
    (hfinite : f.pattern significand exponent < f.infinity) {num den : ℕ} (hden : 0 < den)
    (h : (num : ℚ) / den = significand * 2 ^ exponent) :
  f.roundQuotient num den = f.pattern significand exponent
  := by
  by_cases hzero : significand = 0
  · -- Zero has no span, and is no quotient of positive numbers.
    have hnum : num = 0 := by
      rw [hzero, Nat.cast_zero, zero_mul, div_eq_zero_iff] at h
      rcases h with h | h
      · exact_mod_cast h
      · exact absurd (Nat.cast_eq_zero.mp h) hden.ne'
    have hleast : exponent = f.leastExponent := by
      apply hcanonical.full.resolve_right
      rw [hzero, not_le]
      positivity
    rw [roundQuotient, if_pos hnum, pattern, hzero, hleast, sub_self, Int.toNat_zero, Nat.zero_mul]
  · rw [roundQuotient_of_holds hcanonical hzero hden, Nat.min_eq_right hfinite.le]
    rw [h]
    apply holds_self hzero

end BinaryFormat

/-! ### Integers -/

namespace BinaryFormat

variable (f : BinaryFormat)

/-- The significand of a quotient, which may be too wide by one bit. -/
def roundedSignificand (num den : ℕ) : ℕ :=
  nearestEven (num * 2 ^ (-f.lastPlace num den).toNat) (den * 2 ^ (f.lastPlace num den).toNat)

theorem roundQuotient_eq {num : ℕ} (hnum : 0 < num) (den : ℕ) :
  f.roundQuotient num den
    = min f.infinity (f.pattern (f.roundedSignificand num den) (f.lastPlace num den))
  := by
  rw [roundQuotient, if_neg hnum.ne']
  rfl

theorem leastExponent_le_lastPlace (num den : ℕ) :
  f.leastExponent ≤ f.lastPlace num den
  := le_max_left _ _

/-- A quotient is rounded to a significand of full width, unless its exponent is the least
one. -/
theorem roundedSignificand_bounds {num den : ℕ} (hnum : 0 < num) (hden : 0 < den) :
  f.roundedSignificand num den ≤ 2 ^ (f.fractionBits + 1) ∧
    (f.lastPlace num den = f.leastExponent ∨
      2 ^ f.fractionBits ≤ f.roundedSignificand num den)
  := by
  have hplace : f.lastPlace num den
    = max f.leastExponent (leadingExponent num den - f.fractionBits)
    := rfl
  have hpos : 0 < den * 2 ^ (f.lastPlace num den).toNat := by positivity
  have hlog := le_leadingExponent_iff hnum hden
  constructor
  · apply nearestEven_le hpos
    apply Nat.le_of_lt
    rw [← not_le, ← mul_zpow_le_div_iff hden]
    push_cast
    rw [← zpow_natCast, ← zpow_add₀ two_ne_zero, ← hlog]
    push_cast
    omega
  · rcases le_or_gt (leadingExponent num den - f.fractionBits) f.leastExponent with h | h
    · left
      omega
    · right
      apply le_nearestEven hpos
      rw [← mul_zpow_le_div_iff hden]
      push_cast
      rw [← zpow_natCast, ← zpow_add₀ two_ne_zero, ← hlog]
      omega

/-- The value of a pattern whose significand may be too wide by one bit. -/
theorem value?_decode_pattern {significand : ℕ} {exponent : ℤ}
    (hwidth : significand ≤ 2 ^ (f.fractionBits + 1)) (hleast : f.leastExponent ≤ exponent)
    (hfull : exponent = f.leastExponent ∨ 2 ^ f.fractionBits ≤ significand)
    (hfinite : f.pattern significand exponent < f.infinity) (negative : Bool) :
  (f.decode (f.withSign negative (f.pattern significand exponent))).value?
    = some (signed negative (significand * 2 ^ exponent))
  := by
  rcases hwidth.eq_or_lt with rfl | hlt
  · have hcanonical : f.Canonical (2 ^ f.fractionBits) (exponent + 1) :=
      ⟨Nat.pow_lt_pow_succ one_lt_two, by omega, .inr (le_refl _)⟩
    have hvalue : ((2 ^ f.fractionBits : ℕ) : ℚ) * 2 ^ (exponent + 1)
      = ((2 ^ (f.fractionBits + 1) : ℕ) : ℚ) * 2 ^ exponent
      := by
      rw [zpow_add_one₀ two_ne_zero]
      push_cast
      ring
    rw [f.pattern_carry hleast] at hfinite ⊢
    rw [f.decode_pattern hcanonical hfinite, Datum.value?, hvalue]
  · rw [f.decode_pattern ⟨hlt, hleast, hfull⟩ hfinite]
    rfl

end BinaryFormat

namespace Binary64

/-- The sign and the magnitude of a value, as a quotient, give the value. -/
theorem ofQuotient_of_datum {x : Binary64} {negative : Bool} {significand : ℕ} {exponent : ℤ}
    (hx : x.datum = .finite negative significand exponent) {num den : ℕ} (hden : 0 < den)
    (h : (num : ℚ) / den = significand * 2 ^ exponent) :
  ofQuotient negative num den = x
  := by
  have hfinite : x.isFinite = true := by
    rw [isFinite, hx]
    rfl
  obtain ⟨negative', significand', exponent', hcanonical, hpattern, hmagnitude, hdatum⟩ :=
    exists_of_isFinite hfinite
  rw [hx, Datum.finite.injEq] at hdatum
  obtain ⟨rfl, rfl, rfl⟩ := hdatum
  rw [ofQuotient, BinaryFormat.roundQuotient_of_eq hcanonical hpattern hden h, hmagnitude]

/-- An integer that is the value of some number is the value of the nearest one. -/
theorem value?_ofInt_iff (n : ℤ) :
  (ofInt n).datum.value? = some (n : ℚ) ↔ ∃ x : Binary64, x.datum.value? = some (n : ℚ)
  := by
  constructor
  · intro h
    exact ⟨ofInt n, h⟩
  · rintro ⟨x, hx⟩
    cases hdatum : x.datum with
    | nan | infinite negative =>
      rw [hdatum] at hx
      cases hx
    | finite negative significand exponent =>
      have hvalue := hx
      rw [hdatum, Datum.value?, Option.some_inj] at hvalue
      have hpow : (0 : ℚ) < 2 ^ exponent := by positivity
      have hmagnitude : (0 : ℚ) ≤ significand * 2 ^ exponent := by positivity
      have habs : ((n.natAbs : ℕ) : ℚ) / (1 : ℕ) = significand * 2 ^ exponent := by
        rw [Nat.cast_one, div_one, Nat.cast_natAbs, Int.cast_abs, ← hvalue,
          abs_signed negative hmagnitude]
      -- Both zeros have the value zero, and the integer is rounded to the positive one.
      by_cases hzero : n = 0
      · subst hzero
        have hofInt : (ofInt 0).datum.toNat? = some 0 := by decide +kernel
        rw [Datum.toNat?_eq_some_iff] at hofInt
        exact_mod_cast hofInt
      · have hsign := eq_decide_of_signed hmagnitude hzero hvalue
        rw [ofInt, ← hsign, ofQuotient_of_datum hdatum Nat.one_pos habs, hx]

theorem infinity_double :
  BinaryFormat.double.infinity = 2047 * 2 ^ 52
  := rfl

/-- An integer of 64 bits is never out of range. -/
theorem value?_ofInt {n : ℤ} (hpos : 0 < n.natAbs) (hle : n.natAbs ≤ 2 ^ 63) :
  (ofInt n).datum.value?
    = some (signed (decide (n < 0)) (BinaryFormat.double.roundedSignificand n.natAbs 1 *
        2 ^ BinaryFormat.double.lastPlace n.natAbs 1))
  := by
  obtain ⟨hwidth, hfull⟩ :=
    BinaryFormat.double.roundedSignificand_bounds hpos Nat.one_pos
  have hlog := BinaryFormat.le_leadingExponent_iff hpos Nat.one_pos 64
  have hplace : BinaryFormat.double.lastPlace n.natAbs 1
    = max (-1074) (BinaryFormat.leadingExponent n.natAbs 1 - 52)
    := rfl
  have hlt : BinaryFormat.leadingExponent n.natAbs 1 < 64 := by
    rw [← not_le, hlog, not_le, Nat.cast_one, div_one]
    exact_mod_cast (by omega : n.natAbs < 2 ^ 64)
  have hfinite :
    BinaryFormat.double.pattern (BinaryFormat.double.roundedSignificand n.natAbs 1)
      (BinaryFormat.double.lastPlace n.natAbs 1) < BinaryFormat.double.infinity
    := by
    have hleast : BinaryFormat.double.leastExponent = -1074 := rfl
    have hbits : BinaryFormat.double.fractionBits = 52 := rfl
    rw [hbits] at hwidth
    rw [BinaryFormat.pattern, infinity_double, hleast, hbits]
    omega
  rw [ofInt, ofQuotient, BinaryFormat.roundQuotient_eq _ hpos, Nat.min_eq_right hfinite.le,
    datum_ofMagnitude (hfinite.trans (by decide)),
    BinaryFormat.value?_decode_pattern _ hwidth
      (BinaryFormat.leastExponent_le_lastPlace _ _ _) hfull hfinite]

/-- An integer that ends above the point is kept as it is. -/
theorem roundedSignificand_of_neg {n : ℕ} (h : BinaryFormat.double.lastPlace n 1 < 0) :
  (BinaryFormat.double.roundedSignificand n 1 : ℚ) * 2 ^ BinaryFormat.double.lastPlace n 1 = n
  := by
  rw [BinaryFormat.roundedSignificand]
  generalize BinaryFormat.double.lastPlace n 1 = place at h
  have hzero : place.toNat = 0 := by omega
  have hpow : (2 : ℚ) ^ (-place).toNat * 2 ^ place = 1 := by
    rw [← zpow_natCast, ← zpow_add₀ two_ne_zero, Int.toNat_of_nonneg (by omega), neg_add_cancel,
      zpow_zero]
  rw [hzero, Nat.pow_zero, Nat.mul_one,
    BinaryFormat.nearestEven_eq (n := n * 2 ^ (-place).toNat) (by omega) (by omega)
      (fun _ => by omega) Nat.one_pos]
  push_cast
  rw [mul_assoc, hpow, mul_one]

/-- An integer of 64 bits is rounded to a natural number exactly if it is one. -/
theorem isSome_toNat?_ofInt_iff {n : ℤ} (hle : n.natAbs ≤ 2 ^ 63) :
  (ofInt n).datum.toNat?.isSome = true ↔ 0 ≤ n
  := by
  rcases Nat.eq_zero_or_pos n.natAbs with hzero | hpos
  · obtain rfl := Int.natAbs_eq_zero.mp hzero
    decide +kernel
  have hvalue := value?_ofInt hpos hle
  have hexact := roundedSignificand_of_neg (n := n.natAbs)
  obtain ⟨-, hfull⟩ := BinaryFormat.double.roundedSignificand_bounds hpos Nat.one_pos
  generalize BinaryFormat.double.roundedSignificand n.natAbs 1 = significand at *
  generalize BinaryFormat.double.lastPlace n.natAbs 1 = place at *
  rw [Option.isSome_iff_exists]
  simp only [Datum.toNat?_eq_some_iff, hvalue, Option.some_inj]
  have hscaled : (0 : ℚ) < significand * 2 ^ place := by
    rcases lt_or_ge place 0 with hplace | hplace
    · rw [hexact hplace]
      exact_mod_cast hpos
    · have hfull : 2 ^ 52 ≤ significand := by
        apply hfull.resolve_left
        rintro rfl
        exact absurd hplace (by decide)
      have hsignificand : (0 : ℚ) < significand := by exact_mod_cast (by omega : 0 < significand)
      positivity
  rcases lt_or_ge n 0 with hneg | hnonneg
  · rw [decide_eq_true hneg, signed_true]
    constructor
    · rintro ⟨k, hk⟩
      have hk' : (0 : ℚ) ≤ k := Nat.cast_nonneg k
      linarith
    · intro h
      omega
  · rw [decide_eq_false (by omega), signed_false]
    refine iff_of_true ?_ hnonneg
    rcases lt_or_ge place 0 with hplace | hplace
    · exact ⟨n.natAbs, hexact hplace⟩
    · use significand * 2 ^ place.toNat
      rw [Datum.scaled_eq_natCast_iff]
      have hzero : (-place).toNat = 0 := by omega
      simp [hzero, Nat.mod_one]

end Binary64

end FullText
