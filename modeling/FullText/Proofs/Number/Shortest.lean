import FullText.Proofs.Number.Layout
import FullText.Proofs.Number.Rounding
import Mathlib.Tactic.FieldSimp

/-!
# Numbers are read back

The shortest decimal of a binary value lies in the rounding span of the value, whichever
grid it was found on (`BinaryFormat.holds_shortest`).  What a span holds is rounded to the
value, and reading a layout loses nothing of a decimal.  So every finite number is read back
from its text in any style (`Binary64.read?_chars`).
-/

namespace FullText

namespace RoundingSpan

/-- A point that the span holds, as a rational. -/
theorem holds_of_holds {s : RoundingSpan} {point unit : ℕ} (hunit : 0 < unit)
    (h : s.holds point unit = true) {v : ℚ} (hv : v = (point : ℚ) / unit * 2 ^ s.place) :
  s.Holds v
  := by
  have hunit' : (0 : ℚ) < unit := Nat.cast_pos.mpr hunit
  have hpow : (0 : ℚ) < 2 ^ s.place := by positivity
  subst hv
  rw [holds] at h
  split at h
  · rename_i hclosed
    rw [Bool.and_eq_true, decide_eq_true_eq, decide_eq_true_eq] at h
    have hlower : (s.lower : ℚ) ≤ point / unit := by
      rw [le_div_iff₀ hunit']
      exact_mod_cast h.1
    have hupper : (point : ℚ) / unit ≤ s.upper := by
      rw [div_le_iff₀ hunit']
      exact_mod_cast h.2
    refine ⟨by gcongr, by gcongr, ?_⟩
    intro hopen
    rw [hclosed] at hopen
    cases hopen
  · rw [Bool.and_eq_true, decide_eq_true_eq, decide_eq_true_eq] at h
    have hlower : (s.lower : ℚ) < point / unit := by
      rw [lt_div_iff₀ hunit']
      exact_mod_cast h.1
    have hupper : (point : ℚ) / unit < s.upper := by
      rw [div_lt_iff₀ hunit']
      exact_mod_cast h.2
    exact ⟨by gcongr, by gcongr, fun _ => ⟨by gcongr, by gcongr⟩⟩

/-- A multiple of a power of ten, in units of the span. -/
theorem multiple_value (s : RoundingSpan) (n : ℕ) (k : ℤ) :
  Decimal.value ⟨n, k⟩
    = ((n * (10 ^ k.toNat * 2 ^ (-s.place).toNat) : ℕ) : ℚ) /
        ((2 ^ s.place.toNat * 10 ^ (-k).toNat : ℕ) : ℚ) * 2 ^ s.place
  := by
  have hten := pow_toNat_div_pow_toNat (by decide : 10 ≠ 0) k
  have htwo := pow_toNat_div_pow_toNat two_ne_zero s.place
  rw [Decimal.value]
  push_cast at *
  rw [← hten, ← htwo]
  field_simp

/-- A multiple of a power of ten that is found lies in the span. -/
theorem holds_of_multiple? {s : RoundingSpan} {tie : Tie} {k : ℤ} {d : Decimal}
    (h : s.multiple? tie k = some d) :
  s.Holds d.value
  := by
  have hunit : 0 < 2 ^ s.place.toNat * 10 ^ (-k).toNat := by positivity
  have hgrid {n : ℕ} (hn : s.holds (n * (10 ^ k.toNat * 2 ^ (-s.place).toNat))
      (2 ^ s.place.toNat * 10 ^ (-k).toNat) = true) :
    s.Holds (Decimal.value ⟨n, k⟩)
    := holds_of_holds hunit hn (s.multiple_value n k)
  simp only [multiple?] at h
  generalize 10 ^ k.toNat * 2 ^ (-s.place).toNat = grid at h hgrid
  generalize 2 ^ s.place.toNat * 10 ^ (-k).toNat = unit at h hgrid
  generalize s.centre * unit / grid = below at h
  cases hlower : s.holds (below * grid) unit with
  | false =>
    cases hupper : s.holds ((below + 1) * grid) unit with
    | false =>
      rw [hlower, hupper] at h
      cases h
    | true =>
      rw [hlower, hupper] at h
      obtain rfl := Option.some_inj.mp h
      apply hgrid hupper
  | true =>
    cases hupper : s.holds ((below + 1) * grid) unit with
    | false =>
      rw [hlower, hupper] at h
      obtain rfl := Option.some_inj.mp h
      apply hgrid hlower
    | true =>
      -- Where both neighbours lie in the span, the nearest is one of them.
      rw [hlower, hupper] at h
      obtain rfl := Option.some_inj.mp h
      split
      · apply hgrid hlower
      · apply hgrid hupper
      · apply hgrid hupper
      · rcases Nat.mod_two_eq_zero_or_one below with hparity | hparity
        · rw [hparity]
          apply hgrid hlower
        · rw [hparity]
          apply hgrid hupper

theorem value_exact (s : RoundingSpan) :
  s.exact.value = s.centre * 2 ^ s.place
  := by
  rw [exact]
  split
  · rename_i hneg
    have hten : (10 : ℚ) ^ s.place = 2 ^ s.place * 5 ^ s.place := by
      rw [← mul_zpow]
      norm_num
    have hfive : (5 : ℚ) ^ (-s.place).toNat * 5 ^ s.place = 1 := by
      rw [← zpow_natCast, ← zpow_add₀ (by norm_num), Int.toNat_of_nonneg (by omega),
        neg_add_cancel, zpow_zero]
    rw [Decimal.value]
    push_cast
    rw [hten, mul_assoc, mul_left_comm _ ((2 : ℚ) ^ s.place), hfive, mul_one]
  · rename_i hnonneg
    have htwo : (2 : ℚ) ^ s.place = 2 ^ s.place.toNat := by
      rw [← zpow_natCast, Int.toNat_of_nonneg (by omega)]
    rw [Decimal.value, htwo, zpow_zero, mul_one]
    push_cast
    rfl

/-- A search ends in the span, whatever the grids are that it tries. -/
theorem holds_search {s : RoundingSpan} (hcentre : s.Holds (s.centre * 2 ^ s.place)) (tie : Tie)
    (grids : ℕ) (k : ℤ) :
  s.Holds (s.search tie grids k).value
  := by
  induction grids generalizing k with
  | zero =>
    rw [search, value_exact]
    exact hcentre
  | succ grids ih =>
    rw [search]
    split
    · rename_i hfound
      apply holds_of_multiple? hfound
    · apply ih

end RoundingSpan

namespace BinaryFormat

/-- The shortest decimal of a value lies in the span of the value. -/
theorem holds_shortest (f : BinaryFormat) (tie : Tie) {significand : ℕ} (hne : significand ≠ 0)
    (exponent : ℤ) :
  (f.span significand exponent).Holds (f.shortest tie significand exponent).value
  := by
  have hcentre :
    ((f.span significand exponent).centre : ℚ) * 2 ^ (f.span significand exponent).place
      = significand * 2 ^ exponent
    := by
    rw [span, zpow_sub₀ two_ne_zero]
    push_cast
    ring
  rw [shortest, if_neg hne]
  apply RoundingSpan.holds_search
  rw [hcentre]
  apply holds_self hne

end BinaryFormat

/-! ### Orders of magnitude -/

theorem Decimal.value_eq_zero_iff (d : Decimal) :
  d.value = 0 ↔ d.digits = 0
  := by
  have hpow : (10 : ℚ) ^ d.exponent ≠ 0 := zpow_ne_zero _ (by norm_num)
  rw [value, mul_eq_zero, or_iff_left hpow, Nat.cast_eq_zero]

/-- The order of magnitude of a decimal is told by the number of its digits. -/
theorem Decimal.order_bounds {d : Decimal} (hne : d.digits ≠ 0) :
  (10 : ℚ) ^ d.order ≤ d.value ∧ d.value < 10 ^ (d.order + 1)
  := by
  have hlength : 0 < (Nat.toDigits 10 d.digits).length := Nat.length_toDigits_pos
  have horder : d.order = ((Nat.toDigits 10 d.digits).length - 1 : ℕ) + d.exponent := by
    rw [order]
    omega
  have hupper : d.digits < 10 ^ (Nat.toDigits 10 d.digits).length :=
    (Nat.length_toDigits_le_iff (by decide) hlength).mp (le_refl _)
  have hlower : 10 ^ ((Nat.toDigits 10 d.digits).length - 1) ≤ d.digits := by
    rcases Nat.eq_zero_or_pos ((Nat.toDigits 10 d.digits).length - 1) with hzero | hpos
    · rw [hzero, Nat.pow_zero]
      omega
    · rw [← not_lt, ← Nat.length_toDigits_le_iff (by decide) hpos]
      omega
  have hsucc : d.order + 1 = ((Nat.toDigits 10 d.digits).length : ℕ) + d.exponent := by
    omega
  rw [hsucc, horder, zpow_add₀ (by norm_num), zpow_add₀ (by norm_num), zpow_natCast, zpow_natCast,
    value]
  constructor
  · gcongr
    exact_mod_cast hlower
  · gcongr
    exact_mod_cast hupper

namespace BinaryFormat

/-- What the span of a finite value of 64 bits holds has a magnitude below 2^1024, and not
below 2^-1075. -/
theorem magnitude_of_holds {significand : ℕ} {exponent : ℤ}
    (hcanonical : double.Canonical significand exponent)
    (hfinite : double.pattern significand exponent < double.infinity) (hne : significand ≠ 0)
    {v : ℚ} (h : (double.span significand exponent).Holds v) :
  (2 : ℚ) ^ (-1075 : ℤ) ≤ v ∧ v < 2 ^ (1024 : ℤ)
  := by
  obtain ⟨hlower, hupper, -⟩ := bounds_of_holds hne h
  obtain ⟨hwidth, hleast, hfull⟩ := hcanonical
  have hleastExponent : double.leastExponent = -1074 := rfl
  have hbits : double.fractionBits = 52 := rfl
  have hinfinity : double.infinity = 2047 * 2 ^ 52 := rfl
  rw [pattern, hinfinity, hleastExponent, hbits] at hfinite
  rw [hleastExponent] at hleast hfull
  rw [hbits] at hwidth hfull
  have hgreatest : exponent ≤ 971 := by
    omega
  constructor
  · have hone : (1 : ℚ) ≤ significand := by exact_mod_cast Nat.pos_of_ne_zero hne
    calc (2 : ℚ) ^ (-1075 : ℤ)
      _ = 1 / 2 * 2 ^ (-1074 : ℤ) := by
        rw [one_div, ← zpow_neg_one, ← zpow_add₀ two_ne_zero]
        congr 1
      _ ≤ (significand - 1 / 2) * 2 ^ exponent := by
        apply mul_le_mul _ (zpow_le_zpow_right₀ one_le_two hleast) (by positivity)
        · linarith
        · linarith
      _ ≤ v := hlower
  · have hlt : (significand : ℚ) + 1 ≤ 2 ^ 53 := by exact_mod_cast hwidth
    calc v
      _ ≤ (significand + 1 / 2) * 2 ^ exponent := hupper
      _ < 2 ^ 53 * 2 ^ exponent := by
        gcongr
        linarith
      _ ≤ 2 ^ 53 * 2 ^ (971 : ℤ) := by
        gcongr
        exact one_le_two
      _ = 2 ^ (1024 : ℤ) := by
        rw [← zpow_natCast, ← zpow_add₀ two_ne_zero]
        congr 1

/-- A decimal in the span of a finite value is rounded to it. -/
theorem roundDecimal_of_holds {significand : ℕ} {exponent : ℤ}
    (hcanonical : double.Canonical significand exponent)
    (hfinite : double.pattern significand exponent < double.infinity) (hne : significand ≠ 0)
    {d : Decimal} (h : (double.span significand exponent).Holds d.value) :
  double.roundDecimal d = double.pattern significand exponent
  := by
  have hdigits : d.digits ≠ 0 := by
    intro hzero
    have hpos := pos_of_holds hne h
    rw [d.value_eq_zero_iff.mpr hzero] at hpos
    exact lt_irrefl 0 hpos
  obtain ⟨hlower, hupper⟩ := magnitude_of_holds hcanonical hfinite hne h
  obtain ⟨hlower', hupper'⟩ := Decimal.order_bounds hdigits
  have horder : (Nat.toDigits 10 d.digits).length + d.exponent = d.order + 1 := by
    rw [Decimal.order]
    omega
  have hbelow : d.order < 1024 := by
    have hlt : (10 : ℚ) ^ d.order < 10 ^ (1024 : ℤ) := by
      calc (10 : ℚ) ^ d.order
        _ ≤ d.value := hlower'
        _ < 2 ^ (1024 : ℤ) := hupper
        _ ≤ 10 ^ (1024 : ℤ) := by
          apply zpow_le_zpow_left₀ (by decide) (by norm_num) (by norm_num)
    exact (zpow_lt_zpow_iff_right₀ (by norm_num)).mp hlt
  have habove : -1075 < d.order + 1 := by
    have hlt : (10 : ℚ) ^ (-1075 : ℤ) < 10 ^ (d.order + 1) := by
      calc (10 : ℚ) ^ (-1075 : ℤ)
        _ ≤ 2 ^ (-1075 : ℤ) := by
          rw [zpow_neg, zpow_neg]
          apply inv_anti₀ (by positivity)
          apply zpow_le_zpow_left₀ (by decide) (by norm_num) (by norm_num)
        _ ≤ d.value := hlower
        _ < 10 ^ (d.order + 1) := hupper'
    exact (zpow_lt_zpow_iff_right₀ (by norm_num)).mp hlt
  have hrange : (2 : ℤ) ^ double.exponentBits = 2048 := rfl
  have hden : 0 < 10 ^ (-d.exponent).toNat := by positivity
  have hquotient :
    ((d.digits * 10 ^ d.exponent.toNat : ℕ) : ℚ) / ((10 ^ (-d.exponent).toNat : ℕ) : ℚ) = d.value
    := by
    have hpow := pow_toNat_div_pow_toNat (by decide : 10 ≠ 0) d.exponent
    rw [Nat.cast_mul, mul_div_assoc, hpow]
    rfl
  rw [← hquotient] at h
  rw [roundDecimal, if_neg hdigits, if_neg, if_neg]
  · rw [roundQuotient_of_holds hcanonical hne hden h, Nat.min_eq_right hfinite.le]
  · omega
  · omega

end BinaryFormat

/-! ### Texts -/

namespace Binary64

/-- A finite number is read back from its text in any style. -/
theorem read?_chars {x : Binary64} (h : x.isFinite = true) (style : NumberStyle) :
  read? (String.ofList (x.chars style)) = some x
  := by
  obtain ⟨negative, significand, exponent, hcanonical, hfinite, hx, hdatum⟩ :=
    exists_of_isFinite h
  obtain ⟨d, hread, hvalue⟩ := (BinaryFormat.double.shortest style.tie significand
    exponent).read?_text style negative
  have hround : BinaryFormat.double.roundDecimal d
    = BinaryFormat.double.pattern significand exponent
    := by
    by_cases hne : significand = 0
    · subst hne
      have hleast : exponent = BinaryFormat.double.leastExponent :=
        hcanonical.full.resolve_right (by decide)
      have hdigits : d.digits = 0 := by
        rw [← d.value_eq_zero_iff, hvalue, BinaryFormat.shortest, if_pos rfl, Decimal.value,
          Nat.cast_zero, zero_mul]
      rw [BinaryFormat.roundDecimal, if_pos hdigits, hleast]
      rfl
    · apply BinaryFormat.roundDecimal_of_holds hcanonical hfinite hne
      rw [hvalue]
      apply BinaryFormat.holds_shortest _ _ hne
  have hchars : x.chars style = if negative = true
    then '-' :: (BinaryFormat.double.shortest style.tie significand exponent).text style
    else (BinaryFormat.double.shortest style.tie significand exponent).text style
    := by
    rw [chars, hdatum]
    rfl
  rw [read?, String.toList_ofList, hchars, hread, Option.map_some, BinaryFormat.ofNumeral, hround]
  exact congrArg some hx.symm

end Binary64

end FullText
