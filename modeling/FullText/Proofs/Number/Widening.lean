import FullText.Proofs.Number.Rounding

/-!
# Widening

A value of 32 bits becomes one of 64 bits that stands for the same number, which may be an infinity
or a zero with its sign (`Binary32.widen_exact`).  There is one value for each number, so values can
be told apart by what they are widened to (`Binary32.eq_of_widen_eq`).  All this is not so of NaN,
which stands for no number: a NaN becomes quiet when it is widened, and it may have been so before.
-/

namespace FullText

/-! ### The same number -/

/-- Two data stand for the same number: the same infinity, or the same magnitude with the same
sign.  NaN stands for none. -/
inductive Datum.SameNumber : Datum → Datum → Prop where
  | infinite (negative : Bool) : SameNumber (.infinite negative) (.infinite negative)
  | finite {negative : Bool} {significand significand' : ℕ} {exponent exponent' : ℤ}
    (magnitude : (significand : ℚ) * 2 ^ exponent = significand' * 2 ^ exponent') :
    SameNumber (.finite negative significand exponent) (.finite negative significand' exponent')

theorem Datum.SameNumber.symm {d d' : Datum} (h : d.SameNumber d') :
  d'.SameNumber d
  := by
  cases h with
  | infinite negative => apply SameNumber.infinite
  | finite magnitude => apply SameNumber.finite magnitude.symm

theorem Datum.SameNumber.trans {d d' d'' : Datum} (h : d.SameNumber d') (h' : d'.SameNumber d'') :
  d.SameNumber d''
  := by
  cases h with
  | infinite negative => exact h'
  | finite magnitude =>
    cases h' with
    | finite magnitude' => apply SameNumber.finite (magnitude.trans magnitude')

/-- A significand with its exponent as the quotient of two natural numbers. -/
theorem scaled_div_pow (significand : ℕ) (exponent : ℤ) :
  ((significand * 2 ^ exponent.toNat : ℕ) : ℚ) / ((2 ^ (-exponent).toNat : ℕ) : ℚ)
    = significand * 2 ^ exponent
  := by
  have hpow := pow_toNat_div_pow_toNat two_ne_zero exponent
  rw [Nat.cast_mul, mul_div_assoc, hpow, Nat.cast_two]

namespace BinaryFormat

variable {f : BinaryFormat}

/-- There is one pattern for each magnitude. -/
theorem pattern_eq_of_magnitude_eq {significand significand' : ℕ} {exponent exponent' : ℤ}
    (h : f.Canonical significand exponent) (hfinite : f.pattern significand exponent < f.infinity)
    (h' : f.Canonical significand' exponent')
    (hfinite' : f.pattern significand' exponent' < f.infinity)
    (hmagnitude : (significand : ℚ) * 2 ^ exponent = significand' * 2 ^ exponent') :
  f.pattern significand exponent = f.pattern significand' exponent'
  := by
  have hden : 0 < 2 ^ (-exponent).toNat := by positivity
  have hquotient := scaled_div_pow significand exponent
  -- Both patterns are what the magnitude is rounded to.
  rw [← roundQuotient_of_eq h hfinite hden hquotient,
    ← roundQuotient_of_eq h' hfinite' hden (hquotient.trans hmagnitude)]

/-- There is one pattern for each infinity. -/
theorem eq_of_decode_eq_infinite {p : ℕ} (hp : p < 2 * f.signBit) {negative : Bool}
    (h : f.decode p = .infinite negative) :
  p = f.withSign negative f.infinity
  := by
  rw [decode] at h
  split at h
  · cases h
  split at h
  · rename_i hinfinity
    obtain rfl := Datum.infinite.inj h
    rw [← hinfinity]
    apply f.eq_withSign hp
  · split at h
    · cases h
    · cases h

/-- The pattern of a finite datum is that of its pair, which is canonical. -/
theorem canonical_of_decode_eq_finite {p : ℕ} (hp : p < 2 * f.signBit) {negative : Bool}
    {significand : ℕ} {exponent : ℤ} (h : f.decode p = .finite negative significand exponent) :
  f.Canonical significand exponent ∧ f.pattern significand exponent < f.infinity ∧
    p = f.withSign negative (f.pattern significand exponent)
  := by
  have hisFinite : (f.decode p).isFinite = true := by
    rw [h]
    rfl
  obtain ⟨negative', significand', exponent', hcanonical, hfinite, hpattern⟩ :=
    f.exists_of_isFinite hp hisFinite
  rw [hpattern, f.decode_pattern hcanonical hfinite, Datum.finite.injEq] at h
  obtain ⟨rfl, rfl, rfl⟩ := h
  exact ⟨hcanonical, hfinite, hpattern⟩

/-- There is one pattern for each number. -/
theorem eq_of_sameNumber {p p' : ℕ} (hp : p < 2 * f.signBit) (hp' : p' < 2 * f.signBit)
    (h : (f.decode p).SameNumber (f.decode p')) :
  p = p'
  := by
  generalize hd : f.decode p = d at h
  generalize hd' : f.decode p' = d' at h
  cases h with
  | infinite negative => rw [eq_of_decode_eq_infinite hp hd, eq_of_decode_eq_infinite hp' hd']
  | finite magnitude =>
    obtain ⟨hcanonical, hfinite, hpattern⟩ := canonical_of_decode_eq_finite hp hd
    obtain ⟨hcanonical', hfinite', hpattern'⟩ := canonical_of_decode_eq_finite hp' hd'
    rw [hpattern, hpattern', pattern_eq_of_magnitude_eq hcanonical hfinite hcanonical' hfinite'
      magnitude]

/-! ### The same number in a wider format -/

/-- A finite number of 32 bits is one of 64 bits, with a significand of full width unless it is
zero. -/
theorem exists_canonical_double {significand : ℕ} {exponent : ℤ}
    (h : single.Canonical significand exponent)
    (hfinite : single.pattern significand exponent < single.infinity) :
  ∃ significand' exponent', double.Canonical significand' exponent' ∧
    double.pattern significand' exponent' < double.infinity ∧
    (significand : ℚ) * 2 ^ exponent = significand' * 2 ^ exponent'
  := by
  by_cases hzero : significand = 0
  · use 0, double.leastExponent
    refine ⟨⟨by decide, le_refl _, .inl rfl⟩, by decide, ?_⟩
    rw [hzero, Nat.cast_zero, zero_mul, zero_mul]
  · obtain ⟨k, hk⟩ : ∃ k, significand.log2 + k = 52
      := by
      have hlog : significand.log2 < 24 := (Nat.log2_lt hzero).mpr h.significand_lt
      use 52 - significand.log2
      omega
    have hlower : 2 ^ 52 ≤ significand * 2 ^ k
      := by
      rw [← hk, Nat.pow_add]
      apply Nat.mul_le_mul_right
      apply Nat.log2_self_le hzero
    have hupper : significand * 2 ^ k < 2 ^ 53
      := by
      have hlt : significand < 2 ^ (significand.log2 + 1) := Nat.lt_log2_self
      calc significand * 2 ^ k
        _ < 2 ^ (significand.log2 + 1) * 2 ^ k := by gcongr
        _ = 2 ^ 53 := by rw [← Nat.pow_add, Nat.add_right_comm, hk]
    have hleast : -149 ≤ exponent := h.least_le
    replace hfinite : exponent < 106
      := by
      change (exponent - -149).toNat * 2 ^ 23 + significand < 255 * 2 ^ 23 at hfinite
      omega
    have hleast' : double.leastExponent = -1074 := rfl
    have hbits : double.fractionBits = 52 := rfl
    use significand * 2 ^ k, exponent - k
    refine ⟨⟨hupper, ?_, .inr hlower⟩, ?_, ?_⟩
    · rw [hleast']
      omega
    · rw [pattern, Binary64.infinity_double, hleast', hbits]
      omega
    · rw [Nat.cast_mul, Nat.cast_pow, Nat.cast_two, mul_assoc, ← zpow_natCast,
        ← zpow_add₀ two_ne_zero, add_sub_cancel]

end BinaryFormat

/-! ### Values -/

namespace Binary32

theorem toNat_bits_lt (x : Binary32) :
  x.bits.toNat < 2 * BinaryFormat.single.signBit
  := x.bits.toNat_lt

/-- There is one value for each number. -/
theorem eq_of_sameNumber {x y : Binary32} (h : x.datum.SameNumber y.datum) :
  x = y
  := by
  have hbits := BinaryFormat.eq_of_sameNumber x.toNat_bits_lt y.toNat_bits_lt h
  obtain ⟨bits⟩ := x
  obtain ⟨bits'⟩ := y
  rw [mk.injEq]
  apply UInt32.toNat_inj.mp hbits

/-- A value that is not NaN stands for the same number when it is widened. -/
theorem widen_exact {x : Binary32} (h : x.datum ≠ .nan) :
  x.datum.SameNumber x.widen.datum
  := by
  cases hdatum : x.datum with
  | nan => exact absurd hdatum h
  | infinite negative =>
    have hwiden : x.widen = .ofMagnitude negative BinaryFormat.double.infinity
      := by
      rw [widen, hdatum]
    have hinfinite :
      (Binary64.ofMagnitude negative BinaryFormat.double.infinity).datum = .infinite negative
      := by
      cases negative with
      | false => decide
      | true => decide
    rw [hwiden, hinfinite]
    apply Datum.SameNumber.infinite
  | finite negative significand exponent =>
    obtain ⟨hcanonical, hfinite, -⟩ :=
      BinaryFormat.canonical_of_decode_eq_finite x.toNat_bits_lt hdatum
    obtain ⟨significand', exponent', hcanonical', hfinite', hmagnitude⟩ :=
      BinaryFormat.exists_canonical_double hcanonical hfinite
    have hwiden : x.widen
      = .ofMagnitude negative (BinaryFormat.double.pattern significand' exponent')
      := by
      have hden : 0 < 2 ^ (-exponent).toNat := by positivity
      rw [widen, hdatum]
      simp only
      rw [Binary64.ofScaled, Binary64.ofQuotient,
        BinaryFormat.roundQuotient_of_eq hcanonical' hfinite' hden
          ((scaled_div_pow significand exponent).trans hmagnitude)]
    rw [hwiden, Binary64.datum_ofMagnitude (hfinite'.trans (by decide)),
      BinaryFormat.decode_pattern _ hcanonical' hfinite']
    apply Datum.SameNumber.finite hmagnitude

/-- Values that are not NaN are told apart by what they are widened to. -/
theorem eq_of_widen_eq {x y : Binary32} (hx : x.datum ≠ .nan) (hy : y.datum ≠ .nan)
    (h : x.widen = y.widen) :
  x = y
  := by
  have hxy := widen_exact hx
  rw [h] at hxy
  exact eq_of_sameNumber (hxy.trans (widen_exact hy).symm)

/-- A NaN and its quiet form are widened to the same. -/
example : widen ⟨0x7F800001⟩ = widen ⟨0x7FC00001⟩ := by
  decide

end Binary32

end FullText
