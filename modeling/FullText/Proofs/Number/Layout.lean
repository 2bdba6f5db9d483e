import FullText.Number.Numeral
import FullText.Number.Style
import Mathlib.Algebra.Order.Field.Power
import Mathlib.Algebra.Order.Field.Rat
import Mathlib.Tactic.Ring

/-!
# Reading the layouts of a decimal

A numeral is digits, possibly with a point between them, and possibly an exponent behind
them.  It is read as the number of all its digits and the place of the last one, so that it
does not matter where the point stands.

Every style lays the digits of a decimal out as such a numeral.  What is read of it is the
decimal itself, or one with more zeros at its end, which has the same value
(`Decimal.read?_text`).
-/

namespace FullText

/-- The rational number that a decimal is. -/
def Decimal.value (d : Decimal) : ℚ :=
  d.digits * 10 ^ d.exponent

/-! ### The digits of a number -/

theorem digitsValue_append (cs cs' : List Char) (start : ℕ) :
  digitsValue (cs ++ cs') start = digitsValue cs' (digitsValue cs start)
  := List.foldl_append

theorem digitsValue_toDigits (n : ℕ) :
  digitsValue (Nat.toDigits 10 n) 0 = n
  := Nat.ofDigitChars_ten_toDigits

theorem digitsValue_zeros (n start : ℕ) :
  digitsValue (List.replicate n '0') start = 10 ^ n * start
  := Nat.ofDigitChars_replicate_zero

/-- The characters are all digits. -/
def AreDigits (cs : List Char) : Prop :=
  ∀ c ∈ cs, c.isDigit = true

theorem areDigits_toDigits (n : ℕ) :
  AreDigits (Nat.toDigits 10 n)
  := fun _ => Nat.isDigit_of_mem_toDigits (by decide) (by decide)

theorem areDigits_zeros (n : ℕ) :
  AreDigits (List.replicate n '0')
  := by
  intro c hc
  rw [List.eq_of_mem_replicate hc]
  decide

theorem AreDigits.append {cs cs' : List Char} (h : AreDigits cs) (h' : AreDigits cs') :
  AreDigits (cs ++ cs')
  := by
  intro c hc
  rcases List.mem_append.mp hc with hc | hc
  · exact h c hc
  · exact h' c hc

/-- Digits are read up to the first character that is none. -/
theorem AreDigits.takeWhile {cs rest : List Char} (h : AreDigits cs)
    (hrest : ∀ c ∈ rest.head?, c.isDigit = false) :
  (cs ++ rest).takeWhile Char.isDigit = cs ∧ (cs ++ rest).dropWhile Char.isDigit = rest
  := by
  have hnone : rest.takeWhile Char.isDigit = [] ∧ rest.dropWhile Char.isDigit = rest := by
    cases rest with
    | nil => exact ⟨rfl, rfl⟩
    | cons c rest =>
      have hc := hrest c rfl
      simp [hc]
  rw [List.takeWhile_append_of_pos h, List.dropWhile_append_of_pos h, hnone.1, hnone.2,
    List.append_nil]
  exact ⟨rfl, rfl⟩

/-! ### Numerals -/

namespace Numeral

/-- What does not begin with a sign has none. -/
theorem splitSign_of_isDigit {c : Char} (h : c.isDigit = true) (cs : List Char) :
  splitSign (c :: cs) = (false, c :: cs)
  := by
  rw [splitSign]
  · rintro cs' ⟨⟩
    exact absurd h (by decide)
  · rintro cs' ⟨⟩
    exact absurd h (by decide)

/-- An exponent with its sign. -/
theorem exponent?_eq {sign digits : List Char} (negative : Bool)
    (hsign : sign = ['-'] ∧ negative = true ∨ (sign = ['+'] ∨ sign = []) ∧ negative = false)
    (hdigits : AreDigits digits) (hne : digits ≠ []) :
  exponent? ('e' :: (sign ++ digits))
    = some (if negative then -(digitsValue digits 0 : ℤ) else digitsValue digits 0)
  := by
  have hall : digits.all Char.isDigit = true := List.all_eq_true.mpr hdigits
  have hsplit : splitSign (sign ++ digits) = (negative, digits) := by
    obtain ⟨rfl, rfl⟩ | ⟨rfl | rfl, rfl⟩ := hsign
    · rfl
    · rfl
    · obtain ⟨c, cs, rfl⟩ := List.exists_cons_of_ne_nil hne
      apply splitSign_of_isDigit (hdigits c List.mem_cons_self)
  rw [exponent?, if_pos (.inl rfl), hsplit]
  simp [hne, hall]

/-- A numeral without a point. -/
theorem decimal?_whole {whole tail : List Char} (hwhole : AreDigits whole) (hne : whole ≠ [])
    (htail : ∀ c ∈ tail.head?, c.isDigit = false ∧ c ≠ '.') :
  decimal? (whole ++ tail) = (exponent? tail).map fun e => ⟨digitsValue whole 0, e⟩
  := by
  obtain ⟨htake, hdrop⟩ := hwhole.takeWhile fun c hc => (htail c hc).1
  rw [decimal?]
  simp only [htake, hdrop]
  split
  · exact absurd rfl (htail '.' rfl).2
  · simp [hne, digitsValue]

/-- A numeral with a point. -/
theorem decimal?_pointed {whole fraction tail : List Char} (hwhole : AreDigits whole)
    (hne : whole ≠ []) (hfraction : AreDigits fraction)
    (htail : ∀ c ∈ tail.head?, c.isDigit = false) :
  decimal? (whole ++ '.' :: (fraction ++ tail))
    = (exponent? tail).map fun e => ⟨digitsValue (whole ++ fraction) 0, e - fraction.length⟩
  := by
  have hpoint : ∀ c ∈ ('.' :: (fraction ++ tail)).head?, c.isDigit = false := by
    rintro c ⟨⟩
    decide
  obtain ⟨htake, hdrop⟩ := hwhole.takeWhile hpoint
  obtain ⟨htake', hdrop'⟩ := hfraction.takeWhile htail
  simp only [decimal?, htake, hdrop, htake', hdrop', hne, false_and, if_false, digitsValue_append]

end Numeral

/-! ### Layouts -/

namespace Decimal

/-- A layout is a numeral that begins with a digit, and the value of the numeral is that of
the decimal. -/
structure LaysOut (d : Decimal) (cs : List Char) : Prop where
  head : ∃ c rest, cs = c :: rest ∧ c.isDigit = true
  reads : ∃ d', Numeral.decimal? cs = some d' ∧ d'.value = d.value

theorem head_of_append {whole rest : List Char} (hwhole : AreDigits whole) (hne : whole ≠ []) :
  ∃ c cs, whole ++ rest = c :: cs ∧ c.isDigit = true
  := by
  obtain ⟨c, cs, rfl⟩ := List.exists_cons_of_ne_nil hne
  exact ⟨c, cs ++ rest, rfl, hwhole c List.mem_cons_self⟩

theorem LaysOut.whole {d : Decimal} {whole tail : List Char} (hwhole : AreDigits whole)
    (hne : whole ≠ []) (htail : ∀ c ∈ tail.head?, c.isDigit = false ∧ c ≠ '.') {e : ℤ}
    (hexponent : Numeral.exponent? tail = some e)
    (hvalue : Decimal.value ⟨digitsValue whole 0, e⟩ = d.value) :
  d.LaysOut (whole ++ tail)
  := by
  refine ⟨head_of_append hwhole hne, _, ?_, hvalue⟩
  rw [Numeral.decimal?_whole hwhole hne htail, hexponent]
  rfl

theorem LaysOut.pointed {d : Decimal} (whole fraction tail : List Char)
    (hwhole : AreDigits whole) (hne : whole ≠ []) (hfraction : AreDigits fraction)
    (htail : ∀ c ∈ tail.head?, c.isDigit = false) {e : ℤ}
    (hexponent : Numeral.exponent? tail = some e)
    (hvalue : Decimal.value ⟨digitsValue (whole ++ fraction) 0, e - fraction.length⟩ = d.value) :
  d.LaysOut (whole ++ '.' :: (fraction ++ tail))
  := by
  refine ⟨head_of_append hwhole hne, _, ?_, hvalue⟩
  rw [Numeral.decimal?_pointed hwhole hne hfraction htail, hexponent]
  rfl

variable (d : Decimal)

theorem toDigits_ne_nil :
  Nat.toDigits 10 d.digits ≠ []
  := Nat.toDigits_ne_nil

theorem not_isDigit_of_mem_head?_nil :
  ∀ c ∈ ([] : List Char).head?, c.isDigit = false
  := by
  rintro c ⟨⟩

/-- Zeros before the digits do not count. -/
theorem laysOut_fraction {zeros : ℕ} (h : d.exponent = -((Nat.toDigits 10 d.digits).length + zeros)) :
  d.LaysOut ('0' :: '.' :: (List.replicate zeros '0' ++ Nat.toDigits 10 d.digits))
  := by
  have hlaysOut : d.LaysOut
    (['0'] ++ '.' :: ((List.replicate zeros '0' ++ Nat.toDigits 10 d.digits) ++ []))
    := by
    have hzero : AreDigits ['0'] := areDigits_zeros 1
    apply LaysOut.pointed _ _ [] hzero (by decide)
      ((areDigits_zeros zeros).append (areDigits_toDigits d.digits)) not_isDigit_of_mem_head?_nil rfl
    have hdigits :
      digitsValue (['0'] ++ (List.replicate zeros '0' ++ Nat.toDigits 10 d.digits)) 0 = d.digits
      := by
      rw [digitsValue_append, digitsValue_append, digitsValue_zeros]
      apply digitsValue_toDigits
    have hexponent :
      (0 : ℤ) - (List.replicate zeros '0' ++ Nat.toDigits 10 d.digits).length = d.exponent
      := by
      rw [List.length_append, List.length_replicate]
      omega
    rw [hdigits, hexponent]
  rw [List.append_nil] at hlaysOut
  exact hlaysOut

/-- Zeros behind the digits are those of the exponent, or one more behind a point. -/
theorem laysOut_integer (h : 0 ≤ d.exponent) (pointZero : Bool) :
  d.LaysOut (Nat.toDigits 10 d.digits ++ List.replicate d.exponent.toNat '0' ++
    if pointZero then ['.', '0'] else [])
  := by
  have hwhole := (areDigits_toDigits d.digits).append (areDigits_zeros d.exponent.toNat)
  have hne : Nat.toDigits 10 d.digits ++ List.replicate d.exponent.toNat '0' ≠ [] :=
    List.append_ne_nil_of_left_ne_nil d.toDigits_ne_nil _
  have hdigits : digitsValue (Nat.toDigits 10 d.digits ++ List.replicate d.exponent.toNat '0') 0
    = 10 ^ d.exponent.toNat * d.digits
    := by
    rw [digitsValue_append, digitsValue_toDigits, digitsValue_zeros]
  have hpow : (10 : ℚ) ^ d.exponent = 10 ^ d.exponent.toNat := by
    rw [← zpow_natCast, Int.toNat_of_nonneg h]
  cases pointZero with
  | false =>
    rw [if_neg Bool.false_ne_true]
    apply LaysOut.whole hwhole hne (by rintro c ⟨⟩) rfl
    rw [hdigits, value, value, hpow, zpow_zero]
    push_cast
    ring
  | true =>
    rw [if_pos rfl]
    apply LaysOut.pointed _ ['0'] [] hwhole hne (areDigits_zeros 1)
      not_isDigit_of_mem_head?_nil rfl
    have hmore : digitsValue (Nat.toDigits 10 d.digits ++ List.replicate d.exponent.toNat '0' ++
      ['0']) 0 = 10 * (10 ^ d.exponent.toNat * d.digits)
      := by
      rw [digitsValue_append, hdigits]
      rfl
    rw [hmore, value, value, hpow, List.length_singleton, zero_sub, Nat.cast_one, zpow_neg_one]
    push_cast
    ring

/-- A point between the digits. -/
theorem laysOut_between {point : ℕ} (hpos : 0 < point)
    (h : d.exponent = point - (Nat.toDigits 10 d.digits).length) (hneg : d.exponent < 0) :
  d.LaysOut ((Nat.toDigits 10 d.digits).take point ++
    '.' :: (Nat.toDigits 10 d.digits).drop point)
  := by
  have hdigits := areDigits_toDigits d.digits
  have hlaysOut : d.LaysOut ((Nat.toDigits 10 d.digits).take point ++
    '.' :: ((Nat.toDigits 10 d.digits).drop point ++ []))
    := by
    apply LaysOut.pointed _ _ [] (fun c hc => hdigits c (List.mem_of_mem_take hc)) _
      (fun c hc => hdigits c (List.mem_of_mem_drop hc)) not_isDigit_of_mem_head?_nil rfl
    · have hexponent : (0 : ℤ) - ((Nat.toDigits 10 d.digits).drop point).length = d.exponent := by
        rw [List.length_drop]
        omega
      rw [List.take_append_drop, digitsValue_toDigits, hexponent]
    · rw [ne_eq, List.take_eq_nil_iff, not_or]
      exact ⟨hpos.ne', d.toDigits_ne_nil⟩
  rw [List.append_nil] at hlaysOut
  exact hlaysOut

/-- The digits with the point in its place lay the decimal out. -/
theorem laysOut_positionalText (pointZero : Bool) :
  d.LaysOut (d.positionalText pointZero)
  := by
  rw [positionalText]
  split
  · apply laysOut_fraction
    omega
  split
  · rename_i h
    apply laysOut_integer d h
  · apply laysOut_between
    · omega
    · omega
    · omega

/-- The exponent of a scientific layout is the order of the decimal. -/
theorem exponent?_order (plusSign : Bool) :
  Numeral.exponent? ('e' :: ((if d.order < 0 then ['-'] else if plusSign then ['+'] else []) ++
    Nat.toDigits 10 d.order.natAbs)) = some d.order
  := by
  rw [Numeral.exponent?_eq (decide (d.order < 0)) _ (areDigits_toDigits _) Nat.toDigits_ne_nil,
    digitsValue_toDigits]
  · by_cases h : d.order < 0
    · rw [if_pos (decide_eq_true h), Option.some_inj]
      omega
    · rw [if_neg (by simpa using h), Option.some_inj]
      omega
  · by_cases h : d.order < 0
    · simp [h]
    · cases plusSign with
      | false => simp [h]
      | true => simp [h]

/-- The digits with the point after the first one lay the decimal out. -/
theorem laysOut_scientificText (plusSign : Bool) :
  d.LaysOut (d.scientificText plusSign)
  := by
  have hdigits := areDigits_toDigits d.digits
  have hvalue := digitsValue_toDigits d.digits
  have hexponent := d.exponent?_order plusSign
  have horder : d.order = (Nat.toDigits 10 d.digits).length + d.exponent - 1 := rfl
  rw [scientificText]
  generalize (if d.order < 0 then ['-'] else if plusSign then ['+'] else []) = sign at *
  split
  · rename_i first second rest hcons
    rw [hcons] at hdigits hvalue horder
    apply LaysOut.pointed [first] (second :: rest) _
      (fun c hc => hdigits c (List.mem_append_left (second :: rest) hc)) (List.cons_ne_nil _ _)
      (fun c hc => hdigits c (List.mem_cons_of_mem first hc)) _ hexponent
    · have hexponent : d.order - (second :: rest).length = d.exponent := by
        rw [horder, List.length_cons]
        omega
      rw [List.singleton_append, hvalue, hexponent]
    · rintro c ⟨⟩
      decide
  · rename_i hshort
    have hlength : (Nat.toDigits 10 d.digits).length = 1 := by
      match hcons : Nat.toDigits 10 d.digits with
      | [] => exact absurd hcons d.toDigits_ne_nil
      | [_] => rfl
      | first :: second :: rest => exact (hshort first second rest hcons).elim
    apply LaysOut.whole hdigits d.toDigits_ne_nil _ hexponent
    · rw [hvalue, horder, hlength, Nat.cast_one, add_sub_cancel_left]
    · rintro c ⟨⟩
      decide

theorem laysOut_text (d : Decimal) (style : NumberStyle) :
  d.LaysOut (d.text style)
  := by
  rw [text]
  split
  · apply laysOut_positionalText
  · apply laysOut_scientificText

/-- What is read of a decimal with its sign are the sign and the value of the decimal. -/
theorem read?_text (style : NumberStyle) (negative : Bool) :
  ∃ d', Numeral.read? (if negative then '-' :: d.text style else d.text style)
      = some (.decimal negative d') ∧ d'.value = d.value
  := by
  obtain ⟨⟨c, rest, hcons, hc⟩, d', hreads, hvalue⟩ := d.laysOut_text style
  refine ⟨d', ?_, hvalue⟩
  have hsplit :
    Numeral.splitSign (if negative then '-' :: d.text style else d.text style)
      = (negative, d.text style)
    := by
    cases negative with
    | false =>
      rw [if_neg Bool.false_ne_true, hcons]
      apply Numeral.splitSign_of_isDigit hc
    | true => rfl
  rw [Numeral.read?, hsplit]
  simp only [hreads]

end Decimal

end FullText
