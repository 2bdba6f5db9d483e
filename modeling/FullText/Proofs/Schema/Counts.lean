import FullText.Proofs.Number.Rounding
import FullText.Proofs.Schema.ByName
import FullText.Proofs.Wire.Counted

/-!
# Options that are counts

Six attributes of a vector field are counts, and a count is given by name as a number: an
integer of 64 bits or a finite binary number (`GivenNumber`).  What is not a natural number
is refused.

A natural number is taken, but it is written as it was given only if two steps keep it.  An
integer is turned into the binary number nearest to it, and a number from 2^64 on into the
greatest count.  `Field.declare_counted` says which number is written, and that it is the
one that was given exactly if that lies below 2^64 and is the value of a binary number.
-/

namespace FullText

/-! ### Numbers that are given -/

/-- A number as it is given for an option. -/
inductive GivenNumber where
  | integer (n : Int64)
  | finite (x : Binary64) (isFinite : x.isFinite = true)

namespace GivenNumber

/-- The number itself. -/
def value : GivenNumber → ℚ
  | .integer n => n.toInt
  | .finite x isFinite => x.datum.value?.get (x.datum.isSome_value?.trans isFinite)

/-- The binary number that is kept of it. -/
def kept : GivenNumber → Binary64
  | .integer n => .ofInt n.toInt
  | .finite x _ => x

/-- The number as the value of an option. -/
def option : GivenNumber → OptionValue
  | .integer n => .ofInt n.toInt
  | .finite x _ => .number x

theorem option_eq (given : GivenNumber) :
  given.option = .number given.kept
  := by
  cases given with
  | _ => rfl

theorem value?_finite {x : Binary64} (h : x.isFinite = true) :
  x.datum.value? = some (value (.finite x h))
  := (Option.some_get _).symm

/-- A binary number is kept as it is, and an integer if it is the value of one. -/
theorem value?_kept_iff (given : GivenNumber) :
  given.kept.datum.value? = some given.value ↔
    ∃ x : Binary64, x.datum.value? = some given.value
  := by
  cases given with
  | integer n => apply Binary64.value?_ofInt_iff
  | finite x isFinite => exact iff_of_true (value?_finite isFinite) ⟨x, value?_finite isFinite⟩

theorem natAbs_toInt_le (n : Int64) :
  n.toInt.natAbs ≤ 2 ^ 63
  := by
  have hlower := n.le_toInt
  have hupper := n.toInt_lt
  omega

/-- The greatest count is no integer of 64 bits. -/
theorem value?_kept_of_eq_maxCount {given : GivenNumber}
    (h : given.value = (GivenOption.maxCount : ℚ)) :
  given.kept.datum.value? = some given.value
  := by
  cases given with
  | integer n =>
    have hmax : n.toInt = (GivenOption.maxCount : ℤ) := by
      rw [value] at h
      exact_mod_cast h
    have hlt := n.toInt_lt
    rw [hmax] at hlt
    exact absurd hlt (by decide)
  | finite x isFinite => apply value?_finite

/-- The count that is made of a natural number is the number given, exactly if that lies
below 2^64 and is the value of a binary number. -/
theorem min_maxCount_eq_iff {given : GivenNumber} {n : ℕ}
    (hn : given.kept.datum.value? = some (n : ℚ)) :
  ((min n GivenOption.maxCount : ℕ) : ℚ) = given.value ↔
    given.value < 2 ^ 64 ∧ ∃ x : Binary64, x.datum.value? = some given.value
  := by
  have hmax : GivenOption.maxCount + 1 = 2 ^ 64 := rfl
  rw [← value?_kept_iff]
  constructor
  · intro h
    constructor
    · rw [← h]
      exact_mod_cast (by omega : min n GivenOption.maxCount < 2 ^ 64)
    · rcases le_total n GivenOption.maxCount with hle | hle
      · rw [Nat.min_eq_left hle] at h
        rw [hn, h]
      · rw [Nat.min_eq_right hle] at h
        apply value?_kept_of_eq_maxCount h.symm
  · rintro ⟨hlt, hkept⟩
    rw [hn, Option.some_inj] at hkept
    rw [← hkept] at hlt ⊢
    have hlt' : n < 2 ^ 64 := by exact_mod_cast hlt
    rw [Nat.min_eq_left (by omega)]

/-- A natural number is kept as a natural number, and nothing else is. -/
theorem isSome_toNat?_kept_iff (given : GivenNumber) :
  given.kept.datum.toNat?.isSome = true ↔ ∃ n : ℕ, given.value = n
  := by
  cases given with
  | integer n =>
    rw [kept, Binary64.isSome_toNat?_ofInt_iff (natAbs_toInt_le n), value]
    constructor
    · intro h
      use n.toInt.toNat
      exact_mod_cast (Int.toNat_of_nonneg h).symm
    · rintro ⟨k, hk⟩
      have hk' : n.toInt = (k : ℤ) := by exact_mod_cast hk
      omega
  | finite x isFinite =>
    rw [kept, Option.isSome_iff_exists]
    simp only [Datum.toNat?_eq_some_iff, value?_finite isFinite, Option.some_inj]

end GivenNumber

/-! ### The argument of an attribute -/

theorem VectorAttribute.keyword_inj {a a' : VectorAttribute} :
  a.keyword = a'.keyword ↔ a = a'
  := by
  cases a <;> cases a' <;> decide

/-- What stands after a keyword, in arguments that are keywords and values in turn. -/
def valueAfter? (keyword : String) : List Arg → Option Arg
  | k :: value :: args => if k = .text keyword then some value else valueAfter? keyword args
  | _ => none

/-- The argument of an attribute, in the schema clause of a vector field. -/
def attributeArg? (attr : VectorAttribute) : List Arg → Option Arg
  | _ :: .text "AS" :: _ :: .text "VECTOR" :: _ :: _ :: args => valueAfter? attr.keyword args
  | _ :: .text "VECTOR" :: _ :: _ :: args => valueAfter? attr.keyword args
  | _ => none

theorem valueAfter?_attributes (attributes : List (VectorAttribute × String))
    (attr : VectorAttribute) :
  valueAfter? attr.keyword
      (attributes.flatMap fun (a, value) => [Arg.text a.keyword, Arg.text value])
    = (attributes.find? fun p => p.1 = attr).map fun p => .text p.2
  := by
  induction attributes with
  | nil => rfl
  | cons p attributes ih =>
    obtain ⟨a, value⟩ := p
    simp only [List.flatMap_cons, List.cons_append, List.nil_append, valueAfter?, Arg.text.injEq,
      VectorAttribute.keyword_inj, List.find?_cons]
    by_cases h : a = attr
    · simp [h]
    · simp [h, ih]

/-- The argument of an attribute is the value that the options have for it. -/
theorem attributeArg?_args {f : Field} {o : VectorOptions} (hkind : f.kind = .vector o)
    (attr : VectorAttribute) :
  attributeArg? attr f.args
    = (o.attributes.find? fun p => p.1 = attr).map fun p => .text p.2
  := by
  rw [← valueAfter?_attributes, Field.args, hkind]
  cases f.otherName with
  | none => rfl
  | some otherName => rfl

/-- The count that vector options have for an attribute. -/
def VectorOptions.count? (o : VectorOptions) : VectorAttribute → Option ℕ
  | .dim => some o.dim
  | .initialCap => o.initialCap
  | .blockSize => o.blockSize
  | .m => o.m
  | .efConstruction => o.efConstruction
  | .efRuntime => o.efRuntime
  | _ => none

/-- A count is written in decimal. -/
theorem VectorOptions.find?_attributes (o : VectorOptions) {attr : VectorAttribute}
    (hattr : attr.optionType = .count) :
  (o.attributes.find? fun p => p.1 = attr) = (o.count? attr).map fun n => (attr, toString n)
  := by
  have hgiven {α : Type} (a : VectorAttribute) (text : α → String) (value : Option α) :
    ((value.map fun n => (a, text n)).toList.find? fun p => decide (p.1 = attr))
      = if a = attr then value.map fun n => (attr, text n) else none
    := by
    cases value with
    | none => simp
    | some n =>
      by_cases h : a = attr
      · simp [h]
      · simp [h]
  cases attr with
  | algorithm | type | distanceMetric | epsilon => cases hattr
  | dim | initialCap | blockSize | m | efConstruction | efRuntime =>
    simp [attributes, count?, hgiven]

/-- Vector options have the counts that are assigned to their attributes. -/
theorem Assignment.count?_vectorOptions {given : Assignment} {o : VectorOptions}
    (h : given.vectorOptions? = some o) {attr : VectorAttribute}
    (hattr : attr.optionType = .count) :
  o.count? attr = given.read? .count (.vector attr)
  := by
  simp only [vectorOptions?, Option.bind_eq_bind, Option.bind_eq_some_iff] at h
  obtain ⟨_, _, _, _, dim, hdim, _, _, ho⟩ := h
  cases ho
  cases attr with
  | algorithm | type | distanceMetric | epsilon => cases hattr
  | dim => exact hdim.symm
  | initialCap | blockSize | m | efConstruction | efRuntime => rfl

/-! ### Declarations -/

namespace GivenNumber

variable {attr : VectorAttribute}

/-- A count takes the natural numbers. -/
theorem takes_iff (hattr : attr.optionType = .count) (given : GivenNumber) :
  FieldType.vector.Takes ((OptionName.vector attr).text, given.option) ↔ ∃ n : ℕ, given.value = n
  := by
  rw [← given.isSome_toNat?_kept_iff, option_eq, FieldType.Takes]
  constructor
  · rintro ⟨name, t, hname, ht, hread⟩
    obtain rfl : OptionName.vector attr = name := OptionName.text_inj.mp hname
    obtain rfl : attr.optionType = t := Option.some_inj.mp ht
    rw [hattr, OptionType.read?, Option.isSome_map] at hread
    exact hread
  · intro h
    refine ⟨.vector attr, .count, rfl, congrArg some hattr, ?_⟩
    rw [OptionType.read?, Option.isSome_map]
    exact h

/-- What is not a natural number is at fault. -/
theorem fault?_of_ne (hattr : attr.optionType = .count) {given : GivenNumber}
    (h : ∀ n : ℕ, given.value ≠ n) (field : String) :
  FieldType.vector.fault? ⟨field, (OptionName.vector attr).text, given.option⟩
    = some (.invalidOptionValue field (OptionName.vector attr).text given.option.shown)
  := by
  have hnone : given.kept.datum.toNat? = none := by
    rw [← Option.not_isSome_iff_eq_none, given.isSome_toNat?_kept_iff]
    rintro ⟨n, hn⟩
    exact h n hn
  have hname : OptionName.ofText? (OptionName.vector attr).text = some (.vector attr) :=
    OptionName.ofText?_text (.vector attr)
  rw [FieldType.fault?, hname, Option.bind_some, FieldType.optionType?, hattr, option_eq]
  simp [OptionType.read?, OptionType.error, hnone]

end GivenNumber

namespace Field

variable {name : String} {options : List (String × OptionValue)} {f : Field}

/-- A field that is declared by name takes its pairs. -/
theorem takes_of_declare {type : FieldType} (h : declare name type options = .ok f) :
  ∀ p ∈ options, type.Takes p
  := by
  have hdeclaring := declaring_declare name type options
  rw [h] at hdeclaring
  cases hdeclaring with
  | declared named taken complete kind_eq made => exact taken

/-- A vector field that is declared by name has the options that its pairs assign. -/
theorem exists_vectorOptions (h : declare name .vector options = .ok f) :
  ∃ o, f.kind = .vector o ∧ (Assignment.ofPairs options).vectorOptions? = some o
  := by
  have hdeclaring := declaring_declare name .vector options
  rw [h] at hdeclaring
  cases hdeclaring with
  | @declared kind f' named taken complete kind_eq made =>
    obtain ⟨o, ho, rfl⟩ := Option.map_eq_some_iff.mp kind_eq
    use o
    refine ⟨?_, ho⟩
    have hkind : f'.kind = .vector o := by
      rw [make, dif_neg named] at made
      split at made
      · cases made
      · cases made
        rfl
    cases (Assignment.ofPairs options).read? .text .otherName with
    | none => exact hkind
    | some otherName => exact hkind

/-- The last number that is given for a count is written, or the greatest count if that is
less. -/
theorem attributeArg?_of_declare {attr : VectorAttribute} (hattr : attr.optionType = .count)
    {given : GivenNumber} {before after : List (String × OptionValue)}
    (h : declare name .vector (before ++ ((OptionName.vector attr).text, given.option) :: after)
      = .ok f)
    (hlast : (OptionName.vector attr).text ∉ after.map Prod.fst) {n : ℕ}
    (hn : given.kept.datum.value? = some (n : ℚ)) :
  attributeArg? attr f.args = some (.ofNat (min n GivenOption.maxCount))
  := by
  obtain ⟨o, hkind, ho⟩ := exists_vectorOptions h
  have hgiven :
    Assignment.ofPairs (before ++ ((OptionName.vector attr).text, given.option) :: after)
      (.vector attr) = some (.number given.kept)
    := by
    have hafter := (lastValue?_eq_none_iff _ after).mpr hlast
    rw [Assignment.ofPairs, lastValue?_append, lastValue?, hafter, if_pos rfl, given.option_eq]
    rfl
  have hcount : o.count? attr = some (min n GivenOption.maxCount) := by
    rw [Assignment.count?_vectorOptions ho hattr, Assignment.read?, hgiven, Option.bind_some,
      OptionType.read?, (Datum.toNat?_eq_some_iff _ n).mpr hn, Option.map_some]
  rw [attributeArg?_args hkind, VectorOptions.find?_attributes o hattr, hcount]
  rfl

/-- A count takes the natural numbers, and any other number is refused with the value that
was given.  Of a natural number, the binary number nearest to it is written, or 2^64 - 1
if that is less: this is the number given exactly if that lies below 2^64 and is the value
of a binary number. -/
theorem declare_counted (name : String) {attr : VectorAttribute} (hattr : attr.optionType = .count)
    (given : GivenNumber) (before after : List (String × OptionValue)) :
  let option := (OptionName.vector attr).text
  let declared := declare name .vector (before ++ (option, given.option) :: after)
  (FieldType.vector.Takes (option, given.option) ↔ ∃ n : ℕ, given.value = n) ∧
  ((∀ n : ℕ, given.value ≠ n) →
    (∀ f, declared ≠ .ok f) ∧
    (name ≠ "" → (∀ p ∈ before, FieldType.vector.Takes p) →
      declared = .error (.invalidOptionValue name option given.option.shown))) ∧
  (∀ f, declared = .ok f → option ∉ after.map Prod.fst →
    ∃ n : ℕ, given.kept.datum.value? = some (n : ℚ) ∧
      attributeArg? attr f.args = some (.ofNat (min n GivenOption.maxCount)) ∧
      (((min n GivenOption.maxCount : ℕ) : ℚ) = given.value ↔
        given.value < 2 ^ 64 ∧ ∃ x : Binary64, x.datum.value? = some given.value))
  := by
  intro option declared
  refine ⟨given.takes_iff hattr, ?_, ?_⟩
  · intro hvalue
    constructor
    · intro f hf
      have htakes := takes_of_declare hf (option, given.option) (by simp)
      obtain ⟨n, hn⟩ := (given.takes_iff hattr).mp htakes
      exact hvalue n hn
    · intro hname hbefore
      apply Declaring.eq
      apply Declaring.untaken hname rfl hbefore
      apply GivenNumber.fault?_of_ne hattr hvalue
  · intro f hf hlast
    have htakes := takes_of_declare hf (option, given.option) (by simp)
    rw [given.takes_iff hattr, ← given.isSome_toNat?_kept_iff] at htakes
    obtain ⟨n, hn⟩ := Option.isSome_iff_exists.mp htakes
    rw [Datum.toNat?_eq_some_iff] at hn
    exact ⟨n, hn, attributeArg?_of_declare hattr hf hlast hn, GivenNumber.min_maxCount_eq_iff hn⟩

/-! ### Numbers that are not kept -/

/-- The number 10^20, which is the value of a binary number. -/
def vast : GivenNumber :=
  .finite ⟨0x4415AF1D78B58C40⟩ (by decide +kernel)

/-- The integer 2^53 + 1, which is not. -/
def uneven : GivenNumber :=
  .integer 9007199254740993

theorem value?_kept_vast :
  vast.kept.datum.value? = some ((10 ^ 20 : ℕ) : ℚ)
  := by
  rw [← Datum.toNat?_eq_some_iff]
  decide +kernel

theorem value_vast :
  vast.value = ((10 ^ 20 : ℕ) : ℚ)
  := by
  apply Option.some_inj.mp
  rw [← value?_kept_vast]
  exact (GivenNumber.value?_finite _).symm

theorem value?_kept_uneven :
  uneven.kept.datum.value? = some ((2 ^ 53 : ℕ) : ℚ)
  := by
  rw [← Datum.toNat?_eq_some_iff]
  decide +kernel

theorem value_uneven :
  uneven.value = ((2 ^ 53 + 1 : ℕ) : ℚ)
  := by
  have htoInt : (9007199254740993 : Int64).toInt = 2 ^ 53 + 1 := by decide
  rw [uneven, GivenNumber.value, htoInt]
  norm_cast

/-- The options before the dimension. -/
def flatOptions : List (String × OptionValue) :=
  [("algorithm", .text "FLAT"), ("type", .text "FLOAT32")]

/-- The options after the dimension. -/
def metricOptions : List (String × OptionValue) :=
  [("distance_metric", .text "L2")]

/-- A field of vectors of a given dimension. -/
def declareDim (given : GivenNumber) : Except SchemaError Field :=
  declare "v" .vector (flatOptions ++ ((OptionName.vector .dim).text, given.option) :: metricOptions)

theorem takes_flatOptions :
  ∀ p ∈ flatOptions, FieldType.vector.Takes p
  := by
  intro p hp
  rw [← FieldType.vector.fault?_eq_none_iff "v"]
  have hall : flatOptions.all (fun p => (FieldType.vector.fault? ⟨"v", p.1, p.2⟩).isNone) := by
    decide +kernel
  exact Option.isNone_iff_eq_none.mp (List.all_eq_true.mp hall p hp)

theorem value_negative_ne (n : ℕ) :
  (GivenNumber.integer (-1)).value ≠ n
  := by
  have hn : (0 : ℚ) ≤ n := Nat.cast_nonneg n
  have htoInt : (-1 : Int64).toInt = -1 := by decide
  rw [GivenNumber.value, htoInt]
  push_cast
  linarith

theorem exists_declareDim (given : GivenNumber) (h : (declareDim given).toOption.isSome = true) :
  ∃ f, declareDim given = .ok f
  := by
  cases hdeclare : declareDim given with
  | error e =>
    rw [hdeclare] at h
    cases h
  | ok f => exact ⟨f, rfl⟩

/-- The dimension 10^20 is taken, and the greatest count is written for it; the dimension
-1 is refused. -/
theorem vast_dim_capped :
  VectorAttribute.dim.optionType = .count ∧
  (∃ f, declareDim vast = .ok f ∧
    attributeArg? .dim f.args = some (.ofNat 18446744073709551615) ∧
    ((18446744073709551615 : ℕ) : ℚ) ≠ vast.value) ∧
  declareDim (.integer (-1)) = .error (.invalidOptionValue "v" "dim" "-1")
  := by
  obtain ⟨-, -, haccepted⟩ :=
    @declare_counted "v" .dim rfl vast flatOptions metricOptions
  obtain ⟨-, hrefused, -⟩ :=
    @declare_counted "v" .dim rfl (.integer (-1)) flatOptions metricOptions
  refine ⟨rfl, ?_, ?_⟩
  · obtain ⟨f, hf⟩ := exists_declareDim vast (by decide +kernel)
    obtain ⟨n, hn, harg, -⟩ := haccepted f hf (by decide)
    rw [value?_kept_vast, Option.some_inj, Nat.cast_inj] at hn
    subst hn
    use f, hf, harg
    rw [value_vast, ne_eq, Nat.cast_inj]
    decide
  · have hshown : (GivenNumber.integer (-1)).option.shown = "-1" := by
      decide +kernel
    rw [← hshown]
    apply (hrefused value_negative_ne).2 (by decide) takes_flatOptions

/-- What is written for a count is the number that is given. -/
def KeepsCount (given : GivenNumber) : Prop :=
  ∀ name attr before after f, attr.optionType = .count →
    declare name .vector (before ++ ((OptionName.vector attr).text, given.option) :: after)
      = .ok f →
    (OptionName.vector attr).text ∉ after.map Prod.fst →
    ∃ n : ℕ, attributeArg? attr f.args = some (.ofNat n) ∧ (n : ℚ) = given.value

/-- A number that is kept has the value of its dimension. -/
theorem KeepsCount.eq_of_declareDim {given : GivenNumber} (h : KeepsCount given)
    (hdeclare : (declareDim given).toOption.isSome = true) {n : ℕ}
    (hn : given.kept.datum.value? = some (n : ℚ)) :
  ((min n GivenOption.maxCount : ℕ) : ℚ) = given.value
  := by
  obtain ⟨f, hf⟩ := exists_declareDim given hdeclare
  obtain ⟨k, hk, hvalue⟩ := h "v" .dim flatOptions metricOptions f rfl hf (by decide)
  rw [attributeArg?_of_declare rfl hf (by decide) hn, Option.some_inj, Arg.ofNat_inj] at hk
  rw [hk, hvalue]

/-- Neither of the two numbers is kept, so it is not so that every number is. -/
theorem not_counts_kept :
  ¬ KeepsCount uneven ∧ ¬ KeepsCount vast
  := by
  constructor
  · intro h
    have hvalue := h.eq_of_declareDim (by decide +kernel) value?_kept_uneven
    rw [value_uneven, Nat.cast_inj] at hvalue
    exact absurd hvalue (by decide)
  · intro h
    have hvalue := h.eq_of_declareDim (by decide +kernel) value?_kept_vast
    rw [value_vast, Nat.cast_inj] at hvalue
    exact absurd hvalue (by decide)

end Field

end FullText
