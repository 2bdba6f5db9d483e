import FullText.Proofs.Pairs
import FullText.Schema.Declaration
import Mathlib.Data.List.Induction

/-!
# The types of options

An option wants values of one type, and the options of a field are told by the type of
the field (`FieldType.optionType?`).  So of a pair of a name and a value it can be said by
itself whether a field takes it (`FieldType.Takes`).

Pairs that are given one after another assign values to options, and the last value of
each option is the one that counts (`Assignment.ofPairs`).  An assignment of values that
are all taken tells the kind of the field, if no mandatory option is missing
(`Assignment.kind?`).
-/

namespace FullText

/-! ### The types of options -/

/-- The sets of words that options take their values from. -/
inductive Vocabulary where
  | algorithm
  | elementType
  | metric

/-- What the words of a vocabulary stand for. -/
@[reducible]
def Vocabulary.Value : Vocabulary → Type
  | .algorithm => VectorAlgorithm
  | .elementType => ElementType
  | .metric => DistanceMetric

/-- What a word stands for. -/
def Vocabulary.ofText? : (v : Vocabulary) → String → Option v.Value
  | .algorithm => VectorAlgorithm.ofText?
  | .elementType => ElementType.ofText?
  | .metric => DistanceMetric.ofText?

/-- What an option wants for a value. -/
inductive OptionType where
  | flag
  | number
  | count
  | text
  | character
  | phonetic
  | word (vocabulary : Vocabulary)

namespace OptionType

/-- What the values of a type are read as. -/
@[reducible]
def Value : OptionType → Type
  | .flag => Bool
  | .number => Binary64
  | .count => Nat
  | .text => String
  | .character => Char
  | .phonetic => Phonetic
  | .word v => v.Value

/-- What a value is read as, if it is one of the type. -/
def read? : (t : OptionType) → OptionValue → Option t.Value
  | .flag, .bool b => some b
  | .number, .number x => some x
  | .count, .number x => x.datum.toNat?.map fun n => min n GivenOption.maxCount
  | .text, .text s => some s
  | .character, .text s =>
    match s.toList with
    | [c] => some c
    | _ => none
  | .phonetic, .text s => Phonetic.ofCode? s
  | .word v, .text s => v.ofText? s
  | _, _ => none

/-- The error of a value that is not one of the type. -/
def error (t : OptionType) (g : GivenOption) : SchemaError :=
  match t, g.value with
  | .phonetic, .text s => .invalidPhonetic g.field s
  | .word _, .text s => .invalidOptionValue g.field g.option s
  | _, value => .invalidOptionValue g.field g.option value.shown

/-- The value of an option, or the error that it is not one of the type. -/
def readGiven (t : OptionType) (g : GivenOption) : Except SchemaError t.Value :=
  (t.read? g.value).elim (.error (t.error g)) .ok

end OptionType

/-! ### Reading a value -/

namespace GivenOption

variable (g : GivenOption)

theorem flag_eq :
  g.flag = OptionType.flag.readGiven g
  := by
  obtain ⟨field, option, value⟩ := g
  cases value <;> rfl

theorem number_eq :
  g.number = OptionType.number.readGiven g
  := by
  obtain ⟨field, option, value⟩ := g
  cases value <;> rfl

theorem text_eq :
  g.text = OptionType.text.readGiven g
  := by
  obtain ⟨field, option, value⟩ := g
  cases value <;> rfl

theorem count_eq :
  g.count = OptionType.count.readGiven g
  := by
  obtain ⟨field, option, value⟩ := g
  cases value with
  | number x =>
    simp only [count, OptionType.readGiven, OptionType.read?]
    cases x.datum.toNat? <;> rfl
  | bool b => rfl
  | text s => rfl

theorem character_eq :
  g.character = OptionType.character.readGiven g
  := by
  obtain ⟨field, option, value⟩ := g
  cases value with
  | text s =>
    simp only [character, OptionType.readGiven, OptionType.read?]
    generalize s.toList = cs
    rcases cs with _ | ⟨c, _ | ⟨d, cs⟩⟩ <;> rfl
  | bool b => rfl
  | number x => rfl

theorem phonetic_eq :
  g.text.bind (Phonetic.read g.field) = OptionType.phonetic.readGiven g
  := by
  obtain ⟨field, option, value⟩ := g
  cases value with
  | text s =>
    simp only [text, Except.bind, Phonetic.read, OptionType.readGiven, OptionType.read?]
    cases Phonetic.ofCode? s <;> rfl
  | bool b => rfl
  | number x => rfl

theorem named_eq (v : Vocabulary) :
  g.named v.ofText? = (OptionType.word v).readGiven g
  := by
  obtain ⟨field, option, value⟩ := g
  cases value with
  | text s =>
    simp only [named, text, bind, Except.bind, OptionType.readGiven, OptionType.read?]
    cases v.ofText? s <;> rfl
  | bool b => rfl
  | number x => rfl

end GivenOption

/-! ### The options of a field -/

/-- The type of an attribute. -/
def VectorAttribute.optionType : VectorAttribute → OptionType
  | .algorithm => .word .algorithm
  | .type => .word .elementType
  | .distanceMetric => .word .metric
  | .dim | .initialCap | .blockSize | .m | .efConstruction | .efRuntime => .count
  | .epsilon => .number

namespace FieldType

/-- The options that fields of a type have, and their types. -/
def optionType? : FieldType → OptionName → Option OptionType
  | _, .otherName => some .text
  | .text, .weight => some .number
  | .text, .noStem => some .flag
  | .text, .sortable => some .flag
  | .text, .noIndex => some .flag
  | .text, .phonetic => some .phonetic
  | .tag, .separator => some .character
  | .tag, .caseSensitive => some .flag
  | .tag, .sortable => some .flag
  | .tag, .noIndex => some .flag
  | .numeric, .sortable => some .flag
  | .numeric, .noIndex => some .flag
  | .geo, .noIndex => some .flag
  | .vector, .vector attr => some attr.optionType
  | _, _ => none

/-- The fault of a pair, if it is a bad one: its option is not one of the field, or its
value not one of the option. -/
def fault? (type : FieldType) (g : GivenOption) : Option SchemaError :=
  match (OptionName.ofText? g.option).bind type.optionType? with
  | some t => if (t.read? g.value).isSome then none else some (t.error g)
  | none => some (.unknownOption g.field type g.option)

theorem optionType?_otherName (type : FieldType) :
  type.optionType? .otherName = some .text
  := by
  cases type <;> rfl

end FieldType

namespace OptionName

theorem ofText?_text (name : OptionName) :
  ofText? name.text = some name
  := by
  cases name with
  | vector attr => cases attr <;> decide
  | _ => decide

theorem ofText?_eq_some_iff (s : String) (name : OptionName) :
  ofText? s = some name ↔ s = name.text
  := by
  constructor
  · intro h
    rw [ofText?] at h
    have htext := List.find?_some h
    apply (eq_of_beq htext).symm
  · rintro rfl
    apply ofText?_text

theorem text_inj {name name' : OptionName} :
  name.text = name'.text ↔ name = name'
  := by
  constructor
  · intro h
    rw [← ofText?_eq_some_iff, ofText?_text, Option.some_inj] at h
    apply h
  · apply congrArg

end OptionName

/-- The field has the option that the pair names, and the value is one of the option. -/
def FieldType.Takes (type : FieldType) (pair : String × OptionValue) : Prop :=
  ∃ name t, pair.1 = name.text ∧ type.optionType? name = some t ∧ (t.read? pair.2).isSome

theorem FieldType.fault?_eq_none_iff (type : FieldType) (field : String)
    (pair : String × OptionValue) :
  type.fault? ⟨field, pair.1, pair.2⟩ = none ↔ type.Takes pair
  := by
  rw [fault?, Takes]
  constructor
  · intro h
    split at h
    · rename_i t ht
      obtain ⟨name, hname, ht⟩ := Option.bind_eq_some_iff.mp ht
      rw [OptionName.ofText?_eq_some_iff] at hname
      split at h
      · rename_i hread
        exact ⟨name, t, hname, ht, hread⟩
      · cases h
    · cases h
  · rintro ⟨name, t, hname, ht, hread⟩
    rw [hname, OptionName.ofText?_text, Option.bind_some, ht]
    exact if_pos hread

/-! ### Assignments -/

/-- The values of options. -/
abbrev Assignment := OptionName → Option OptionValue

namespace Assignment

/-- The last value of each option. -/
def ofPairs (options : List (String × OptionValue)) : Assignment :=
  fun name => lastValue? name.text options

/-- What an option is set to, read as a value of its type. -/
def read? (given : Assignment) (t : OptionType) (name : OptionName) : Option t.Value :=
  (given name).bind t.read?

/-- Whether a flag is set. -/
def isSet (given : Assignment) (name : OptionName) : Bool :=
  (given.read? .flag name).getD false

/-- The options of a text field. -/
def textOptions (given : Assignment) : TextOptions where
  weight := given.read? .number .weight
  noStem := given.isSet .noStem
  sortable := given.isSet .sortable
  noIndex := given.isSet .noIndex
  phonetic := given.read? .phonetic .phonetic

/-- The options of a tag field. -/
def tagOptions (given : Assignment) : TagOptions where
  separator := given.read? .character .separator
  caseSensitive := given.isSet .caseSensitive
  sortable := given.isSet .sortable
  noIndex := given.isSet .noIndex

/-- The options of a numeric field. -/
def numericOptions (given : Assignment) : NumericOptions where
  sortable := given.isSet .sortable
  noIndex := given.isSet .noIndex

/-- The options of a geographic field. -/
def geoOptions (given : Assignment) : GeoOptions where
  noIndex := given.isSet .noIndex

/-- The options of a vector field, if the mandatory ones are set. -/
def vectorOptions? (given : Assignment) : Option VectorOptions := do
  let algorithm ← given.read? (.word .algorithm) (.vector .algorithm)
  let elementType ← given.read? (.word .elementType) (.vector .type)
  let dim ← given.read? .count (.vector .dim)
  let metric ← given.read? (.word .metric) (.vector .distanceMetric)
  return {
    algorithm, elementType, dim, metric,
    initialCap := given.read? .count (.vector .initialCap)
    blockSize := given.read? .count (.vector .blockSize)
    m := given.read? .count (.vector .m)
    efConstruction := given.read? .count (.vector .efConstruction)
    efRuntime := given.read? .count (.vector .efRuntime)
    epsilon := given.read? .number (.vector .epsilon) }

/-- The kind of a field of a type, with its options. -/
def kind? (given : Assignment) : FieldType → Option FieldKind
  | .text => some (.text given.textOptions)
  | .tag => some (.tag given.tagOptions)
  | .numeric => some (.numeric given.numericOptions)
  | .geo => some (.geo given.geoOptions)
  | .vector => given.vectorOptions?.map .vector

/-- The values of options after one more pair. -/
def put (given : Assignment) (g : GivenOption) : Assignment :=
  (OptionName.ofText? g.option).elim given fun name =>
    Function.update given name (some g.value)

theorem ofPairs_concat (options : List (String × OptionValue)) (pair : String × OptionValue)
    (field : String) :
  ofPairs (options ++ [pair]) = (ofPairs options).put ⟨field, pair.1, pair.2⟩
  := by
  obtain ⟨key, value⟩ := pair
  funext name
  rw [ofPairs, lastValue?_append, put]
  cases hkey : OptionName.ofText? key with
  | none =>
    have hne : key ≠ name.text := by
      intro h
      rw [(OptionName.ofText?_eq_some_iff key name).mpr h] at hkey
      cases hkey
    simp [lastValue?, hne, ofPairs]
  | some name' =>
    rw [(OptionName.ofText?_eq_some_iff key name').mp hkey]
    by_cases h : name' = name
    · subst h
      simp [lastValue?]
    · simp [lastValue?, OptionName.text_inj, h, Function.update_of_ne (Ne.symm h), ofPairs]

@[simp]
theorem read?_update (given : Assignment) (name name' : OptionName) (value : Option OptionValue)
    (t : OptionType) :
  read? (Function.update given name value) t name'
    = if name' = name then value.bind t.read? else given.read? t name'
  := by
  rw [read?, Function.update_apply]
  split
  · rfl
  · rfl

@[simp]
theorem isSet_update (given : Assignment) (name name' : OptionName) (value : Option OptionValue) :
  isSet (Function.update given name value) name'
    = if name' = name then (value.bind OptionType.flag.read?).getD false else given.isSet name'
  := by
  rw [isSet, read?_update]
  split
  · rfl
  · rfl

end Assignment

/-! ### Mandatory options -/

/-- The attributes that a field of a type has to have. -/
def FieldType.mandatory : FieldType → List VectorAttribute
  | .vector => [.algorithm, .type, .dim, .distanceMetric]
  | .text | .tag | .numeric | .geo => []

namespace Assignment

/-- The first mandatory attribute that is not set. -/
def missing? (given : Assignment) (type : FieldType) : Option VectorAttribute :=
  type.mandatory.find? fun attr => (given (.vector attr)).isNone

/-- Every value is one of its option. -/
def WellTyped (given : Assignment) (type : FieldType) : Prop :=
  ∀ name t value, type.optionType? name = some t → given name = some value →
    (t.read? value).isSome

theorem WellTyped.read?_eq_none_iff {given : Assignment} {type : FieldType}
    (h : given.WellTyped type) {name : OptionName} {t : OptionType}
    (ht : type.optionType? name = some t) :
  given.read? t name = none ↔ given name = none
  := by
  rw [read?]
  cases hgiven : given name with
  | none => simp
  | some value =>
    have hread := h name t value ht hgiven
    simp only [Option.bind_some, reduceCtorEq, iff_false]
    intro hnone
    rw [hnone] at hread
    cases hread

theorem WellTyped.missing?_vector {given : Assignment} (h : given.WellTyped .vector) :
  given.missing? .vector = FieldType.vector.mandatory.find? fun attr =>
    (given.read? attr.optionType (.vector attr)).isNone
  := by
  rw [missing?]
  congr
  funext attr
  rw [Bool.eq_iff_iff, Option.isNone_iff_eq_none, Option.isNone_iff_eq_none,
    h.read?_eq_none_iff rfl]

/-- Pairs that are taken leave values of their options. -/
theorem wellTyped_ofPairs {type : FieldType} {options : List (String × OptionValue)}
    (h : ∀ pair ∈ options, type.Takes pair) :
  (ofPairs options).WellTyped type
  := by
  intro name t value ht hgiven
  obtain ⟨name', t', hname, ht', hread⟩ := h _ (mem_of_lastValue? hgiven)
  obtain rfl := OptionName.text_inj.mp hname
  rw [ht, Option.some_inj] at ht'
  rw [ht']
  exact hread

theorem isNone_ofPairs (options : List (String × OptionValue)) (name : OptionName) :
  (ofPairs options name).isNone ↔ name.text ∉ options.map Prod.fst
  := by
  rw [Option.isNone_iff_eq_none, ofPairs, lastValue?_eq_none_iff]

theorem missing?_eq_none_iff (options : List (String × OptionValue)) (type : FieldType) :
  (ofPairs options).missing? type = none ↔
    ∀ a ∈ type.mandatory, (OptionName.vector a).text ∈ options.map Prod.fst
  := by
  simp only [missing?, List.find?_eq_none, isNone_ofPairs, not_not]

theorem missing?_eq_some_iff (options : List (String × OptionValue)) (type : FieldType)
    (attr : VectorAttribute) :
  (ofPairs options).missing? type = some attr ↔
    (OptionName.vector attr).text ∉ options.map Prod.fst ∧
      ∃ before after, type.mandatory = before ++ attr :: after ∧
        ∀ a ∈ before, (OptionName.vector a).text ∈ options.map Prod.fst
  := by
  simp only [missing?, List.find?_eq_some_iff_append, isNone_ofPairs, Bool.not_eq_true',
    ← Bool.not_eq_true, not_not]

end Assignment

end FullText
