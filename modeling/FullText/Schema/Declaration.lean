import FullText.Schema.Field
import FullText.Text.Quoted

/-!
# Declarations by name

A field can be declared with its options as pairs of a name and a value, as they
come from a configuration.  Each kind of field knows its own option names, and each
option wants a value of one type; the first pair that does not fit ends the
declaration.
-/

namespace FullText

/-- The value of an option given by name. -/
inductive OptionValue where
  | bool (value : Bool)
  | number (value : Binary64)
  | text (value : String)
  deriving DecidableEq

namespace OptionValue

/-- An integer as the number nearest to it. -/
def ofInt (n : Int) : OptionValue :=
  .number (.ofInt n)

/-- The value as a message shows it. -/
def shown : OptionValue → String
  | .bool value => if value then "true" else "false"
  | .number value => value.text
  | .text value => quoted value

end OptionValue

/-- The names of options. -/
inductive OptionName where
  | otherName
  | weight
  | noStem
  | sortable
  | noIndex
  | phonetic
  | separator
  | caseSensitive
  | vector (attr : VectorAttribute)
  deriving DecidableEq

namespace OptionName

/-- An option name as it is written. -/
def text : OptionName → String
  | .otherName => "as"
  | .weight => "weight"
  | .noStem => "no_stem"
  | .sortable => "sortable"
  | .noIndex => "no_index"
  | .phonetic => "phonetic"
  | .separator => "separator"
  | .caseSensitive => "case_sensitive"
  | .vector a => String.ofList (a.keyword.toList.map Char.toLower)

/-- All option names. -/
def all : List OptionName :=
  [ .otherName, .weight, .noStem, .sortable, .noIndex, .phonetic, .separator, .caseSensitive,
    .vector .algorithm, .vector .type, .vector .dim, .vector .distanceMetric,
    .vector .initialCap, .vector .blockSize, .vector .m, .vector .efConstruction,
    .vector .efRuntime, .vector .epsilon ]

/-- The option of a name. -/
def ofText? (s : String) : Option OptionName :=
  all.find? fun name => name.text == s

end OptionName

/-- An option given for a field. -/
structure GivenOption where
  field : String
  option : String
  value : OptionValue

namespace GivenOption

/-- The error that the value is not one of the option. -/
def mismatch (g : GivenOption) : SchemaError :=
  .invalidOptionValue g.field g.option g.value.shown

/-- The value as a flag. -/
def flag (g : GivenOption) : Except SchemaError Bool :=
  match g.value with
  | .bool b => .ok b
  | _ => .error g.mismatch

/-- The value as a number. -/
def number (g : GivenOption) : Except SchemaError Binary64 :=
  match g.value with
  | .number x => .ok x
  | _ => .error g.mismatch

/-- The greatest count, which is 2^64 - 1. -/
def maxCount : Nat := 18446744073709551615

/-- The value as a count: a natural number, or the greatest count if it is above. -/
def count (g : GivenOption) : Except SchemaError Nat :=
  match g.value with
  | .number x =>
    match x.datum.toNat? with
    | some n => .ok (min n maxCount)
    | none => .error g.mismatch
  | _ => .error g.mismatch

/-- The value as a text. -/
def text (g : GivenOption) : Except SchemaError String :=
  match g.value with
  | .text s => .ok s
  | _ => .error g.mismatch

/-- The value as a single character. -/
def character (g : GivenOption) : Except SchemaError Char :=
  match g.value with
  | .text s =>
    match s.toList with
    | [c] => .ok c
    | _ => .error g.mismatch
  | _ => .error g.mismatch

/-- The value as a text that names something. -/
def named {α : Type} (g : GivenOption) (ofText? : String → Option α) :
    Except SchemaError α := do
  let s ← g.text
  match ofText? s with
  | some a => .ok a
  | none => .error (.invalidOptionValue g.field g.option s)

end GivenOption

/-- The options of a vector field while they are being given. -/
structure VectorDraft where
  algorithm : Option VectorAlgorithm := none
  elementType : Option ElementType := none
  dim : Option Nat := none
  metric : Option DistanceMetric := none
  initialCap : Option Nat := none
  blockSize : Option Nat := none
  m : Option Nat := none
  efConstruction : Option Nat := none
  efRuntime : Option Nat := none
  epsilon : Option Binary64 := none

namespace VectorDraft

/-- The draft with an attribute set. -/
def set (d : VectorDraft) (attr : VectorAttribute) (g : GivenOption) :
    Except SchemaError VectorDraft :=
  match attr with
  | .algorithm =>
    (g.named VectorAlgorithm.ofText?).map fun a => { d with algorithm := some a }
  | .type => (g.named ElementType.ofText?).map fun t => { d with elementType := some t }
  | .dim => g.count.map fun n => { d with dim := some n }
  | .distanceMetric =>
    (g.named DistanceMetric.ofText?).map fun metric => { d with metric := some metric }
  | .initialCap => g.count.map fun n => { d with initialCap := some n }
  | .blockSize => g.count.map fun n => { d with blockSize := some n }
  | .m => g.count.map fun n => { d with m := some n }
  | .efConstruction => g.count.map fun n => { d with efConstruction := some n }
  | .efRuntime => g.count.map fun n => { d with efRuntime := some n }
  | .epsilon => g.number.map fun x => { d with epsilon := some x }

/-- A mandatory attribute of a field. -/
def required {α : Type} (field : String) (attr : VectorAttribute) (value : Option α) :
    Except SchemaError α :=
  match value with
  | some a => .ok a
  | none => .error (.invalidVectorAttribute field attr .missing)

/-- The options, if the mandatory ones were given. -/
def finish (d : VectorDraft) (field : String) : Except SchemaError VectorOptions := do
  let algorithm ← required field .algorithm d.algorithm
  let elementType ← required field .type d.elementType
  let dim ← required field .dim d.dim
  let metric ← required field .distanceMetric d.metric
  return {
    algorithm, elementType, dim, metric,
    initialCap := d.initialCap
    blockSize := d.blockSize
    m := d.m
    efConstruction := d.efConstruction
    efRuntime := d.efRuntime
    epsilon := d.epsilon }

end VectorDraft

/-- The options of a field while they are being given. -/
inductive KindDraft where
  | text (options : TextOptions)
  | tag (options : TagOptions)
  | numeric (options : NumericOptions)
  | geo (options : GeoOptions)
  | vector (options : VectorDraft)

namespace KindDraft

/-- The draft of a type before any option is given. -/
def ofType : FieldType → KindDraft
  | .text => .text {}
  | .tag => .tag {}
  | .numeric => .numeric {}
  | .geo => .geo {}
  | .vector => .vector {}

/-- The type that a draft is of. -/
def type : KindDraft → FieldType
  | .text _ => .text
  | .tag _ => .tag
  | .numeric _ => .numeric
  | .geo _ => .geo
  | .vector _ => .vector

/-- The draft with an option set, if its kind knows the option. -/
def set (d : KindDraft) (name : Option OptionName) (g : GivenOption) :
    Except SchemaError KindDraft :=
  match d, name with
  | .text o, some .weight => g.number.map fun x => .text { o with weight := some x }
  | .text o, some .noStem => g.flag.map fun b => .text { o with noStem := b }
  | .text o, some .sortable => g.flag.map fun b => .text { o with sortable := b }
  | .text o, some .noIndex => g.flag.map fun b => .text { o with noIndex := b }
  | .text o, some .phonetic => do
    let matcher ← g.text
    let p ← Phonetic.read g.field matcher
    return .text { o with phonetic := some p }
  | .tag o, some .separator => g.character.map fun c => .tag { o with separator := some c }
  | .tag o, some .caseSensitive => g.flag.map fun b => .tag { o with caseSensitive := b }
  | .tag o, some .sortable => g.flag.map fun b => .tag { o with sortable := b }
  | .tag o, some .noIndex => g.flag.map fun b => .tag { o with noIndex := b }
  | .numeric o, some .sortable => g.flag.map fun b => .numeric { o with sortable := b }
  | .numeric o, some .noIndex => g.flag.map fun b => .numeric { o with noIndex := b }
  | .geo o, some .noIndex => g.flag.map fun b => .geo { o with noIndex := b }
  | .vector o, some (.vector a) => (o.set a g).map .vector
  | d, _ => .error (.unknownOption g.field d.type g.option)

/-- The kind that a draft ends as. -/
def finish (d : KindDraft) (field : String) : Except SchemaError FieldKind :=
  match d with
  | .text o => .ok (.text o)
  | .tag o => .ok (.tag o)
  | .numeric o => .ok (.numeric o)
  | .geo o => .ok (.geo o)
  | .vector o => (o.finish field).map .vector

end KindDraft

/-- A declaration while its options are being given: the alias and the options. -/
structure Draft where
  otherName : Option String := none
  kind : KindDraft

/-- The draft with an option set.  Every kind of field can have an alias. -/
def Draft.set (d : Draft) (g : GivenOption) : Except SchemaError Draft :=
  match OptionName.ofText? g.option with
  | some .otherName => g.text.map fun s => { d with otherName := some s }
  | name => (d.kind.set name g).map fun kind => { d with kind }

/-- The field with the given name, type and options, the later of two options of one
name counting. -/
def Field.declare (name : String) (type : FieldType) (options : List (String × OptionValue)) :
    Except SchemaError Field :=
  if name = "" then .error .emptyFieldName
  else do
    let start : Draft := { kind := .ofType type }
    let draft ← options.foldlM (fun d (option, value) => d.set ⟨name, option, value⟩) start
    let kind ← draft.kind.finish name
    let field ← Field.make name kind
    return match draft.otherName with
      | some otherName => field.withAlias otherName
      | none => field

end FullText
