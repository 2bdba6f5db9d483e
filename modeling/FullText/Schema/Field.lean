import FullText.Schema.Error
import FullText.Wire.Arg

/-!
# Fields

A field of an index has a name, possibly an alias that queries use in its place,
and a kind with the options of that kind.  Every `Field` is usable: its name is not
empty, and its options have no fault.
-/

namespace FullText

/-- How a text field is matched by sound. -/
inductive Phonetic where
  | english
  | french
  | portuguese
  | spanish
  deriving DecidableEq

namespace Phonetic

/-- The name of a matcher. -/
def code : Phonetic → String
  | .english => "dm:en"
  | .french => "dm:fr"
  | .portuguese => "dm:pt"
  | .spanish => "dm:es"

/-- The matcher of a name. -/
def ofCode? (s : String) : Option Phonetic :=
  [english, french, portuguese, spanish].find? fun p => p.code == s

/-- The matcher of a name given for a field. -/
def read (field matcher : String) : Except SchemaError Phonetic :=
  match ofCode? matcher with
  | some p => .ok p
  | none => .error (.invalidPhonetic field matcher)

end Phonetic

/-- The options of a text field. -/
structure TextOptions where
  weight : Option Binary64 := none
  noStem : Bool := false
  sortable : Bool := false
  noIndex : Bool := false
  phonetic : Option Phonetic := none
  deriving DecidableEq

/-- The options of a tag field. -/
structure TagOptions where
  separator : Option Char := none
  caseSensitive : Bool := false
  sortable : Bool := false
  noIndex : Bool := false
  deriving DecidableEq

/-- The options of a numeric field. -/
structure NumericOptions where
  sortable : Bool := false
  noIndex : Bool := false
  deriving DecidableEq

/-- The options of a geographic field. -/
structure GeoOptions where
  noIndex : Bool := false
  deriving DecidableEq

/-- The kind of a field with the options of that kind. -/
inductive FieldKind where
  | text (options : TextOptions)
  | tag (options : TagOptions)
  | numeric (options : NumericOptions)
  | geo (options : GeoOptions)
  | vector (options : VectorOptions)
  deriving DecidableEq

/-- What is wrong with the options of a field. -/
inductive KindFault where
  /-- A weight that is negative, infinite or NaN. -/
  | weight (value : Binary64)
  | vector (attr : VectorAttribute) (fault : AttributeFault)

namespace FieldKind

/-- The type of a kind. -/
def type : FieldKind → FieldType
  | .text _ => .text
  | .tag _ => .tag
  | .numeric _ => .numeric
  | .geo _ => .geo
  | .vector _ => .vector

/-- The first fault of the options. -/
def fault? : FieldKind → Option KindFault
  | .text o =>
    match o.weight with
    | some w =>
      if w.datum.isFinite && !w.datum.isBelowZero then none else some (.weight w)
    | none => none
  | .vector o => o.fault?.map fun (attr, fault) => .vector attr fault
  | .tag _ | .numeric _ | .geo _ => none

end FieldKind

/-- The error that a fault is in a field. -/
def KindFault.error (field : String) : KindFault → SchemaError
  | .weight value => .invalidOptionValue field "weight" value.text
  | .vector attr fault => .invalidVectorAttribute field attr fault

/-- A field of an index. -/
structure Field where
  name : String
  /-- The name that queries use. -/
  otherName : Option String
  kind : FieldKind
  name_ne_empty : name ≠ ""
  fault_eq_none : kind.fault?.isNone
  deriving DecidableEq

namespace Field

/-- The field with the given name and kind, if both are usable. -/
def make (name : String) (kind : FieldKind) : Except SchemaError Field :=
  if hname : name = "" then .error .emptyFieldName
  else
    match hkind : kind.fault? with
    | some fault => .error (fault.error name)
    | none => .ok ⟨name, none, kind, hname, by rw [hkind]; rfl⟩

/-- The field under another name in queries. -/
def withAlias (f : Field) (otherName : String) : Field :=
  { f with otherName := some otherName }

/-- The name that queries use: the alias if there is one. -/
def queryName (f : Field) : String :=
  f.otherName.getD f.name

/-- The names that the field answers to. -/
def keys (f : Field) : List String :=
  f.name :: f.otherName.toList

/-- Whether the field is numeric. -/
def isNumeric (f : Field) : Bool :=
  f.kind.type == .numeric

end Field

/-! ### Clauses -/

/-- A weight keeps its point, and has an exponent from 10^16 up and below 0.0001. -/
def weightStyle : NumberStyle where
  positional := fun order => -4 ≤ order && order ≤ 15
  pointZero := true
  plusSign := false
  tie := .up

/-- A weight as an argument. -/
def weightArg (weight : Binary64) : Arg :=
  .text (String.ofList (weight.chars weightStyle))

namespace FieldKind

/-- The arguments of the options. -/
def optionArgs : FieldKind → List Arg
  | .text o =>
    Arg.option "WEIGHT" (o.weight.map weightArg) ++
    Arg.flag o.noStem "NOSTEM" ++
    Arg.flag o.sortable "SORTABLE" ++
    Arg.flag o.noIndex "NOINDEX" ++
    Arg.option "PHONETIC" (o.phonetic.map fun p => .text p.code)
  | .tag o =>
    Arg.option "SEPARATOR" (o.separator.map fun c => .text (String.singleton c)) ++
    Arg.flag o.caseSensitive "CASESENSITIVE" ++
    Arg.flag o.sortable "SORTABLE" ++
    Arg.flag o.noIndex "NOINDEX"
  | .numeric o =>
    Arg.flag o.sortable "SORTABLE" ++
    Arg.flag o.noIndex "NOINDEX"
  | .geo o => Arg.flag o.noIndex "NOINDEX"
  | .vector o =>
    .text o.algorithm.keyword :: .ofNat (2 * o.attributes.length) ::
      o.attributes.flatMap fun (attr, value) => [.text attr.keyword, .text value]

end FieldKind

/-- The schema clause of a field. -/
def Field.args (f : Field) : List Arg :=
  .text f.name :: (Arg.option "AS" (f.otherName.map .text) ++
    .text f.kind.type.keyword :: f.kind.optionArgs)

end FullText
