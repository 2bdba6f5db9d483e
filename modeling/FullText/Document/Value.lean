import FullText.Json.Text
import FullText.Number.Numeral
import FullText.Schema.Field
import FullText.Text.Blank
import FullText.Error

/-!
# Document values

The values that a document has for its fields, and their two stored forms: an
argument of a hash, and a member of a JSON document.
-/

namespace FullText

/-- The value of a field of a document. -/
inductive DocumentValue where
  | text (value : String)
  | number (value : Binary64)
  | tags (values : List String)
  | geo (longitude latitude : Binary64)
  | vector (values : List Binary32)

namespace DocumentValue

/-- An integer as the number nearest to it. -/
def ofInt (n : Int) : DocumentValue :=
  .number (.ofInt n)

/-- A position as text. -/
def geoText (longitude latitude : Binary64) : String :=
  longitude.text ++ "," ++ latitude.text

/-- The value as a message shows it. -/
def shown : DocumentValue → String
  | .text value => value
  | .number value => value.text
  | .tags values => String.intercalate "," values
  | .geo longitude latitude => geoText longitude latitude
  | .vector values => "<vector of " ++ toString values.length ++ ">"

/-- The finite number that a value is: a number, or a text that denotes one between
blanks. -/
def number? : DocumentValue → Option Binary64
  | .number value => if value.isFinite then some value else none
  | .text value =>
    (Binary64.read? (String.ofList (trimBlanks value.toList))).filter Binary64.isFinite
  | _ => none

/-- The error of writing a value to a field of the schema, if there is one: a numeric
field takes numbers alone. -/
def fault? (v : DocumentValue) (f : Field) : Option ValidationError :=
  if f.isNumeric && v.number?.isNone then some (.nonNumericValue f.name v.shown) else none

/-! ### Stored forms -/

/-- What stands between the tags of a field: the separator that it declares, else a
comma. -/
def tagSeparator (f : Option Field) : Char :=
  match f.map Field.kind with
  | some (.tag o) => o.separator.getD ','
  | _ => ','

/-- Whether vectors of a field are stored with 64-bit elements. -/
def isWide (f : Option Field) : Bool :=
  match f.map Field.kind with
  | some (.vector o) => o.elementType == .float64
  | _ => false

/-- The value as an argument of a hash.  `f` is the field of the schema, if the
schema has one of that name. -/
def hashArg (v : DocumentValue) (f : Option Field) : Arg :=
  match v with
  | .text value => .text value
  | .number value => .text value.text
  | .tags values => .text (String.intercalate (String.singleton (tagSeparator f)) values)
  | .geo longitude latitude => .text (geoText longitude latitude)
  | .vector values => .blob (if isWide f then wideVectorBlob values else vectorBlob values)

/-- The value as a member of a JSON document. -/
def toJson : DocumentValue → Json
  | .text value => .string value
  | .number value => .double value
  | .tags values => .texts values
  | .geo longitude latitude => .string (geoText longitude latitude)
  | .vector values => .ofList (fun x => .double x.widen) values

end DocumentValue

end FullText
