import FullText.Schema.Vector

/-!
# Schema errors

What can be wrong with the declaration of a field or a schema.
-/

namespace FullText

/-- The type of a field. -/
inductive FieldType where
  | text
  | tag
  | numeric
  | geo
  | vector
  deriving DecidableEq

/-- The keyword of a type. -/
def FieldType.keyword : FieldType → String
  | .text => "TEXT"
  | .tag => "TAG"
  | .numeric => "NUMERIC"
  | .geo => "GEO"
  | .vector => "VECTOR"

/-- The word for a type in a message. -/
def FieldType.word : FieldType → String
  | .text => "text"
  | .tag => "tag"
  | .numeric => "numeric"
  | .geo => "geo"
  | .vector => "vector"

/-- An error in a declaration. -/
inductive SchemaError where
  | emptyFieldName
  | unknownOption (field : String) (type : FieldType) (option : String)
  /-- `value` is the offending value as the message shows it. -/
  | invalidOptionValue (field option value : String)
  | invalidPhonetic (field matcher : String)
  | invalidVectorAttribute (field : String) (attr : VectorAttribute)
      (fault : AttributeFault)
  | duplicateField (name : String)
  deriving DecidableEq

/-- The message of an error. -/
def SchemaError.message : SchemaError → String
  | .emptyFieldName => "Field name must not be empty"
  | .unknownOption field type option =>
    "Unknown option '" ++ option ++ "' for " ++ type.word ++ " field '" ++ field ++ "'"
  | .invalidOptionValue field option value =>
    "Invalid value " ++ value ++ " for option '" ++ option ++ "' on field '" ++ field ++ "'"
  | .invalidPhonetic field matcher =>
    "Invalid phonetic matcher '" ++ matcher ++ "' on field '" ++ field ++
      "' (expected dm:en, dm:fr, dm:pt or dm:es)"
  | .invalidVectorAttribute field attr fault =>
    "Vector attribute '" ++ attr.keyword ++ "' is not valid for field '" ++ field ++
      "': " ++ fault.reason
  | .duplicateField name => "Field '" ++ name ++ "' is declared more than once"

end FullText
