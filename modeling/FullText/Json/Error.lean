import FullText.Json.Text

/-!
# Errors of JSON text

What can be wrong with a JSON text: its form, its end before a value is complete, or
the data in it.
-/

namespace FullText

/-- What a JSON text holds in a place that wants something else. -/
inductive Found where
  | null
  | bool (value : Bool)
  | integer (value : Int)
  | float (value : Binary64)
  | string (value : String)
  | sequence
  | map

/-- The words for what was found. -/
def Found.words : Found → String
  | .null => "null"
  | .bool value => "boolean `" ++ (if value then "true" else "false") ++ "`"
  | .integer value => "integer `" ++ toString value ++ "`"
  | .float value => "floating point `" ++ String.ofList (value.chars Json.doubleStyle) ++ "`"
  | .string value => "string " ++ quoted value
  | .sequence => "sequence"
  | .map => "map"

/-- Why a JSON text cannot be read. -/
inductive JsonError where
  | endInValue
  | endInList
  | endInObject
  | endInString
  | expectedColon
  | expectedListEnd
  | expectedObjectEnd
  | expectedWord
  | expectedValue
  | invalidEscape
  | invalidNumber
  | numberOutOfRange
  | controlCharacter
  | keyNotString
  | loneSurrogate
  | trailingComma
  | trailingCharacters
  | unfinishedSurrogate
  | nestedTooDeep
  | invalidType (found : Found) (expected : String)
  | invalidValue (found : Found) (expected : String)
  /-- `known` holds the two names that are known. -/
  | unknownVariant (name : String) (known : String × String)
  | duplicateField (name : String)

/-- The three families of errors. -/
inductive JsonError.Family where
  | form
  | data
  | ending

namespace JsonError

/-- The family of an error. -/
def family : JsonError → Family
  | .endInValue | .endInList | .endInObject | .endInString => .ending
  | .invalidType .. | .invalidValue .. | .unknownVariant .. | .duplicateField .. => .data
  | _ => .form

/-- The message of an error. -/
def message : JsonError → String
  | .endInValue => "EOF while parsing a value"
  | .endInList => "EOF while parsing a list"
  | .endInObject => "EOF while parsing an object"
  | .endInString => "EOF while parsing a string"
  | .expectedColon => "expected `:`"
  | .expectedListEnd => "expected `,` or `]`"
  | .expectedObjectEnd => "expected `,` or `\x7d`"
  | .expectedWord => "expected ident"
  | .expectedValue => "expected value"
  | .invalidEscape => "invalid escape"
  | .invalidNumber => "invalid number"
  | .numberOutOfRange => "number out of range"
  | .controlCharacter =>
    "control character (\\u0000-\\u001F) found while parsing a string"
  | .keyNotString => "key must be a string"
  | .loneSurrogate => "lone leading surrogate in hex escape"
  | .trailingComma => "trailing comma"
  | .trailingCharacters => "trailing characters"
  | .unfinishedSurrogate => "unexpected end of hex escape"
  | .nestedTooDeep => "recursion limit exceeded"
  | .invalidType found expected =>
    "invalid type: " ++ found.words ++ ", expected " ++ expected
  | .invalidValue found expected =>
    "invalid value: " ++ found.words ++ ", expected " ++ expected
  | .unknownVariant name (first, second) =>
    "unknown variant `" ++ name ++ "`, expected `" ++ first ++ "` or `" ++ second ++ "`"
  | .duplicateField name => "duplicate field `" ++ name ++ "`"

end JsonError

end FullText
