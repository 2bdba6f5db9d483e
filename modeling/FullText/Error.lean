import FullText.Schema.Error
import FullText.Wire.Channel

/-!
# Errors of an index

An operation on an index fails for one of four reasons: a declaration is wrong, the
input cannot be used, the channel has no reply, or the reply has not the shape that
the command calls for.
-/

namespace FullText

/-- Why input is refused before a command is sent, or a schema by the server. -/
inductive ValidationError where
  /-- `value` is the value as text. -/
  | nonNumericValue (field value : String)
  | emptySchema
  | invalidSchema (index message : String)
  deriving DecidableEq

/-- The message of an error. -/
def ValidationError.message : ValidationError → String
  | .nonNumericValue field value =>
    "Field '" ++ field ++ "' is numeric but got non-numeric value " ++ quoted value
  | .emptySchema => "Schema must declare at least one field"
  | .invalidSchema index message =>
    "Schema rejected for index '" ++ index ++ "': " ++ message

/-- What a place of a reply should hold. -/
inductive Expected where
  | resultArray
  | resultCount
  | documentId
  | documentScore
  | numericScore
  | documentPayload
  | fieldArray
  | evenFields
  | fieldName
  | fieldValue
  | integer
  | string
  | infoArray
  | tagArray
  deriving DecidableEq

/-- The words for what a place should hold. -/
def Expected.words : Expected → String
  | .resultArray => "search result array"
  | .resultCount => "result count"
  | .documentId => "document id"
  | .documentScore => "document score"
  | .numericScore => "numeric score"
  | .documentPayload => "document payload"
  | .fieldArray => "field array"
  | .evenFields => "even field/value list"
  | .fieldName => "field name"
  | .fieldValue => "field value"
  | .integer => "integer"
  | .string => "string"
  | .infoArray => "info array"
  | .tagArray => "tag value array"

/-- What a place of a reply holds instead. -/
inductive Actual where
  | reply (reply : Reply)
  | endOfReply
  | emptyArray
  | notAnArray
  | length (n : Nat)

/-- What a place holds, as a message shows it. -/
def Actual.shown : Actual → String
  | .reply r => r.shown
  | .endOfReply => quoted "end of reply"
  | .emptyArray => quoted "empty array"
  | .notAnArray => quoted "non-array reply"
  | .length n => toString n

/-- Why an operation on an index fails. -/
inductive SearchError where
  | schema (error : SchemaError)
  | validation (error : ValidationError)
  | channel (error : ChannelError)
  | unexpectedReply (expected : Expected) (actual : Actual)

/-- The message of an error. -/
def SearchError.message : SearchError → String
  | .schema error => error.message
  | .validation error => error.message
  | .channel error => error.message
  | .unexpectedReply expected actual =>
    "Unexpected reply: expected " ++ expected.words ++ ", got " ++ actual.shown

end FullText
