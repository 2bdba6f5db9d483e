import FullText.Text.Quoted
import FullText.Text.Utf8

/-!
# Replies

What a server answers to a command: a tree whose leaves are numbers, status lines
and byte strings.  A byte string is text when it is well-formed UTF-8.
-/

namespace FullText

/-- A decoded answer. -/
inductive Reply where
  | nil
  | integer (value : Int)
  /-- A status line such as `OK`. -/
  | status (line : String)
  /-- A byte string that is text. -/
  | bulk (text : String)
  /-- A byte string that is not text. -/
  | blob (bytes : List UInt8)
  | array (items : List Reply)

/-- The integer that a text denotes: digits after an optional sign, within 64 bits. -/
def readInteger? (s : String) : Option Int :=
  let (negative, digits) :=
    match s.toList with
    | '-' :: cs => (true, cs)
    | '+' :: cs => (false, cs)
    | cs => (false, cs)
  if digits = [] ∨ ¬ digits.all Char.isDigit then none
  else
    let size : Int := digits.foldl (fun n c => 10 * n + (c.toNat - 48)) 0
    let value := if negative then -size else size
    if -9223372036854775808 ≤ value ∧ value ≤ 9223372036854775807 then some value else none

namespace Reply

/-- The text of a status line or a byte string. -/
def text? : Reply → Option String
  | .status s | .bulk s => some s
  | _ => none

/-- The integer of a reply; a text that denotes one counts too. -/
def integer? : Reply → Option Int
  | .integer n => some n
  | .bulk s => readInteger? s
  | _ => none

/-- The items of an array. -/
def items? : Reply → Option (List Reply)
  | .array items => some items
  | _ => none

/-- Whether there is no value. -/
def isNil : Reply → Bool
  | .nil => true
  | _ => false

/-- The text of a reply that stands for a text: a status line, a byte string, of
which ill-formed parts are replaced, or an integer in decimal. -/
def asText? : Reply → Option String
  | .status s | .bulk s => some s
  | .integer n => some (toString n)
  | .blob bytes => some (lossyText bytes)
  | .nil | .array _ => none

/-- The reply that bytes make. -/
def ofBytes (bytes : List UInt8) : Reply :=
  match FullText.text? bytes with
  | some s => .bulk s
  | none => .blob bytes

mutual

/-- A reply as a message shows it. -/
def shown : Reply → String
  | .nil => "Nil"
  | .integer n => "Integer(" ++ toString n ++ ")"
  | .status s => "Status(" ++ quoted s ++ ")"
  | .bulk s => "Bulk(" ++ quoted s ++ ")"
  | .blob bytes =>
    "Blob([" ++ String.intercalate ", " (bytes.map fun b => toString b.toNat) ++ "])"
  | .array items => "Array([" ++ String.intercalate ", " (shownItems items) ++ "])"

/-- The items of an array as a message shows them. -/
def shownItems : List Reply → List String
  | [] => []
  | item :: items => item.shown :: shownItems items

end

end Reply

end FullText
