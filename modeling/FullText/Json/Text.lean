import FullText.Json.Value
import FullText.Number.Style
import FullText.Text.Quoted

/-!
# JSON text

`Json.text` writes a value without blanks.  In a string only the quote, the
backslash and the controls below U+0020 are escaped.
-/

namespace FullText

namespace Json

/-- 64-bit numbers are written positionally from 0.00001 up to sixteen digits before
the point; an integer keeps a point. -/
def doubleStyle : NumberStyle where
  positional := fun order => -5 ≤ order && order ≤ 15
  pointZero := true
  plusSign := true
  tie := .even

/-- 32-bit numbers are written positionally from 0.000001 up to thirteen digits
before the point; an integer keeps a point. -/
def singleStyle : NumberStyle where
  positional := fun order => -6 ≤ order && order ≤ 12
  pointZero := true
  plusSign := true
  tie := .even

/-- The digits of `n` in base sixteen on at least four places. -/
def hexPlaces (n : Nat) : List Char :=
  let digits := hexDigits n
  List.replicate (4 - digits.length) '0' ++ digits

/-- What stands for a character in a string. -/
def stringChar (c : Char) : List Char :=
  if c = '"' then ['\\', '"']
  else if c = '\\' then ['\\', '\\']
  else if c = '\x08' then ['\\', 'b']
  else if c = '\x0c' then ['\\', 'f']
  else if c = '\n' then ['\\', 'n']
  else if c = '\r' then ['\\', 'r']
  else if c = '\t' then ['\\', 't']
  else if c.toNat < 32 then '\\' :: 'u' :: hexPlaces c.toNat
  else [c]

/-- A string between quotes. -/
def stringText (s : String) : List Char :=
  '"' :: (s.toList.flatMap stringChar ++ ['"'])

mutual

/-- The text of a value. -/
def chars : Json → List Char
  | .null => "null".toList
  | .bool value => (if value then "true" else "false").toList
  | .integer value => (toString value).toList
  | .double value =>
    if value.datum.isFinite then value.chars doubleStyle else "null".toList
  | .single value =>
    if value.datum.isFinite then value.chars singleStyle else "null".toList
  | .string value => stringText value
  | .array items => '[' :: (List.intercalate [','] (itemChars items) ++ [']'])
  | .object members => '\x7b' :: (List.intercalate [','] (memberChars members) ++ ['\x7d'])

/-- The texts of the items of an array. -/
def itemChars : List Json → List (List Char)
  | [] => []
  | item :: items => item.chars :: itemChars items

/-- The texts of the members of an object. -/
def memberChars : List (String × Json) → List (List Char)
  | [] => []
  | (name, value) :: members => (stringText name ++ ':' :: value.chars) :: memberChars members

end

/-- The text of a value. -/
def text (j : Json) : String :=
  String.ofList j.chars

end Json

end FullText
