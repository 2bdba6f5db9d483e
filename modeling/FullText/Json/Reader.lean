import FullText.Json.Number
import FullText.Json.String

/-!
# Reading JSON text

`Json.read` is the value that a text consists of.  The functions below it read one
part of a text each and give the text after the part; they are shared with readers
of values whose form is known.

Values may be nested 127 deep.  A value that is only skipped has no such bound.
-/

namespace FullText

namespace Json

/-- Whether a character may stand between the parts of a text. -/
def isSpace (c : Char) : Bool :=
  c == ' ' || c == '\n' || c == '\t' || c == '\r'

/-- A text without the space at its beginning. -/
def skipSpace (cs : List Char) : List Char :=
  cs.dropWhile isSpace

/-- The text after a word that has to stand here. -/
def readWord : List Char → List Char → Except JsonError (List Char)
  | [], cs => .ok cs
  | _ :: _, [] => .error .endInValue
  | w :: word, c :: cs => if c = w then readWord word cs else .error .expectedWord

/-- The value of a number. -/
def ofNumber : JsonNumber → Json
  | .integer n => .integer n
  | .float x => .double x

/-- A value that is neither an array nor an object, at its first character. -/
def readScalar : List Char → Except JsonError (Json × List Char)
  | [] => .error .endInValue
  | 'n' :: cs => (readWord ['u', 'l', 'l'] cs).map (.null, ·)
  | 't' :: cs => (readWord ['r', 'u', 'e'] cs).map (.bool true, ·)
  | 'f' :: cs => (readWord ['a', 'l', 's', 'e'] cs).map (.bool false, ·)
  | '-' :: cs => (readNumber true cs).map fun (n, rest) => (ofNumber n, rest)
  | '"' :: cs => (readString cs).map fun (s, rest) => (.string (String.ofList s), rest)
  | c :: cs =>
    if c.isDigit then (readNumber false (c :: cs)).map fun (n, rest) => (ofNumber n, rest)
    else .error .expectedValue

/-! ### Arrays and objects -/

/-- The beginning of the next item of an array, or none at its end. -/
def nextItem (first : Bool) (cs : List Char) : Except JsonError (Option (List Char)) :=
  match skipSpace cs with
  | [] => .error .endInList
  | ']' :: _ => .ok none
  | c :: rest =>
    if first then .ok (some (c :: rest))
    else if c = ',' then
      match skipSpace rest with
      | [] => .error .endInValue
      | ']' :: _ => .error .trailingComma
      | item => .ok (some item)
    else .error .expectedListEnd

/-- The text after the end of an array. -/
def endList (cs : List Char) : Except JsonError (List Char) :=
  match skipSpace cs with
  | [] => .error .endInList
  | ']' :: rest => .ok rest
  | ',' :: rest =>
    match skipSpace rest with
    | ']' :: _ => .error .trailingComma
    | _ => .error .trailingCharacters
  | _ => .error .trailingCharacters

/-- The name of the next member of an object and the text after it, or none at the end
of the object. -/
def nextName (first : Bool) (cs : List Char) :
    Except JsonError (Option (String × List Char)) :=
  let name (cs : List Char) : Except JsonError (Option (String × List Char)) :=
    (readString cs).map fun (s, rest) => some (String.ofList s, rest)
  match skipSpace cs with
  | [] => .error .endInObject
  | '\x7d' :: _ => .ok none
  | c :: rest =>
    if first then
      if c = '"' then name rest else .error .keyNotString
    else if c = ',' then
      match skipSpace rest with
      | [] => .error .endInValue
      | '"' :: cs => name cs
      | '\x7d' :: _ => .error .trailingComma
      | _ => .error .keyNotString
    else .error .expectedObjectEnd

/-- The text after the colon between a name and its value. -/
def readColon (cs : List Char) : Except JsonError (List Char) :=
  match skipSpace cs with
  | [] => .error .endInObject
  | ':' :: rest => .ok rest
  | _ => .error .expectedColon

/-- The text after the end of an object. -/
def endObject (cs : List Char) : Except JsonError (List Char) :=
  match skipSpace cs with
  | [] => .error .endInObject
  | '\x7d' :: rest => .ok rest
  | ',' :: _ => .error .trailingComma
  | _ => .error .trailingCharacters

/-- The number of steps that reading a text takes at most: two for each character,
one to begin a value and one to go on in the array or object around it. -/
def stepBound (cs : List Char) : Nat :=
  2 * cs.length + 2

/-- How many arrays and objects may be open at once, and one more. -/
def depthLimit : Nat := 128

mutual

/-- A value. -/
def readValue : Nat → Nat → List Char → Except JsonError (Json × List Char)
  | 0, _, _ => .error .endInValue
  | steps + 1, depth, cs =>
    match skipSpace cs with
    | '[' :: cs =>
      if depth ≤ 1 then .error .nestedTooDeep
      else do
        let (items, cs) ← readItems steps (depth - 1) true cs
        let cs ← endList cs
        return (.array items, cs)
    | '\x7b' :: cs =>
      if depth ≤ 1 then .error .nestedTooDeep
      else do
        let (members, cs) ← readMembers steps (depth - 1) true cs
        let cs ← endObject cs
        return (sortedObject members, cs)
    | cs => readScalar cs

/-- The items of an array. -/
def readItems : Nat → Nat → Bool → List Char → Except JsonError (List Json × List Char)
  | 0, _, _, _ => .error .endInList
  | steps + 1, depth, first, cs => do
    match ← nextItem first cs with
    | none => return ([], cs)
    | some cs =>
      let (item, cs) ← readValue steps depth cs
      let (items, cs) ← readItems steps depth false cs
      return (item :: items, cs)

/-- The members of an object. -/
def readMembers :
    Nat → Nat → Bool → List Char → Except JsonError (List (String × Json) × List Char)
  | 0, _, _, _ => .error .endInObject
  | steps + 1, depth, first, cs => do
    match ← nextName first cs with
    | none => return ([], cs)
    | some (name, cs) =>
      let cs ← readColon cs
      let (value, cs) ← readValue steps depth cs
      let (members, cs) ← readMembers steps depth false cs
      return ((name, value) :: members, cs)

end

/-- Nothing but space may follow a value. -/
def endText (cs : List Char) : Except JsonError Unit :=
  match skipSpace cs with
  | [] => .ok ()
  | _ => .error .trailingCharacters

/-- The value that a text consists of.  The members of its objects stand in ascending
order, and of several members of one name the last counts. -/
def read (s : String) : Except JsonError Json := do
  let (value, rest) ← readValue (stepBound s.toList) depthLimit s.toList
  endText rest
  return value

end Json

end FullText
