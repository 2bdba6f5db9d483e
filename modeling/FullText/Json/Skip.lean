import FullText.Json.Reader

/-!
# Skipping JSON text

The text after a value of which only the form counts.  Numbers may be of any size,
and the halves of escaped pairs need not match.
-/

namespace FullText

namespace Json

/-- The text after the exponent of a number, at the character after its `e`. -/
def skipExponent (cs : List Char) : Except JsonError (List Char) :=
  let digits :=
    match cs with
    | '+' :: cs | '-' :: cs => cs
    | cs => cs
  match digits with
  | c :: _ => if c.isDigit then .ok (digits.dropWhile Char.isDigit) else .error .invalidNumber
  | [] => .error .invalidNumber

/-- The text after the fraction of a number, at the character after its point. -/
def skipFraction (cs : List Char) : Except JsonError (List Char) :=
  match cs with
  | c :: _ =>
    if c.isDigit then
      match cs.dropWhile Char.isDigit with
      | 'e' :: cs | 'E' :: cs => skipExponent cs
      | cs => .ok cs
    else .error .invalidNumber
  | [] => .error .invalidNumber

/-- The text after a number, at the character after its sign. -/
def skipNumber (cs : List Char) : Except JsonError (List Char) :=
  let tail (cs : List Char) : Except JsonError (List Char) :=
    match cs with
    | '.' :: cs => skipFraction cs
    | 'e' :: cs | 'E' :: cs => skipExponent cs
    | cs => .ok cs
  match cs with
  | '0' :: rest =>
    match rest with
    | c :: _ => if c.isDigit then .error .invalidNumber else tail rest
    | [] => .ok []
  | c :: _ => if c.isDigit then tail (cs.dropWhile Char.isDigit) else .error .invalidNumber
  | [] => .error .invalidNumber

/-- The text after a value that is neither an array nor an object, at its first
character. -/
def skipScalar : List Char → Except JsonError (List Char)
  | [] => .error .endInValue
  | 'n' :: cs => readWord ['u', 'l', 'l'] cs
  | 't' :: cs => readWord ['r', 'u', 'e'] cs
  | 'f' :: cs => readWord ['a', 'l', 's', 'e'] cs
  | '-' :: cs => skipNumber cs
  | '"' :: cs => skipString cs
  | c :: cs => if c.isDigit then skipNumber (c :: cs) else .error .expectedValue

/-- The text after the name of a member and its colon. -/
def skipName (cs : List Char) : Except JsonError (List Char) :=
  match skipSpace cs with
  | [] => .error .endInObject
  | '"' :: cs => (skipString cs).bind readColon
  | _ => .error .keyNotString

mutual

/-- The text after a value. -/
def skipValue : Nat → List Char → Except JsonError (List Char)
  | 0, _ => .error .endInValue
  | steps + 1, cs =>
    match skipSpace cs with
    | '[' :: cs => skipItems steps true cs
    | '\x7b' :: cs => skipMembers steps true cs
    | cs => skipScalar cs

/-- The text after the items of an array and its end. -/
def skipItems : Nat → Bool → List Char → Except JsonError (List Char)
  | 0, _, _ => .error .endInList
  | steps + 1, first, cs =>
    match skipSpace cs with
    | [] => .error .endInList
    | ']' :: rest => .ok rest
    | c :: rest =>
      if first then (skipValue steps (c :: rest)).bind (skipItems steps false)
      else if c = ',' then (skipValue steps rest).bind (skipItems steps false)
      else .error .expectedListEnd

/-- The text after the members of an object and its end. -/
def skipMembers : Nat → Bool → List Char → Except JsonError (List Char)
  | 0, _, _ => .error .endInObject
  | steps + 1, first, cs =>
    match skipSpace cs with
    | [] => .error .endInObject
    | '\x7d' :: rest => .ok rest
    | c :: rest =>
      if first || c = ',' then do
        let cs ← skipName (if first then c :: rest else rest)
        let cs ← skipValue steps cs
        skipMembers steps false cs
      else .error .expectedObjectEnd

end

end Json

end FullText
