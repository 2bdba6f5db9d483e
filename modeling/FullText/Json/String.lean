import FullText.Json.Error

/-!
# Strings in JSON text

Escapes stand for one character each; two of them in a row make a character beyond
U+FFFF.  In text that is only skipped, halves of such a pair need not match.
-/

namespace FullText

namespace Json

/-- The value of a hexadecimal digit. -/
def hexValue? (c : Char) : Option Nat :=
  if c.isDigit then some (c.toNat - 48)
  else if 'a' ≤ c ∧ c ≤ 'f' then some (c.toNat - 87)
  else if 'A' ≤ c ∧ c ≤ 'F' then some (c.toNat - 55)
  else none

/-- The number that the next four characters write in base sixteen. -/
def hexUnit (cs : List Char) : Except JsonError Nat :=
  if (String.ofList (cs.take 4)).utf8ByteSize < 4 then .error .endInString
  else
    match cs with
    | a :: b :: c :: d :: _ =>
      match hexValue? a, hexValue? b, hexValue? c, hexValue? d with
      | some a, some b, some c, some d => .ok (((a * 16 + b) * 16 + c) * 16 + d)
      | _, _, _, _ => .error .invalidEscape
    | _ => .error .invalidEscape

/-- Whether a unit is the first half of a pair. -/
def isHighSurrogate (n : Nat) : Bool :=
  0xD800 ≤ n && n ≤ 0xDBFF

/-- Whether a unit is the second half of a pair. -/
def isLowSurrogate (n : Nat) : Bool :=
  0xDC00 ≤ n && n ≤ 0xDFFF

/-- The character of an escape of a single letter. -/
def shortEscape? (c : Char) : Option Char :=
  [ ('"', '"'), ('\\', '\\'), ('/', '/'), ('b', '\x08'), ('f', '\x0c'), ('n', '\n'),
    ('r', '\r'), ('t', '\t') ].lookup c

/-- The second half of a pair, after the first half `high`: the character, and how
many characters of the text the whole escape takes after its backslash. -/
def readLowSurrogate (high : Nat) : List Char → Except JsonError (Char × Nat)
  | [] => .error .endInString
  | '\\' :: [] => .error .endInString
  | '\\' :: 'u' :: cs =>
    (hexUnit cs).bind fun low =>
      if isLowSurrogate low then
        .ok (Char.ofNat ((high - 0xD800) * 0x400 + (low - 0xDC00) + 0x10000), 11)
      else .error .loneSurrogate
  | _ => .error .unfinishedSurrogate

/-- The escape after a backslash: its character, and how many characters of the text
it takes. -/
def readEscape : List Char → Except JsonError (Char × Nat)
  | [] => .error .endInString
  | 'u' :: cs =>
    (hexUnit cs).bind fun n =>
      if isLowSurrogate n then .error .loneSurrogate
      else if isHighSurrogate n then readLowSurrogate n (cs.drop 4)
      else .ok (Char.ofNat n, 5)
  | c :: _ =>
    match shortEscape? c with
    | some e => .ok (e, 1)
    | none => .error .invalidEscape

/-- The characters up to the closing quote, and the text after it. -/
def readString : List Char → Except JsonError (List Char × List Char)
  | [] => .error .endInString
  | c :: cs =>
    if c = '"' then .ok ([], cs)
    else if c = '\\' then
      match readEscape cs with
      | .error e => .error e
      | .ok (e, taken) => (readString (cs.drop taken)).map fun (s, rest) => (e :: s, rest)
    else if c.toNat < 32 then .error .controlCharacter
    else (readString cs).map fun (s, rest) => (c :: s, rest)
termination_by cs => cs.length
decreasing_by all_goals simp only [List.length_cons, List.length_drop]; omega

/-- How many characters an escape takes after its backslash, its meaning aside. -/
def skipEscape : List Char → Except JsonError Nat
  | [] => .error .endInString
  | 'u' :: cs => (hexUnit cs).map fun _ => 5
  | c :: _ => if (shortEscape? c).isSome then .ok 1 else .error .invalidEscape

/-- The text after the closing quote. -/
def skipString : List Char → Except JsonError (List Char)
  | [] => .error .endInString
  | c :: cs =>
    if c = '"' then .ok cs
    else if c = '\\' then
      match skipEscape cs with
      | .error e => .error e
      | .ok taken => skipString (cs.drop taken)
    else if c.toNat < 32 then .error .controlCharacter
    else skipString cs
termination_by cs => cs.length
decreasing_by all_goals simp only [List.length_cons, List.length_drop]; omega

end Json

end FullText
