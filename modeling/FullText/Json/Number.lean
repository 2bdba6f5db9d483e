import FullText.Json.Error
import FullText.Number.Numeral

/-!
# Numbers in JSON text

An integer that fits into 64 bits is kept as it is.  Every other number becomes a
64-bit binary value in two roundings: the leading digits, as many as fit into 64
bits, are rounded, and the result is multiplied or divided by a power of ten.  A
number too large for the format is an error.
-/

namespace FullText

/-! Powers are those of core arithmetic, whatever else is imported. -/

attribute [local instance (high)] instPowNat instNatPowNat Int.instNatPow

/-- A number as it is read. -/
inductive JsonNumber where
  | integer (value : Int)
  | float (value : Binary64)

namespace Binary64

/-- A finite value without its sign, as a quotient of natural numbers. -/
def fraction (x : Binary64) : Nat × Nat :=
  match x.datum with
  | .finite _ significand exponent =>
    (significand * 2 ^ exponent.toNat, 2 ^ (-exponent).toNat)
  | _ => (0, 1)

/-- The value nearest to the product of two finite values that are not negative. -/
def times (x y : Binary64) : Binary64 :=
  ofQuotient false (x.fraction.1 * y.fraction.1) (x.fraction.2 * y.fraction.2)

/-- The value nearest to the quotient of two finite values that are not negative. -/
def dividedBy (x y : Binary64) : Binary64 :=
  ofQuotient false (x.fraction.1 * y.fraction.2) (x.fraction.2 * y.fraction.1)

/-- The value nearest to a power of ten. -/
def powerOfTen (k : Nat) : Binary64 :=
  ofQuotient false (10 ^ k) 1

/-- A value divided by a power of ten, in steps of at most 308 orders.  A value below
2^64 is zero after two such steps. -/
def scaleDown (x : Binary64) (k : Nat) : Binary64 :=
  if k ≤ 308 then x.dividedBy (powerOfTen k)
  else if k ≤ 616 then (x.dividedBy (powerOfTen 308)).dividedBy (powerOfTen (k - 308))
  else ofQuotient false 0 1

/-- A value multiplied by a power of ten, if it stays finite. -/
def scaleUp? (x : Binary64) (k : Nat) : Option Binary64 :=
  if x.fraction.1 = 0 then some x
  else if k ≤ 308 then (some (x.times (powerOfTen k))).filter isFinite
  else none

/-- A value with a sign put on it. -/
def signed (negative : Bool) (x : Binary64) : Binary64 :=
  ofMagnitude negative x.bits.toNat

end Binary64

namespace Json

/-- What a significand stays below, which is 2^64. -/
def significandLimit : Nat := 18446744073709551616

/-- Add digits to a significand as long as it stays below the limit: the significand,
how many digits it took, and the text after them. -/
def absorb (n taken : Nat) : List Char → Nat × Nat × List Char
  | [] => (n, taken, [])
  | c :: cs =>
    if c.isDigit ∧ 10 * n + (c.toNat - 48) < significandLimit then
      absorb (10 * n + (c.toNat - 48)) (taken + 1) cs
    else (n, taken, c :: cs)

/-- The number `n * 10 ^ exponent` with a sign. -/
def scaled (negative : Bool) (n : Nat) (exponent : Int) : Except JsonError JsonNumber :=
  let x := Binary64.ofInt n
  if exponent < 0 then .ok (.float (.signed negative (x.scaleDown (-exponent).toNat)))
  else
    match x.scaleUp? exponent.toNat with
    | some y => .ok (.float (.signed negative y))
    | none => .error .numberOutOfRange

/-- The greatest exponent that is computed with; a greater one is out of range or
makes zero. -/
def exponentLimit : Nat := 2147483647

/-- The rest of a number after its `e`. -/
def readExponent (negative : Bool) (n : Nat) (exponent : Int) (cs : List Char) :
    Except JsonError (JsonNumber × List Char) :=
  let (down, cs) := Numeral.splitSign cs
  match cs with
  | [] => .error .endInValue
  | c :: _ =>
    if c.isDigit then
      let power := digitsValue (cs.takeWhile Char.isDigit) 0
      let rest := cs.dropWhile Char.isDigit
      if power ≤ exponentLimit then
        (scaled negative n (if down then exponent - power else exponent + power)).map (·, rest)
      else if n ≠ 0 ∧ ¬ down then .error .numberOutOfRange
      else .ok (.float (.signed negative (.ofInt 0)), rest)
    else .error .invalidNumber

/-- The rest of a number after the digits of its significand and, if it has one, its
point. -/
def readPower (negative : Bool) (n : Nat) (exponent : Int) (cs : List Char) :
    Except JsonError (JsonNumber × List Char) :=
  match cs with
  | 'e' :: cs | 'E' :: cs => readExponent negative n exponent cs
  | cs => (scaled negative n exponent).map (·, cs)

/-- The rest of a number after its point; digits that the significand cannot take are
dropped. -/
def readFraction (negative : Bool) (n : Nat) (exponent : Int) (cs : List Char) :
    Except JsonError (JsonNumber × List Char) :=
  match cs with
  | [] => .error .endInValue
  | c :: _ =>
    if c.isDigit then
      let (n, taken, rest) := absorb n 0 cs
      readPower negative n (exponent - taken) (rest.dropWhile Char.isDigit)
    else .error .invalidNumber

/-- The integer of a significand, if 64 bits can hold it.  Zero with a sign is not an
integer. -/
def wholeNumber (negative : Bool) (n : Nat) : JsonNumber :=
  if !negative then .integer n
  else if 1 ≤ n ∧ n ≤ 9223372036854775808 then .integer (-n)
  else .float (.signed true (.ofInt n))

/-- The rest of a number after its whole part, of which `dropped` digits are not in
the significand. -/
def readTail (negative : Bool) (n dropped : Nat) (cs : List Char) :
    Except JsonError (JsonNumber × List Char) :=
  match cs with
  | '.' :: cs => readFraction negative n dropped cs
  | 'e' :: cs | 'E' :: cs => readExponent negative n dropped cs
  | cs =>
    if dropped = 0 then .ok (wholeNumber negative n, cs)
    else (scaled negative n dropped).map (·, cs)

/-- A number after its sign. -/
def readNumber (negative : Bool) (cs : List Char) : Except JsonError (JsonNumber × List Char) :=
  match cs with
  | [] => .error .endInValue
  | '0' :: rest =>
    match rest with
    | c :: _ => if c.isDigit then .error .invalidNumber else readTail negative 0 0 rest
    | [] => readTail negative 0 0 rest
  | c :: _ =>
    if c.isDigit then
      let (n, _, rest) := absorb 0 0 cs
      readTail negative n (rest.takeWhile Char.isDigit).length (rest.dropWhile Char.isDigit)
    else .error .invalidNumber

end Json

/-- What a number is found to be in a place that wants something else. -/
def JsonNumber.found : JsonNumber → Found
  | .integer n => .integer n
  | .float x => .float x

end FullText
