import FullText.Number.Decimal

/-!
# Numerals

The grammar of numbers in text: an optional sign, then digits with an optional
point and an optional exponent, or `inf`, `infinity` or `nan` in any letter case.
A numeral is read as the nearest value of the wanted format, a tie going to the
even one, whatever the number of its digits.
-/

namespace FullText

/-! Powers are those of core arithmetic, whatever else is imported. -/

attribute [local instance (high)] instPowNat instNatPowNat Int.instNatPow

/-- A number as written. -/
inductive Numeral where
  | nan (negative : Bool)
  | infinite (negative : Bool)
  | decimal (negative : Bool) (value : Decimal)

/-- The number that a list of digits denotes, read after a number already read. -/
def digitsValue (cs : List Char) (start : Nat) : Nat :=
  cs.foldl (fun n c => 10 * n + (c.toNat - 48)) start

namespace Numeral

/-- An optional sign in front of a text, and the rest. -/
def splitSign : List Char → Bool × List Char
  | '-' :: cs => (true, cs)
  | '+' :: cs => (false, cs)
  | cs => (false, cs)

/-- The exponent that a text consists of; an empty text is exponent zero. -/
def exponent? : List Char → Option Int
  | [] => some 0
  | c :: cs =>
    if c = 'e' ∨ c = 'E' then
      let (negative, digits) := splitSign cs
      if digits ≠ [] ∧ digits.all Char.isDigit then
        let n : Int := digitsValue digits 0
        some (if negative then -n else n)
      else none
    else none

/-- The decimal that an unsigned text consists of: at least one digit before or
after the point. -/
def decimal? (cs : List Char) : Option Decimal :=
  let whole := cs.takeWhile Char.isDigit
  let rest := cs.dropWhile Char.isDigit
  let (fraction, tail) :=
    match rest with
    | '.' :: cs => (cs.takeWhile Char.isDigit, cs.dropWhile Char.isDigit)
    | _ => ([], rest)
  if whole = [] ∧ fraction = [] then none
  else
    (exponent? tail).map fun e =>
      ⟨digitsValue fraction (digitsValue whole 0), e - fraction.length⟩

/-- The numeral that a text consists of. -/
def read? (cs : List Char) : Option Numeral :=
  let (negative, body) := splitSign cs
  match decimal? body with
  | some d => some (.decimal negative d)
  | none =>
    let word := String.ofList (body.map Char.toLower)
    if word = "inf" ∨ word = "infinity" then some (.infinite negative)
    else if word = "nan" then some (.nan negative)
    else none

end Numeral

namespace BinaryFormat

/-- The unsigned pattern nearest to a decimal.  Orders of magnitude beyond
`2 ^ exponentBits` are out of the range of the format in either direction and are
settled without computing the power of ten. -/
def roundDecimal (f : BinaryFormat) (d : Decimal) : Nat :=
  if d.digits = 0 then 0
  else
    let order : Int := (Nat.toDigits 10 d.digits).length + d.exponent
    if 2 ^ f.exponentBits < order then f.infinity
    else if order < -2 ^ f.exponentBits then 0
    else f.roundQuotient (d.digits * 10 ^ d.exponent.toNat) (10 ^ (-d.exponent).toNat)

/-- The pattern of a numeral; NaN is the quiet one with an empty payload. -/
def ofNumeral (f : BinaryFormat) : Numeral → Nat
  | .nan negative => f.withSign negative (f.infinity + f.quietBit)
  | .infinite negative => f.withSign negative f.infinity
  | .decimal negative d => f.withSign negative (f.roundDecimal d)

end BinaryFormat

/-- The 64-bit value that a text denotes. -/
def Binary64.read? (s : String) : Option Binary64 :=
  (Numeral.read? s.toList).map fun n => ⟨UInt64.ofNat (BinaryFormat.double.ofNumeral n)⟩

/-- The 32-bit value that a text denotes. -/
def Binary32.read? (s : String) : Option Binary32 :=
  (Numeral.read? s.toList).map fun n => ⟨UInt32.ofNat (BinaryFormat.single.ofNumeral n)⟩

end FullText
