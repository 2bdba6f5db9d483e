/-!
# Binary interchange values

A binary format is given by the widths of its stored fraction and of its exponent
field.  `BinaryFormat.decode` says what a bit pattern stands for, and
`BinaryFormat.roundQuotient` is the pattern nearest to a quotient of natural
numbers, a tie going to the even pattern.  `Binary64` and `Binary32` are the
patterns of the two formats in use; every computation on them is exact arithmetic
on natural numbers followed by one rounding.
-/

namespace FullText

/-! Powers are those of core arithmetic, whatever else is imported. -/

attribute [local instance (high)] instPowNat instNatPowNat Int.instNatPow

/-- A binary interchange format: the widths of its stored fraction and of its
exponent field. -/
structure BinaryFormat where
  /-- Number of stored bits of the significand. -/
  fractionBits : Nat
  /-- Number of bits of the exponent field. -/
  exponentBits : Nat

/-- What a bit pattern stands for; a finite datum is
`significand * 2 ^ exponent`, negated when `negative` holds. -/
inductive Datum where
  | nan
  | infinite (negative : Bool)
  | finite (negative : Bool) (significand : Nat) (exponent : Int)
  deriving DecidableEq

/-- Whether a datum is a number other than the infinities. -/
def Datum.isFinite : Datum → Bool
  | .finite .. => true
  | _ => false

/-- Whether a datum lies strictly below zero; both zeros do not, nor does NaN. -/
def Datum.isBelowZero : Datum → Bool
  | .nan => false
  | .infinite negative => negative
  | .finite negative significand _ => negative && significand != 0

/-- The natural number that a datum denotes, if it denotes one. -/
def Datum.toNat? : Datum → Option Nat
  | .finite negative significand exponent =>
    if negative && significand != 0 then none
    else if significand % 2 ^ (-exponent).toNat = 0 then
      some (significand * 2 ^ exponent.toNat / 2 ^ (-exponent).toNat)
    else none
  | _ => none

namespace BinaryFormat

/-- The 32-bit format. -/
def single : BinaryFormat := ⟨23, 8⟩

/-- The 64-bit format. -/
def double : BinaryFormat := ⟨52, 11⟩

/-- The exponent of the least positive value, which is `2 ^ f.leastExponent`. -/
def leastExponent (f : BinaryFormat) : Int :=
  2 - 2 ^ (f.exponentBits - 1) - f.fractionBits

/-- The pattern of positive infinity; larger unsigned patterns are NaN. -/
def infinity (f : BinaryFormat) : Nat :=
  (2 ^ f.exponentBits - 1) * 2 ^ f.fractionBits

/-- The weight of the first fraction bit, which is set in a quiet NaN. -/
def quietBit (f : BinaryFormat) : Nat :=
  2 ^ (f.fractionBits - 1)

/-- The weight of the sign bit. -/
def signBit (f : BinaryFormat) : Nat :=
  2 ^ (f.exponentBits + f.fractionBits)

/-- The pattern of a magnitude with a sign put on it. -/
def withSign (f : BinaryFormat) (negative : Bool) (magnitude : Nat) : Nat :=
  if negative then f.signBit + magnitude else magnitude

/-- The datum of a pattern. -/
def decode (f : BinaryFormat) (pattern : Nat) : Datum :=
  let negative := decide (f.signBit ≤ pattern)
  let magnitude := pattern % f.signBit
  let field := magnitude / 2 ^ f.fractionBits
  let fraction := magnitude % 2 ^ f.fractionBits
  if f.infinity < magnitude then .nan
  else if magnitude = f.infinity then .infinite negative
  else if field = 0 then .finite negative fraction f.leastExponent
  else .finite negative (2 ^ f.fractionBits + fraction) (f.leastExponent + (field - 1 : Nat))

/-- The greatest `e` with `2 ^ e ≤ num / den`, for positive `num` and `den`. -/
def leadingExponent (num den : Nat) : Int :=
  let gap : Int := (num.log2 : Int) - den.log2
  if num * 2 ^ (-gap).toNat < den * 2 ^ gap.toNat then gap - 1 else gap

/-- The exponent of the last significand bit kept when `num / den` is rounded. -/
def lastPlace (f : BinaryFormat) (num den : Nat) : Int :=
  max f.leastExponent (leadingExponent num den - f.fractionBits)

/-- The integer nearest to `num / den`, a tie going to the even one. -/
def nearestEven (num den : Nat) : Nat :=
  let below := num / den
  let rest := num % den
  if den < 2 * rest || (2 * rest == den && below % 2 == 1) then below + 1 else below

/-- The unsigned pattern nearest to `num / den`, a tie going to the even one, and
infinity when the quotient is out of range.  A significand that rounds up to the
next power of two carries into the exponent field by itself. -/
def roundQuotient (f : BinaryFormat) (num den : Nat) : Nat :=
  if num = 0 then 0
  else
    let place := f.lastPlace num den
    let significand := nearestEven (num * 2 ^ (-place).toNat) (den * 2 ^ place.toNat)
    min f.infinity ((place - f.leastExponent).toNat * 2 ^ f.fractionBits + significand)

end BinaryFormat

/-- A value of the 64-bit format, as its bit pattern. -/
structure Binary64 where
  bits : UInt64
  deriving DecidableEq

/-- A value of the 32-bit format, as its bit pattern. -/
structure Binary32 where
  bits : UInt32
  deriving DecidableEq

namespace Binary32

/-- What the pattern stands for. -/
def datum (x : Binary32) : Datum :=
  BinaryFormat.single.decode x.bits.toNat

/-- The value with the given unsigned pattern and sign. -/
def ofMagnitude (negative : Bool) (magnitude : Nat) : Binary32 :=
  ⟨UInt32.ofNat (BinaryFormat.single.withSign negative magnitude)⟩

end Binary32

namespace Binary64

/-- What the pattern stands for. -/
def datum (x : Binary64) : Datum :=
  BinaryFormat.double.decode x.bits.toNat

/-- The value with the given unsigned pattern and sign. -/
def ofMagnitude (negative : Bool) (magnitude : Nat) : Binary64 :=
  ⟨UInt64.ofNat (BinaryFormat.double.withSign negative magnitude)⟩

/-- The value nearest to `num / den` with the given sign. -/
def ofQuotient (negative : Bool) (num den : Nat) : Binary64 :=
  ofMagnitude negative (BinaryFormat.double.roundQuotient num den)

/-- The value nearest to `significand * 2 ^ exponent` with the given sign. -/
def ofScaled (negative : Bool) (significand : Nat) (exponent : Int) : Binary64 :=
  ofQuotient negative (significand * 2 ^ exponent.toNat) (2 ^ (-exponent).toNat)

/-- The value nearest to an integer. -/
def ofInt (n : Int) : Binary64 :=
  ofQuotient (decide (n < 0)) n.natAbs 1

/-- Whether the value is a number other than the infinities. -/
def isFinite (x : Binary64) : Bool :=
  x.datum.isFinite

end Binary64

/-- The 64-bit value equal to a 32-bit one.  A NaN keeps its sign and its fraction,
moved to the top of the wider fraction, and becomes quiet. -/
def Binary32.widen (x : Binary32) : Binary64 :=
  let pattern := x.bits.toNat
  let negative := decide (BinaryFormat.single.signBit ≤ pattern)
  match x.datum with
  | .finite negative significand exponent => .ofScaled negative significand exponent
  | .infinite negative => .ofMagnitude negative BinaryFormat.double.infinity
  | .nan =>
    let payload := pattern % BinaryFormat.single.quietBit
    .ofMagnitude negative
      (BinaryFormat.double.infinity + BinaryFormat.double.quietBit +
        payload * (BinaryFormat.double.quietBit / BinaryFormat.single.quietBit))

end FullText
