import FullText.Number.Binary

/-!
# Shortest decimals

Of the decimals that round to a given binary value, `BinaryFormat.shortest` is one
with the fewest digits, and among those the nearest to the value; where two are
equally near, the caller says which is taken.

The reals that round to `c * 2 ^ q` form an interval around it, whose ends belong
to it exactly when `c` is even.  For each power of ten, coarsest first, the only
multiples that can lie in the interval and be nearest are the two neighbours of
the value, so the search tests these two in exact arithmetic.
-/

namespace FullText

/-! Powers are those of core arithmetic, whatever else is imported. -/

attribute [local instance (high)] instPowNat instNatPowNat Int.instNatPow

/-- The number `digits * 10 ^ exponent`. -/
structure Decimal where
  digits : Nat
  exponent : Int
  deriving DecidableEq

/-- Which of two equally near decimals is taken. -/
inductive Tie where
  /-- The one whose last digit is even. -/
  | even
  /-- The larger one. -/
  | up
  deriving DecidableEq

/-- The reals that round to a binary value.  The value and the two ends are
multiples of `2 ^ place`. -/
structure RoundingSpan where
  lower : Nat
  centre : Nat
  upper : Nat
  /-- Whether the ends belong to the interval. -/
  closed : Bool
  place : Int

/-- The interval of `significand * 2 ^ exponent`.  Below the least significand of a
binade the neighbour is half as far away. -/
def BinaryFormat.span (f : BinaryFormat) (significand : Nat) (exponent : Int) :
    RoundingSpan where
  lower :=
    if significand = 2 ^ f.fractionBits ∧ f.leastExponent < exponent then 4 * significand - 1
    else 4 * significand - 2
  centre := 4 * significand
  upper := 4 * significand + 2
  closed := significand % 2 == 0
  place := exponent - 2

namespace RoundingSpan

/-- Whether the interval holds `point / unit` (in units of `2 ^ place`). -/
def holds (s : RoundingSpan) (point unit : Nat) : Bool :=
  if s.closed then decide (s.lower * unit ≤ point) && decide (point ≤ s.upper * unit)
  else decide (s.lower * unit < point) && decide (point < s.upper * unit)

/-- The multiple of `10 ^ k` nearest to the value, if it rounds to the value. -/
def multiple? (s : RoundingSpan) (tie : Tie) (k : Int) : Option Decimal :=
  let grid := 10 ^ k.toNat * 2 ^ (-s.place).toNat
  let unit := 2 ^ s.place.toNat * 10 ^ (-k).toNat
  let below := s.centre * unit / grid
  let nearest :=
    match compare (2 * s.centre * unit) ((2 * below + 1) * grid), tie with
    | .lt, _ => below
    | .gt, _ => below + 1
    | .eq, .up => below + 1
    | .eq, .even => below + below % 2
  match s.holds (below * grid) unit, s.holds ((below + 1) * grid) unit with
  | true, true => some ⟨nearest, k⟩
  | true, false => some ⟨below, k⟩
  | false, true => some ⟨below + 1, k⟩
  | false, false => none

/-- The value itself in decimal. -/
def exact (s : RoundingSpan) : Decimal :=
  if s.place < 0 then ⟨s.centre * 5 ^ (-s.place).toNat, s.place⟩
  else ⟨s.centre * 2 ^ s.place.toNat, 0⟩

/-- The first hit on the grids of `10 ^ k`, `10 ^ (k - 1)` and so on; the exact
value when the given number of grids has none. -/
def search (s : RoundingSpan) (tie : Tie) : Nat → Int → Decimal
  | 0, _ => s.exact
  | grids + 1, k =>
    match s.multiple? tie k with
    | some d => d
    | none => s.search tie grids (k - 1)

/-- A power of ten above the value, and at most three orders above it: the binary
order of magnitude times the decimal logarithm of two. -/
def topPower (s : RoundingSpan) : Int :=
  ((s.centre.log2 : Int) + s.place + 1) * 30103 / 100000 + 2

end RoundingSpan

/-- The shortest decimal that rounds to `significand * 2 ^ exponent`.  Seventeen
significant digits always suffice, hence the twenty grids. -/
def BinaryFormat.shortest (f : BinaryFormat) (tie : Tie) (significand : Nat) (exponent : Int) :
    Decimal :=
  if significand = 0 then ⟨0, 0⟩
  else
    let s := f.span significand exponent
    s.search tie 20 s.topPower

end FullText
