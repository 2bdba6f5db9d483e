import FullText.Number.Decimal

/-!
# Number styles

How the digits of a binary value are laid out.  A style decides which orders of
magnitude are written positionally, whether an integer keeps a point, how an
exponent is signed, and how a tie between two shortest decimals is broken.
`NumberStyle.plain` is the style of query strings, command arguments and messages.
-/

namespace FullText

/-- The decisions of a layout. -/
structure NumberStyle where
  /-- The orders of magnitude (exponents of the leading digit) that are written
  positionally; the others get an exponent. -/
  positional : Int → Bool
  /-- Whether an integer written positionally ends in `.0`. -/
  pointZero : Bool
  /-- Whether a positive exponent carries its sign. -/
  plusSign : Bool
  tie : Tie

/-- Every magnitude in full, an integer without a point. -/
def NumberStyle.plain : NumberStyle where
  positional := fun _ => true
  pointZero := false
  plusSign := false
  tie := .up

namespace Decimal

/-- The exponent of the leading digit. -/
def order (d : Decimal) : Int :=
  (Nat.toDigits 10 d.digits).length + d.exponent - 1

/-- The digits with the point in its place. -/
def positionalText (d : Decimal) (pointZero : Bool) : List Char :=
  let digits := Nat.toDigits 10 d.digits
  let point : Int := digits.length + d.exponent
  if point ≤ 0 then
    '0' :: '.' :: (List.replicate (-point).toNat '0' ++ digits)
  else if 0 ≤ d.exponent then
    digits ++ List.replicate d.exponent.toNat '0' ++ (if pointZero then ['.', '0'] else [])
  else
    digits.take point.toNat ++ '.' :: digits.drop point.toNat

/-- The digits with the point after the first one, and the exponent. -/
def scientificText (d : Decimal) (plusSign : Bool) : List Char :=
  let mantissa :=
    match Nat.toDigits 10 d.digits with
    | first :: second :: rest => first :: '.' :: second :: rest
    | digits => digits
  let sign := if d.order < 0 then ['-'] else if plusSign then ['+'] else []
  mantissa ++ 'e' :: (sign ++ Nat.toDigits 10 d.order.natAbs)

/-- The text of a decimal in a style. -/
def text (d : Decimal) (style : NumberStyle) : List Char :=
  if style.positional d.order then d.positionalText style.pointZero
  else d.scientificText style.plusSign

end Decimal

/-- The text of a datum: the shortest decimal that rounds to it, after its sign;
`NaN`, which has no sign, and `inf`. -/
def Datum.text (d : Datum) (f : BinaryFormat) (style : NumberStyle) : List Char :=
  let signed (negative : Bool) (cs : List Char) : List Char := if negative then '-' :: cs else cs
  match d with
  | .nan => ['N', 'a', 'N']
  | .infinite negative => signed negative ['i', 'n', 'f']
  | .finite negative significand exponent =>
    signed negative ((f.shortest style.tie significand exponent).text style)

/-- The text of a 64-bit value in a style. -/
def Binary64.chars (x : Binary64) (style : NumberStyle) : List Char :=
  x.datum.text .double style

/-- The text of a 32-bit value in a style. -/
def Binary32.chars (x : Binary32) (style : NumberStyle) : List Char :=
  x.datum.text .single style

/-- The plain text of a 64-bit value. -/
def Binary64.text (x : Binary64) : String :=
  String.ofList (x.chars .plain)

end FullText
