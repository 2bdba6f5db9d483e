import FullText.Number.Binary
import FullText.Text.Utf8

/-!
# Command arguments

A command is a name and a list of positional arguments.  Nearly all arguments are
text; a vector goes as the little-endian bytes of its elements.
-/

namespace FullText

/-- One positional argument of a command. -/
inductive Arg where
  | text (s : String)
  | blob (bytes : List UInt8)
  deriving DecidableEq

namespace Arg

/-- A natural number in decimal. -/
def ofNat (n : Nat) : Arg :=
  .text (toString n)

/-- An integer in decimal. -/
def ofInt (n : Int) : Arg :=
  .text (toString n)

/-- The text of an argument that is not a blob. -/
def text? : Arg → Option String
  | .text s => some s
  | .blob _ => none

/-- The bytes of an argument on the wire. -/
def bytes : Arg → List UInt8
  | .text s => textBytes s
  | .blob bytes => bytes

/-- The argument as a message shows it: of a blob, the length alone. -/
def display : Arg → String
  | .text s => s
  | .blob bytes => "<blob " ++ toString bytes.length ++ " bytes>"

/-- Whether an argument is the given text; a blob never is. -/
def isText (a : Arg) (s : String) : Bool :=
  a.text? == some s

/-- Texts as arguments. -/
def ofTexts (texts : List String) : List Arg :=
  texts.map .text

/-- Texts as arguments, after their number. -/
def counted (texts : List String) : List Arg :=
  .ofNat texts.length :: ofTexts texts

/-- A keyword if a flag is set. -/
def flag (set : Bool) (keyword : String) : List Arg :=
  if set then [.text keyword] else []

/-- A keyword and its value if there is one. -/
def option (keyword : String) (value : Option Arg) : List Arg :=
  match value with
  | some v => [.text keyword, v]
  | none => []

end Arg

/-! ### Vectors -/

/-- The `width` lowest bytes of a number, lowest first. -/
def littleEndian : Nat → Nat → List UInt8
  | 0, _ => []
  | width + 1, n => UInt8.ofNat n :: littleEndian width (n / 256)

/-- The four bytes of a 32-bit value, lowest first. -/
def Binary32.bytes (x : Binary32) : List UInt8 :=
  littleEndian 4 x.bits.toNat

/-- The eight bytes of a 64-bit value, lowest first. -/
def Binary64.bytes (x : Binary64) : List UInt8 :=
  littleEndian 8 x.bits.toNat

/-- A vector as the bytes of its elements. -/
def vectorBlob (vector : List Binary32) : List UInt8 :=
  vector.flatMap Binary32.bytes

/-- A vector as the bytes of its elements, each widened to 64 bits. -/
def wideVectorBlob (vector : List Binary32) : List UInt8 :=
  vector.flatMap fun x => x.widen.bytes

end FullText
