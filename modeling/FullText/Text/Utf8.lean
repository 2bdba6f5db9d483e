/-!
# Text in bytes

`lossyText` reads bytes as UTF-8 and puts U+FFFD for each ill-formed part: a part is
a byte that starts no character, or the longest beginning of a character that the
next byte does not continue.  The reader goes over the bytes once and keeps only
the character that is still open.
-/

namespace FullText

/-- A character whose last bytes are still to come. -/
structure OpenChar where
  /-- The bits read so far. -/
  value : Nat
  /-- The least next byte. -/
  low : UInt8
  /-- The greatest next byte. -/
  high : UInt8
  /-- How many bytes follow the next one. -/
  later : Nat

/-- What a byte at the start of a character gives: a finished part, `none` being an
ill-formed one, or an open character.  The bounds on the second byte leave out
overlong forms, surrogates and code points past U+10FFFF. -/
def leadByte (b : UInt8) : Option Char ⊕ OpenChar :=
  let n := b.toNat
  if n < 0x80 then .inl (some (Char.ofNat n))
  else if 0xC2 ≤ n ∧ n ≤ 0xDF then .inr ⟨n - 0xC0, 0x80, 0xBF, 0⟩
  else if n = 0xE0 then .inr ⟨0, 0xA0, 0xBF, 1⟩
  else if n = 0xED then .inr ⟨0xD, 0x80, 0x9F, 1⟩
  else if 0xE1 ≤ n ∧ n ≤ 0xEF then .inr ⟨n - 0xE0, 0x80, 0xBF, 1⟩
  else if n = 0xF0 then .inr ⟨0, 0x90, 0xBF, 2⟩
  else if 0xF1 ≤ n ∧ n ≤ 0xF3 then .inr ⟨n - 0xF0, 0x80, 0xBF, 2⟩
  else if n = 0xF4 then .inr ⟨4, 0x80, 0x8F, 2⟩
  else .inl none

/-- The characters and the ill-formed parts (`none`) of bytes, after an open
character if there is one. -/
def utf8Parts : Option OpenChar → List UInt8 → List (Option Char)
  | none, [] => []
  | some _, [] => [none]
  | pending, b :: bs =>
    let fresh (_ : Unit) : List (Option Char) :=
      match leadByte b with
      | .inl part => part :: utf8Parts none bs
      | .inr c => utf8Parts (some c) bs
    match pending with
    | none => fresh ()
    | some c =>
      if c.low ≤ b ∧ b ≤ c.high then
        let value := c.value * 64 + b.toNat % 64
        match c.later with
        | 0 => some (Char.ofNat value) :: utf8Parts none bs
        | later + 1 => utf8Parts (some ⟨value, 0x80, 0xBF, later⟩) bs
      else none :: fresh ()

/-- The text that bytes hold, with U+FFFD for each ill-formed part. -/
def lossyText (bytes : List UInt8) : String :=
  String.ofList ((utf8Parts none bytes).map fun part => part.getD '\uFFFD')

/-- The text that bytes hold, if they are well-formed throughout. -/
def text? (bytes : List UInt8) : Option String :=
  String.fromUTF8? ⟨bytes.toArray⟩

/-- The bytes of a text. -/
def textBytes (s : String) : List UInt8 :=
  s.toUTF8.data.toList

end FullText
