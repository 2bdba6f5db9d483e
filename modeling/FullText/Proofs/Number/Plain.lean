import FullText.Number.Style
import Mathlib.Data.List.Basic

/-!
# The characters of a plain number

The plain text of a number is made of digits, a point, a minus sign and the letters
of `NaN` and `inf`.  So it holds no blank, bracket or parenthesis, and a query string
can put it between these without an escape (`Binary64.isPlainChar_of_mem_chars`).

Another style adds at most the letter and the sign of an exponent
(`Binary64.isNumberChar_of_mem_chars`), so no number is written like a keyword.
-/

namespace FullText

/-- Whether a character may stand in the plain text of a number. -/
def isPlainChar (c : Char) : Bool :=
  c.isDigit || ['.', '-', 'N', 'a', 'i', 'n', 'f'].contains c

theorem isPlainChar_of_isDigit {c : Char} (h : c.isDigit = true) :
  isPlainChar c = true
  := by
  rw [isPlainChar, h, Bool.true_or]

/-- The digits of a number are plain. -/
theorem isPlainChar_of_mem_toDigits {n : Nat} {c : Char} (h : c ∈ Nat.toDigits 10 n) :
  isPlainChar c = true
  := isPlainChar_of_isDigit (Nat.isDigit_of_mem_toDigits (by decide) (by decide) h)

/-- A run of zeros is plain. -/
theorem isPlainChar_of_mem_zeros {n : Nat} {c : Char} (h : c ∈ List.replicate n '0') :
  isPlainChar c = true
  := by
  rw [List.eq_of_mem_replicate h]
  decide

/-- The digits of a decimal with the point in its place are plain. -/
theorem Decimal.isPlainChar_of_mem_positionalText {d : Decimal} {pointZero : Bool} {c : Char}
    (h : c ∈ d.positionalText pointZero) :
  isPlainChar c = true
  := by
  rw [positionalText] at h
  split at h
  · rcases List.mem_cons.mp h with rfl | h
    · decide
    rcases List.mem_cons.mp h with rfl | h
    · decide
    rcases List.mem_append.mp h with h | h
    · apply isPlainChar_of_mem_zeros h
    · apply isPlainChar_of_mem_toDigits h
  split at h
  · rcases List.mem_append.mp h with h | h
    · rcases List.mem_append.mp h with h | h
      · apply isPlainChar_of_mem_toDigits h
      · apply isPlainChar_of_mem_zeros h
    · have hzero : ['.', '0'].all isPlainChar = true := by
        decide
      cases pointZero with
      | false => cases h
      | true => apply List.all_eq_true.mp hzero c h
  · rcases List.mem_append.mp h with h | h
    · apply isPlainChar_of_mem_toDigits (List.mem_of_mem_take h)
    rcases List.mem_cons.mp h with rfl | h
    · decide
    · apply isPlainChar_of_mem_toDigits (List.mem_of_mem_drop h)

/-- A text stays in a class of characters with a minus sign before it. -/
theorem forall_mem_signed {p : Char → Bool} (hsign : p '-' = true) {cs : List Char}
    (hcs : ∀ c ∈ cs, p c = true) (negative : Bool) :
  ∀ c ∈ if negative = true then '-' :: cs else cs, p c = true
  := by
  intro c h
  cases negative with
  | false => apply hcs c h
  | true =>
    rcases List.mem_cons.mp h with rfl | h
    · apply hsign
    · apply hcs c h

/-- The text of a number stays in a class of characters, if the decimals of its style and
the words for what is not finite do. -/
theorem Binary64.forall_mem_chars {p : Char → Bool} {style : NumberStyle}
    (hwords : ['-', 'N', 'a', 'i', 'n', 'f'].all p = true)
    (hdecimal : ∀ d : Decimal, ∀ c ∈ d.text style, p c = true) (x : Binary64) :
  ∀ c ∈ x.chars style, p c = true
  := by
  have hword {word : List Char} (hsub : word ⊆ ['-', 'N', 'a', 'i', 'n', 'f']) :
    ∀ c ∈ word, p c = true
    := fun c hc => List.all_eq_true.mp hwords c (hsub hc)
  have hsign : p '-' = true := hword (List.Subset.refl _) '-' List.mem_cons_self
  rw [chars]
  cases x.datum with
  | nan => apply hword (by decide : ['N', 'a', 'N'] ⊆ _)
  | infinite negative =>
    apply forall_mem_signed hsign
    apply hword
    decide
  | finite negative significand exponent =>
    apply forall_mem_signed hsign
    apply hdecimal

/-- Whether a character may stand in the text of a number of any style. -/
def isNumberChar (c : Char) : Bool :=
  isPlainChar c || c == 'e' || c == '+'

theorem isNumberChar_of_isPlainChar {c : Char} (h : isPlainChar c = true) :
  isNumberChar c = true
  := by
  rw [isNumberChar, h, Bool.true_or, Bool.true_or]

theorem isNumberChar_of_mem_toDigits {n : Nat} {c : Char} (h : c ∈ Nat.toDigits 10 n) :
  isNumberChar c = true
  := isNumberChar_of_isPlainChar (isPlainChar_of_mem_toDigits h)

/-- A mantissa holds digits, and a point after the first one. -/
theorem Decimal.isNumberChar_of_mem_scientificText {d : Decimal} {plusSign : Bool} {c : Char}
    (h : c ∈ d.scientificText plusSign) :
  isNumberChar c = true
  := by
  rw [scientificText] at h
  rcases List.mem_append.mp h with h | h
  · split at h
    · rename_i first second rest hdigits
      have hdigit (c : Char) (hc : c ∈ first :: second :: rest) : isNumberChar c = true := by
        rw [← hdigits] at hc
        apply isNumberChar_of_mem_toDigits hc
      rcases List.mem_cons.mp h with rfl | h
      · apply hdigit _ List.mem_cons_self
      rcases List.mem_cons.mp h with rfl | h
      · decide
      · apply hdigit c (List.mem_cons_of_mem first h)
    · apply isNumberChar_of_mem_toDigits h
  rcases List.mem_cons.mp h with rfl | h
  · decide
  rcases List.mem_append.mp h with h | h
  · split at h
    · rw [List.mem_singleton.mp h]
      decide
    split at h
    · rw [List.mem_singleton.mp h]
      decide
    · cases h
  · apply isNumberChar_of_mem_toDigits h

/-- The text of a number has no other characters in any style. -/
theorem Binary64.isNumberChar_of_mem_chars {x : Binary64} {style : NumberStyle} {c : Char}
    (h : c ∈ x.chars style) :
  isNumberChar c = true
  := by
  apply forall_mem_chars (by decide) _ x c h
  intro d c h
  rw [Decimal.text] at h
  split at h
  · apply isNumberChar_of_isPlainChar (Decimal.isPlainChar_of_mem_positionalText h)
  · apply Decimal.isNumberChar_of_mem_scientificText h

end FullText
