import FullText.Query.Text
import FullText.Proofs.Text.Unescape
import Mathlib.Data.Bool.AllAny

/-!
# Separators in tokens

A tag, or the term of a pattern, is meant to stay one token, whatever characters it has:
each blank and each punctuation mark of ASCII but the underscore would split it, and has
to stand after a backslash of its own.  `glyphs` reads an escaped text as characters of
which it is known whether such a backslash precedes them.

`TokenSetting.glyphs_own` says how far this is so, for a token on its own, in a pattern
and among other tags.  Nothing of the token is lost, and its separators are escaped except
for the question mark, the grave accent and the blanks other than the space: these are
left bare.
-/

namespace FullText

/-! ### Escaped characters -/

/-- A character that an escaped text stands for, and whether a backslash of its own
precedes it. -/
structure Glyph where
  char : Char
  escaped : Bool
  deriving DecidableEq

/-- The characters that an escaped text stands for, without the backslashes that escape
them. -/
def glyphs : List Char → List Glyph
  | [] => []
  | '\\' :: c :: cs => ⟨c, true⟩ :: glyphs cs
  | c :: cs => ⟨c, false⟩ :: glyphs cs

/-- Whatever follows a text, its characters are read as on its own. -/
def Closed (text : List Char) : Prop :=
  ∀ rest, glyphs (text ++ rest) = glyphs text ++ glyphs rest

theorem glyphs_cons {c : Char} (hc : c ≠ '\\') (cs : List Char) :
  glyphs (c :: cs) = ⟨c, false⟩ :: glyphs cs
  := glyphs.eq_3 c cs fun _ _ h _ => hc h

theorem closed_nil :
  Closed []
  := fun _ => rfl

theorem Closed.cons {c : Char} {text : List Char} (hc : c ≠ '\\') (h : Closed text) :
  Closed (c :: text)
  := by
  intro rest
  rw [List.cons_append, glyphs_cons hc, h rest, glyphs_cons hc, List.cons_append]

theorem Closed.append {text text' : List Char} (h : Closed text) (h' : Closed text') :
  Closed (text ++ text')
  := by
  intro rest
  rw [List.append_assoc, h, h' rest, h, List.append_assoc]

theorem closed_of_bare {text : List Char} (h : '\\' ∉ text) :
  Closed text
  := by
  induction text with
  | nil => apply closed_nil
  | cons c text ih =>
    obtain ⟨hc, htext⟩ := not_or.mp (mt List.mem_cons.mpr h)
    apply (ih htext).cons (Ne.symm hc)

theorem closed_flatMap {α : Type} {text : α → List Char} {as : List α}
    (h : ∀ a ∈ as, Closed (text a)) :
  Closed (as.flatMap text)
  := by
  induction as with
  | nil => apply closed_nil
  | cons a as ih =>
    rw [List.flatMap_cons]
    apply Closed.append
    · apply h a List.mem_cons_self
    · apply ih
      intro a' ha'
      apply h a' (List.mem_cons_of_mem a ha')

/-- An escaped text stands for the characters that it was made from, and of these the
special ones have their backslash. -/
theorem glyphs_escapeWhere_append {special : Char → Bool} (hbackslash : special '\\' = true)
    (cs rest : List Char) :
  glyphs (escapeWhere special cs ++ rest) = cs.map (fun c => ⟨c, special c⟩) ++ glyphs rest
  := by
  induction cs with
  | nil => rfl
  | cons c cs ih =>
    rw [escapeWhere_cons]
    cases hc : special c with
    | true => simp only [if_true, List.cons_append, List.nil_append, glyphs, ih, List.map_cons, hc]
    | false =>
      have hne : c ≠ '\\' := by
        rintro rfl
        rw [hbackslash] at hc
        cases hc
      simp only [Bool.false_eq_true, if_false, List.cons_append, List.nil_append,
        glyphs_cons hne, ih, List.map_cons, hc]

theorem glyphs_escapeWhere {special : Char → Bool} (hbackslash : special '\\' = true)
    (cs : List Char) :
  glyphs (escapeWhere special cs) = cs.map fun c => ⟨c, special c⟩
  := by
  have h := glyphs_escapeWhere_append hbackslash cs []
  rw [List.append_nil, glyphs, List.append_nil] at h
  apply h

theorem closed_escapeWhere {special : Char → Bool} (hbackslash : special '\\' = true)
    (cs : List Char) :
  Closed (escapeWhere special cs)
  := by
  intro rest
  rw [glyphs_escapeWhere_append hbackslash, glyphs_escapeWhere hbackslash]

/-! ### Separators -/

/-- The blanks of ASCII. -/
def asciiBlankRanges : List (Nat × Nat) :=
  [(0x9, 0xD), (0x20, 0x20)]

/-- The punctuation marks of ASCII. -/
def asciiPunctuationRanges : List (Nat × Nat) :=
  [(0x21, 0x2F), (0x3A, 0x40), (0x5B, 0x60), (0x7B, 0x7E)]

/-- Whether a character splits a token unless it is escaped: the blanks of ASCII and its
punctuation marks, but not the underscore. -/
def isSeparator (c : Char) : Bool :=
  inRanges asciiBlankRanges c || (inRanges asciiPunctuationRanges c && c != '_')

/-- The separators that are not escaped: the question mark, the grave accent, and the
blanks other than the space. -/
def bareSeparators : List Char :=
  ['?', '\x60', '\t', '\n', '\x0b', '\x0c', '\r']

/-- The characters that are escaped in a token are separators, and all but the bare
ones. -/
theorem isTokenSpecial_iff (c : Char) :
  isTokenSpecial c ↔ isSeparator c ∧ c ∉ bareSeparators
  := by
  by_cases hc : c.toNat < 128
  · have hascii : ∀ n : Fin 128, let d := Char.ofNat n
        isTokenSpecial d ↔ isSeparator d ∧ d ∉ bareSeparators := by
      decide +kernel
    have h := hascii ⟨c.toNat, hc⟩
    rw [Char.ofNat_toNat] at h
    apply h
  · have hspecials : ∀ d ∈ tokenSpecials, d.toNat < 128 :=
      List.all_iff_forall_prop.mp (by decide)
    have hspecial : ¬ isTokenSpecial c := by
      rw [isTokenSpecial, List.contains_iff_mem]
      intro hmem
      apply hc (hspecials c hmem)
    have hseparator : ¬ isSeparator c := by
      simp only [isSeparator, inRanges, asciiBlankRanges, asciiPunctuationRanges, List.any_cons,
        List.any_nil, Bool.or_eq_true, Bool.and_eq_true, decide_eq_true_eq, Bool.false_eq_true,
        or_false]
      omega
    rw [iff_false_left hspecial]
    rintro ⟨h, -⟩
    apply hseparator h

/-- Nothing of a token is lost, and those of its characters are escaped that have to be. -/
theorem glyphs_escapeToken (value : String) :
  glyphs (escapeToken value) = value.toList.map fun c => ⟨c, isTokenSpecial c⟩
  := glyphs_escapeWhere (by decide) value.toList

theorem closed_escapeToken (value : String) :
  Closed (escapeToken value)
  := closed_escapeWhere (by decide) value.toList

/-! ### Where tokens stand -/

/-- What a token is put into. -/
inductive TokenSetting where
  | alone
  /-- The pattern of the terms that begin with the token. -/
  | leading
  /-- The pattern of the terms at most one edit away from it. -/
  | fuzzy
  /-- The list of tags that has the token between the given ones. -/
  | tag (before after : List String)

namespace TokenSetting

/-- The text that a token is put into, with the token in it. -/
def chars (value : String) : TokenSetting → List Char
  | alone => escapeToken value
  | leading => (leadingPattern value).toList
  | fuzzy => (fuzzyPattern value).toList
  | tag before after => (Term.tags (before ++ value :: after)).chars

/-- What stands before the token. -/
def opening : TokenSetting → List Char
  | alone => []
  | leading => []
  | fuzzy => ['%']
  | tag before _ => '\x7b' :: before.flatMap fun t => escapeToken t ++ [' ', '|', ' ']

/-- What stands after the token. -/
def closing : TokenSetting → List Char
  | alone => []
  | leading => ['*']
  | fuzzy => ['%']
  | tag _ after => (after.flatMap fun t => [' ', '|', ' '] ++ escapeToken t) ++ ['\x7d']

end TokenSetting

/-- Texts with a separator between them are the ones before a text, each with the separator
after it, that text, and the ones after it, each with the separator before it. -/
theorem intercalate_append_cons {α : Type} (separator : List α) (before : List (List α))
    (text : List α) (after : List (List α)) :
  List.intercalate separator (before ++ text :: after)
    = before.flatMap (fun t => t ++ separator) ++ (text ++ after.flatMap fun t => separator ++ t)
  := by
  have hafter : List.intercalate separator (text :: after)
      = text ++ after.flatMap fun t => separator ++ t
    := by
    induction after generalizing text with
    | nil => rw [List.intercalate_singleton, List.flatMap_nil, List.append_nil]
    | cons t after ih =>
      rw [List.intercalate_cons_cons, ih, List.flatMap_cons]
      simp only [List.append_assoc]
  induction before with
  | nil => rw [List.nil_append, hafter, List.flatMap_nil, List.nil_append]
  | cons t before ih =>
    have hcons (texts : List (List α)) (hne : texts ≠ []) :
      List.intercalate separator (t :: texts) = t ++ (separator ++ List.intercalate separator texts)
      := by
      obtain ⟨t', texts, rfl⟩ := List.exists_cons_of_ne_nil hne
      rw [List.intercalate_cons_cons, List.append_assoc]
    rw [List.cons_append, hcons _ (by simp), ih, List.flatMap_cons]
    simp only [List.append_assoc]

namespace TokenSetting

theorem chars_eq (setting : TokenSetting) (value : String) :
  setting.chars value = setting.opening ++ (escapeToken value ++ setting.closing)
  := by
  cases setting with
  | alone => rw [chars, opening, closing, List.nil_append, List.append_nil]
  | leading => rw [chars, opening, closing, leadingPattern, String.toList_ofList, List.nil_append]
  | fuzzy => rw [chars, opening, closing, fuzzyPattern, String.toList_ofList]; rfl
  | tag before after =>
    rw [chars, opening, closing, Term.chars, List.map_append, List.map_cons,
      intercalate_append_cons, List.flatMap_map, List.flatMap_map]
    simp only [List.cons_append, List.append_assoc]

theorem closed_opening (setting : TokenSetting) :
  Closed setting.opening
  := by
  cases setting with
  | alone => apply closed_nil
  | leading => apply closed_nil
  | fuzzy => apply closed_of_bare (by decide)
  | tag before after =>
    apply Closed.cons (by decide)
    apply closed_flatMap
    intro t _
    apply (closed_escapeToken t).append (closed_of_bare (by decide))

/-- Wherever a token is put, it is read back character by character, and its characters
are escaped if they are separators, but for the bare ones.  So its separators are all
escaped exactly if it has none of these. -/
theorem glyphs_own (setting : TokenSetting) (value : String) :
  let own := glyphs (escapeToken value)
  setting.chars value = setting.opening ++ (escapeToken value ++ setting.closing) ∧
  glyphs (setting.chars value) = glyphs setting.opening ++ (own ++ glyphs setting.closing) ∧
  own.map Glyph.char = value.toList ∧
  (∀ g ∈ own, g.escaped ↔ isSeparator g.char ∧ g.char ∉ bareSeparators) ∧
  ((∀ g ∈ own, isSeparator g.char → g.escaped) ↔ ∀ c ∈ value.toList, c ∉ bareSeparators)
  := by
  intro own
  have hown : own = value.toList.map fun c => ⟨c, isTokenSpecial c⟩ := glyphs_escapeToken value
  have hbare : ∀ c ∈ bareSeparators, isSeparator c := List.all_eq_true.mp (by decide)
  refine ⟨setting.chars_eq value, ?_, ?_, ?_, ?_⟩
  · rw [chars_eq, setting.closed_opening, closed_escapeToken]
  · rw [hown, List.map_map]
    apply List.map_id
  · rw [hown]
    intro g hg
    obtain ⟨c, -, rfl⟩ := List.mem_map.mp hg
    apply isTokenSpecial_iff
  · rw [hown, List.forall_mem_map]
    apply forall₂_congr
    intro c _
    simp only [isTokenSpecial_iff]
    constructor
    · intro h hmem
      apply (h (hbare c hmem)).2 hmem
    · intro h hseparator
      use hseparator

/-- Not every separator is escaped: a question mark splits its token. -/
theorem not_separators_escaped :
  ¬ ∀ value : String,
    (∀ g ∈ glyphs (escapeToken value), isSeparator g.char → g.escaped) ∧
      (glyphs (escapeToken value)).map Glyph.char = value.toList
  := by
  intro h
  have hmark := (h "a?b").1 ⟨'?', false⟩ (by decide) (by decide)
  cases hmark

end TokenSetting

end FullText
