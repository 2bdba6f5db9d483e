import FullText.Query.Request
import FullText.Proofs.Number.Plain
import FullText.Proofs.Text.Separators

/-!
# The clause of the nearest neighbours

A condition on a field spells its name with a backslash before every character that is
neither alphanumeric nor the underscore.  The clause of the nearest neighbours is due to
spell the name of its field like that too, and then has four words and no more: `KNN`, the
count, the field and the vector parameter (`words_clauseChars`).

What is sent is the name as it was given.  `Query.clause_nearest` says when that comes to
the same: exactly for the names without a character that takes a backslash.  Of any other
name the clause differs from the due one, and so does the list of its words.
-/

namespace FullText

/-! ### Words -/

/-- The words of a text, which is cut at the blanks that no backslash precedes. -/
def words : List Char → List (List Char)
  | [] => [[]]
  | '\\' :: c :: cs => (words cs).modifyHead fun word => '\\' :: c :: word
  | c :: cs => if c = ' ' then [] :: words cs else (words cs).modifyHead (c :: ·)

/-- A text without a blank that no backslash precedes, and with a character after each
backslash. -/
inductive IsWord : List Char → Prop where
  | nil : IsWord []
  | bare {c : Char} {cs : List Char} (hblank : c ≠ ' ') (hbackslash : c ≠ '\\')
    (h : IsWord cs) : IsWord (c :: cs)
  | escaped {c : Char} {cs : List Char} (h : IsWord cs) : IsWord ('\\' :: c :: cs)

theorem words_cons {c : Char} (hbackslash : c ≠ '\\') (cs : List Char) :
  words (c :: cs) = if c = ' ' then [] :: words cs else (words cs).modifyHead (c :: ·)
  := words.eq_3 c cs fun _ _ h _ => hbackslash h

theorem words_ne_nil (cs : List Char) :
  words cs ≠ []
  := by
  have hmodify (f : List Char → List Char) {ws : List (List Char)} (h : ws ≠ []) :
    ws.modifyHead f ≠ []
    := by
    obtain ⟨w, ws, rfl⟩ := List.exists_cons_of_ne_nil h
    apply List.cons_ne_nil
  induction cs using words.induct with
  | case1 => apply List.cons_ne_nil
  | case2 c cs ih => apply hmodify _ ih
  | case3 cs _ _ =>
    rw [words_cons (by decide), if_pos rfl]
    apply List.cons_ne_nil
  | case4 c cs hbackslash hblank ih =>
    rw [words.eq_3 c cs hbackslash, if_neg hblank]
    apply hmodify _ ih

/-- Nothing is lost when a text is cut into words. -/
theorem intercalate_words (cs : List Char) :
  List.intercalate [' '] (words cs) = cs
  := by
  have hmodify (before : List Char) (cs : List Char) :
    List.intercalate [' '] ((words cs).modifyHead fun word => before ++ word)
      = before ++ List.intercalate [' '] (words cs)
    := by
    obtain ⟨w, ws, hws⟩ := List.exists_cons_of_ne_nil (words_ne_nil cs)
    rw [hws, List.modifyHead_cons]
    cases ws with
    | nil => simp only [List.intercalate_singleton]
    | cons w' ws => simp only [List.intercalate_cons_cons, List.append_assoc]
  induction cs using words.induct with
  | case1 => rfl
  | case2 c cs ih =>
    have h := hmodify ['\\', c] cs
    rw [ih] at h
    apply h
  | case3 cs _ ih =>
    obtain ⟨w, ws, hws⟩ := List.exists_cons_of_ne_nil (words_ne_nil cs)
    rw [words_cons (by decide), if_pos rfl, hws, List.intercalate_cons_cons, ← hws, ih]
    rfl
  | case4 c cs hbackslash hblank ih =>
    have h := hmodify [c] cs
    rw [ih] at h
    rw [words.eq_3 c cs hbackslash, if_neg hblank]
    apply h

namespace IsWord

theorem of_bare {w : List Char} (hblank : ' ' ∉ w) (hbackslash : '\\' ∉ w) :
  IsWord w
  := by
  induction w with
  | nil => apply nil
  | cons c w ih =>
    obtain ⟨hc, hw⟩ := not_or.mp (mt List.mem_cons.mpr hblank)
    obtain ⟨hc', hw'⟩ := not_or.mp (mt List.mem_cons.mpr hbackslash)
    apply bare (Ne.symm hc) (Ne.symm hc') (ih hw hw')

/-- An escaped text is a word if blanks and backslashes are special. -/
theorem escapeWhere {special : Char → Bool} (hblank : special ' ' = true)
    (hbackslash : special '\\' = true) (cs : List Char) :
  IsWord (escapeWhere special cs)
  := by
  induction cs with
  | nil => apply nil
  | cons c cs ih =>
    rw [escapeWhere_cons]
    split
    · apply escaped ih
    · rename_i hc
      apply bare _ _ ih
      · rintro rfl
        apply hc hblank
      · rintro rfl
        apply hc hbackslash

/-- A word in front of other words is cut off where it ends. -/
theorem words_append {w : List Char} (h : IsWord w) (rest : List Char) :
  words (w ++ ' ' :: rest) = w :: words rest
  := by
  induction h with
  | nil => rw [List.nil_append, words_cons (by decide), if_pos rfl]
  | bare hblank hbackslash _ ih =>
    rw [List.cons_append, words_cons hbackslash, if_neg hblank, ih, List.modifyHead_cons]
  | escaped _ ih =>
    rw [List.cons_append, List.cons_append, words, ih, List.modifyHead_cons]

theorem words_eq {w : List Char} (h : IsWord w) :
  words w = [w]
  := by
  induction h with
  | nil => rfl
  | bare hblank hbackslash _ ih =>
    rw [words_cons hbackslash, if_neg hblank, ih, List.modifyHead_cons]
  | escaped _ ih => rw [words, ih, List.modifyHead_cons]

end IsWord

/-- Words with a blank between them are cut apart again. -/
theorem words_intercalate {ws : List (List Char)} (hne : ws ≠ []) (h : ∀ w ∈ ws, IsWord w) :
  words (List.intercalate [' '] ws) = ws
  := by
  induction ws with
  | nil => apply (hne rfl).elim
  | cons w ws ih =>
    have hw := h w List.mem_cons_self
    cases ws with
    | nil =>
      rw [List.intercalate_singleton]
      apply hw.words_eq
    | cons w' ws =>
      have hrest := ih (List.cons_ne_nil w' ws) fun w'' hmem => h w'' (List.mem_cons_of_mem w hmem)
      rw [List.intercalate_cons_cons, List.append_assoc, List.cons_append, List.nil_append,
        hw.words_append, hrest]

/-! ### Names that need no escape -/

/-- Each special character takes one more. -/
theorem length_escapeWhere (special : Char → Bool) (cs : List Char) :
  (escapeWhere special cs).length = cs.length + cs.countP special
  := by
  induction cs with
  | nil => rfl
  | cons c cs ih =>
    rw [escapeWhere_cons, List.length_append, ih, List.length_cons, List.countP_cons]
    split
    · simp only [List.length_cons, List.length_nil]
      omega
    · simp only [List.length_cons, List.length_nil]
      omega

/-- Escaping changes a text exactly if it has a special character. -/
theorem eq_escapeWhere_iff (special : Char → Bool) (cs : List Char) :
  cs = escapeWhere special cs ↔ ∀ c ∈ cs, special c = false
  := by
  constructor
  · intro h
    have hlength := length_escapeWhere special cs
    rw [← h] at hlength
    have hcount : cs.countP special = 0 := by omega
    intro c hc
    apply Bool.eq_false_iff.mpr
    apply List.countP_eq_zero.mp hcount c hc
  · intro h
    induction cs with
    | nil => rfl
    | cons c cs ih =>
      have hc := h c List.mem_cons_self
      rw [escapeWhere_cons, hc, ← ih fun c' hc' => h c' (List.mem_cons_of_mem c hc')]
      rfl

/-- A field name without a character that takes a backslash. -/
def IsPlainName (name : String) : Prop :=
  ∀ c ∈ name.toList, isAlphanumeric c ∨ c = '_'

/-- The plain names are those that are spelled as they are given. -/
theorem eq_escapeField_iff (name : String) :
  name.toList = escapeField name ↔ IsPlainName name
  := by
  rw [escapeField, eq_escapeWhere_iff]
  apply forall₂_congr
  intro c _
  simp [isFieldSpecial, or_iff_not_imp_left]

theorem isWord_escapeField (name : String) :
  IsWord (escapeField name)
  := IsWord.escapeWhere (by decide) (by decide) name.toList

/-- A condition spells its field after `@`, which nothing but a bracket precedes. -/
theorem Predicate.chars_eq (p : Predicate) :
  ∃ opening rest, opening ∈ [[], ['(']] ∧
    p.chars = opening ++ '@' :: (escapeField p.field ++ ':' :: rest)
  := by
  cases p with
  | equality field term => exact ⟨[], term.chars, by decide, rfl⟩
  | range field low high => exact ⟨[], _, by decide, rfl⟩
  | pattern field text => exact ⟨['('], _, by decide, rfl⟩

namespace Query

/-! ### The clause -/

/-- The words of a clause that spells its field as `name`. -/
def clauseWords (count : Nat) (name : List Char) : List (List Char) :=
  [['K', 'N', 'N'], (toString count).toList, '@' :: name, '$' :: vectorParam.toList]

/-- The clause of these words. -/
def clauseChars (count : Nat) (name : List Char) : List Char :=
  List.intercalate [' '] (clauseWords count name)

/-- The query string with a clause that spells its field as `name`: the clause stands in
brackets after what the other conditions leave. -/
def clausedChars (q : Query) (count : Nat) (name : List Char) : List Char :=
  (if q.baseChars = ['*'] then ['*'] else '(' :: (q.baseChars ++ [')'])) ++
    ['=', '>', '['] ++ clauseChars count name ++ [']']

/-- The clause has these words and no more, if the name of the field is spelled as one
word. -/
theorem words_clauseChars (count : Nat) {name : List Char} (h : IsWord name) :
  words (clauseChars count name) = clauseWords count name
  := by
  apply words_intercalate (List.cons_ne_nil _ _)
  intro w hw
  simp only [List.mem_cons, List.not_mem_nil, or_false] at hw
  rcases hw with rfl | rfl | rfl | rfl
  · apply IsWord.of_bare (by decide) (by decide)
  · have hplain {c : Char} (hc : c ∈ (toString count).toList) : isPlainChar c = true := by
      rw [Nat.toString_eq_repr, Nat.toList_repr] at hc
      apply isPlainChar_of_mem_toDigits hc
    apply IsWord.of_bare
    · intro hc
      cases hplain hc
    · intro hc
      cases hplain hc
  · apply IsWord.bare (by decide) (by decide) h
  · apply IsWord.of_bare (by decide) (by decide)

/-- Clauses of different spellings are different. -/
theorem clauseChars_inj (count : Nat) {name name' : List Char} :
  clauseChars count name = clauseChars count name' ↔ name = name'
  := by
  constructor
  · intro h
    simpa [clauseChars, clauseWords, List.intercalate_cons_cons] using h
  · rintro rfl
    rfl

theorem clausedChars_inj (q : Query) (count : Nat) {name name' : List Char} :
  q.clausedChars count name = q.clausedChars count name' ↔ name = name'
  := by
  rw [clausedChars, clausedChars, List.append_left_inj, List.append_right_inj, clauseChars_inj]

/-- The clause is sent with the name of its field as it was given. -/
theorem text_nearest (q : Query) (n : Neighbours) :
  (q.modify (.nearest n)).text.toList = q.clausedChars n.count n.field.toList
  := by
  -- The digits of the count are kept out of sight: they do not matter, and would be computed.
  have hclause (digits name : List Char) :
    "=>[KNN ".toList ++ digits ++ " @".toList ++ name ++ " $".toList ++ vectorParam.toList ++ [']']
      = ['=', '>', '['] ++ (List.intercalate [' ']
          [['K', 'N', 'N'], digits, '@' :: name, '$' :: vectorParam.toList] ++ [']'])
    := by
    have hopening : "=>[KNN ".toList = ['=', '>', '[', 'K', 'N', 'N', ' '] := by decide
    have hat : " @".toList = [' ', '@'] := by decide
    have hdollar : " $".toList = [' ', '$'] := by decide
    rw [hopening, hat, hdollar]
    simp only [List.intercalate_cons_cons, List.intercalate_singleton, List.cons_append,
      List.nil_append, List.append_assoc]
  have hsent := hclause (toString n.count).toList n.field.toList
  rw [clausedChars, List.append_assoc, List.append_assoc, clauseChars, clauseWords, ← hsent]
  apply String.toList_ofList

/-- A query for nearest neighbours is sent with the name of its field as it was given,
while a condition on the field spells it with backslashes before the characters that are
neither alphanumeric nor the underscore.  Spelled like that it would always be one of four
words.  Both come to the same exactly for the names without such a character: of all
others, the query string is not the due one, and neither are the words of its clause. -/
theorem clause_nearest (q : Query) (n : Neighbours) :
  (q.modify (.nearest n)).text.toList = q.clausedChars n.count n.field.toList ∧
  (∀ p : Predicate, ∃ opening rest, opening ∈ [[], ['(']] ∧
    p.chars = opening ++ '@' :: (escapeField p.field ++ ':' :: rest)) ∧
  glyphs (escapeField n.field)
    = n.field.toList.map (fun c => ⟨c, !isAlphanumeric c && c != '_'⟩) ∧
  words (clauseChars n.count (escapeField n.field))
    = clauseWords n.count (escapeField n.field) ∧
  ((q.modify (.nearest n)).text.toList = q.clausedChars n.count (escapeField n.field) ↔
    IsPlainName n.field) ∧
  (words (clauseChars n.count n.field.toList) = clauseWords n.count (escapeField n.field) ↔
    IsPlainName n.field)
  := by
  have hdue := words_clauseChars n.count (isWord_escapeField n.field)
  refine ⟨q.text_nearest n, Predicate.chars_eq, glyphs_escapeWhere (by decide) _, hdue, ?_, ?_⟩
  · rw [text_nearest, clausedChars_inj, eq_escapeField_iff]
  · rw [← eq_escapeField_iff]
    constructor
    · intro h
      have hchars := intercalate_words (clauseChars n.count n.field.toList)
      rw [h] at hchars
      apply (clauseChars_inj n.count).mp hchars.symm
    · intro h
      rw [← h] at hdue ⊢
      apply hdue

/-- The name of the field is not always spelled as in a condition: a point in it stands
without a backslash. -/
theorem not_clause_due :
  ¬ ∀ (q : Query) (n : Neighbours),
    (q.modify (.nearest n)).text.toList = q.clausedChars n.count (escapeField n.field)
  := by
  intro h
  have hname := h all ⟨"user.role", 3, []⟩
  rw [text_nearest, clausedChars_inj] at hname
  revert hname
  decide

end Query

end FullText
