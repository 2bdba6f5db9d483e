import FullText.Proofs.Index.Vectors
import FullText.Proofs.Number.Shortest

/-!
# Numbers in a hash

A numeric field takes a number, or a text that denotes one between blanks.  A number is
written in its plain text, which is read as the number again.  But a text is written as it
was given, with its blanks, and no numeral holds a blank.

So what is written for a numeric field denotes the number that was found in the value, or
nothing at all.  `Index.number_written` says that it is the number exactly if the value is
no text with a blank at one of its ends (`DocumentValue.IsPadded`).
-/

namespace FullText

/-! ### Blanks -/

/-- There are no blanks among the characters. -/
def NoBlanks (cs : List Char) : Prop :=
  ∀ c ∈ cs, isBlank c = false

theorem NoBlanks.append {cs cs' : List Char} (h : NoBlanks cs) (h' : NoBlanks cs') :
  NoBlanks (cs ++ cs')
  := by
  intro c hc
  rcases List.mem_append.mp hc with hc | hc
  · exact h c hc
  · exact h' c hc

theorem NoBlanks.cons {c : Char} {cs : List Char} (hc : isBlank c = false) (h : NoBlanks cs) :
  NoBlanks (c :: cs)
  := by
  rintro c' hc'
  rcases List.mem_cons.mp hc' with rfl | hc'
  · exact hc
  · exact h c' hc'

/-- Where there are no blanks, none are trimmed. -/
theorem trimBlanks_eq_self {cs : List Char} (h : NoBlanks cs) :
  trimBlanks cs = cs
  := by
  have hkept {cs : List Char} (h : NoBlanks cs) : cs.dropWhile isBlank = cs := by
    cases cs with
    | nil => rfl
    | cons c cs => rw [List.dropWhile_cons_of_neg (by simp [h c List.mem_cons_self])]
  rw [trimBlanks, hkept h, hkept, List.reverse_reverse]
  intro c hc
  exact h c (List.mem_reverse.mp hc)

theorem isBlank_of_isDigit {c : Char} (h : c.isDigit = true) :
  isBlank c = false
  := by
  rw [Char.isDigit, Bool.and_eq_true, decide_eq_true_eq, decide_eq_true_eq] at h
  have hlower : 48 ≤ c.toNat := h.1
  have hupper : c.toNat ≤ 57 := h.2
  simp [isBlank, inRanges, blankRanges]
  omega

/-- A blank has no other case. -/
theorem isBlank_of_isBlank_toLower {c : Char} (h : isBlank c.toLower = false) :
  isBlank c = false
  := by
  by_cases hcase : c.val ≥ 'A'.val ∧ c.val ≤ 'Z'.val
  · have hlower : 65 ≤ c.toNat := hcase.1
    have hupper : c.toNat ≤ 90 := hcase.2
    simp [isBlank, inRanges, blankRanges]
    omega
  · have hsame : c.toLower = c := dif_neg hcase
    rwa [hsame] at h

theorem NoBlanks.of_areDigits {cs : List Char} (h : AreDigits cs) :
  NoBlanks cs
  := fun c hc => isBlank_of_isDigit (h c hc)

/-! ### Numerals -/

namespace Numeral

theorem noBlanks_of_splitSign {cs : List Char} (h : NoBlanks (splitSign cs).2) :
  NoBlanks cs
  := by
  rw [splitSign.eq_def] at h
  split at h
  · apply NoBlanks.cons (by decide) h
  · apply NoBlanks.cons (by decide) h
  · exact h

theorem noBlanks_of_exponent? {cs : List Char} {e : ℤ} (h : exponent? cs = some e) :
  NoBlanks cs
  := by
  rw [exponent?.eq_def] at h
  split at h
  · rintro c ⟨⟩
  · rename_i c cs
    split at h
    · rename_i hc
      simp only at h
      split at h
      · rename_i hdigits
        have hrest : NoBlanks cs := by
          apply noBlanks_of_splitSign
          apply NoBlanks.of_areDigits
          exact List.all_eq_true.mp hdigits.2
        rcases hc with rfl | rfl
        · apply hrest.cons (by decide)
        · apply hrest.cons (by decide)
      · cases h
    · cases h

/-- A run of digits does not matter for what blanks there are. -/
theorem noBlanks_of_dropWhile {cs : List Char} (h : NoBlanks (cs.dropWhile Char.isDigit)) :
  NoBlanks cs
  := by
  have hdigits : NoBlanks (cs.takeWhile Char.isDigit) :=
    NoBlanks.of_areDigits (List.all_eq_true.mp List.all_takeWhile)
  rw [← List.takeWhile_append_dropWhile (p := Char.isDigit) (l := cs)]
  exact hdigits.append h

theorem noBlanks_of_decimal? {cs : List Char} {d : Decimal} (h : decimal? cs = some d) :
  NoBlanks cs
  := by
  apply noBlanks_of_dropWhile
  simp only [decimal?] at h
  generalize cs.dropWhile Char.isDigit = rest at h
  split at h
  · split at h
    · cases h
    · obtain ⟨e, hexponent, -⟩ := Option.map_eq_some_iff.mp h
      apply NoBlanks.cons (by decide)
      apply noBlanks_of_dropWhile (noBlanks_of_exponent? hexponent)
  · split at h
    · cases h
    · obtain ⟨e, hexponent, -⟩ := Option.map_eq_some_iff.mp h
      apply noBlanks_of_exponent? hexponent

/-- A word without blanks has none in any letter case. -/
theorem noBlanks_of_word {cs : List Char} {word : String}
    (h : String.ofList (cs.map Char.toLower) = word)
    (hword : (word.toList.all fun c => !isBlank c) = true) :
  NoBlanks cs
  := by
  intro c hc
  apply isBlank_of_isBlank_toLower
  rw [← Bool.not_eq_true']
  apply List.all_eq_true.mp hword
  rw [← h, String.toList_ofList]
  apply List.mem_map_of_mem hc

/-- No numeral holds a blank. -/
theorem noBlanks_of_read? {cs : List Char} {n : Numeral} (h : read? cs = some n) :
  NoBlanks cs
  := by
  apply noBlanks_of_splitSign
  simp only [read?] at h
  split at h
  · rename_i d hdecimal
    apply noBlanks_of_decimal? hdecimal
  split at h
  · rename_i hword
    rcases hword with hword | hword
    · apply noBlanks_of_word hword (by decide)
    · apply noBlanks_of_word hword (by decide)
  split at h
  · rename_i hword
    apply noBlanks_of_word hword (by decide)
  · cases h

end Numeral

/-! ### Values -/

namespace DocumentValue

/-- The value is a text with a blank at one of its ends. -/
def IsPadded (value : DocumentValue) : Prop :=
  ∃ s, value = .text s ∧ trimBlanks s.toList ≠ s.toList

/-- What is written for a value that a number is found in is read as the number, unless
the value is padded: then it is not read as a number. -/
theorem hashArg_of_number? {value : DocumentValue} {x : Binary64} (h : value.number? = some x)
    (f : Option Field) :
  ∃ text, value.hashArg f = .text text ∧ x.isFinite = true ∧
    (Binary64.read? text = some x ↔ ¬ value.IsPadded) ∧
    (value.IsPadded → Binary64.read? text = none)
  := by
  cases value with
  | text s =>
    rw [number?, Option.filter_eq_some_iff] at h
    obtain ⟨hread, hfinite⟩ := h
    have hpadded : (DocumentValue.text s).IsPadded ↔ trimBlanks s.toList ≠ s.toList := by
      simp [IsPadded]
    -- Blanks at the ends keep a text from being read.
    have hnone : (DocumentValue.text s).IsPadded → Binary64.read? s = none := by
      rw [hpadded]
      intro hne
      rw [Binary64.read?, Option.map_eq_none_iff, Option.eq_none_iff_forall_ne_some]
      intro n hn
      exact hne (trimBlanks_eq_self (Numeral.noBlanks_of_read? hn))
    refine ⟨s, rfl, hfinite, ?_, hnone⟩
    constructor
    · intro hsome hpadded
      rw [hnone hpadded] at hsome
      cases hsome
    · intro hplain
      rw [hpadded, not_not] at hplain
      rw [hplain, String.ofList_toList] at hread
      exact hread
  | number y =>
    rw [number?] at h
    split at h
    · rename_i hfinite
      cases h
      have hplain : ¬ (DocumentValue.number x).IsPadded := by
        rintro ⟨s, hs, -⟩
        cases hs
      have hread : Binary64.read? x.text = some x := Binary64.read?_chars hfinite .plain
      exact ⟨x.text, rfl, hfinite, iff_of_true hread hplain, fun hpadded => (hplain hpadded).elim⟩
    · cases h
  | tags values | geo longitude latitude | vector values => cases h

end DocumentValue

namespace Index

/-- A document that is sent has a number in each value of a numeric field, and what is
written for the value is read as this number, unless the value is a text with a blank at
one of its ends: then it is not read as a number. -/
theorem number_written (ix : Index) (hstorage : ix.definition.storage = .hash) {f : Field}
    {o : NumericOptions} (hf : f ∈ ix.schema.fields) (hkind : f.kind = .numeric o) {name : String}
    (hname : name ∈ f.keys) (value : DocumentValue) (id : String)
    (before after : List (String × DocumentValue)) (s : Session)
    (hsent : (ix.perform (.add id (before ++ (name, value) :: after)) s).2.2.channel.calls
      ≠ s.channel.calls) :
  ∃ (call : Call) (x : Binary64) (text : String),
    (ix.perform (.add id (before ++ (name, value) :: after)) s).2.2.channel.calls
      = s.channel.calls ++ [call] ∧
    call.hashed[before.length]? = some (.text name, .text text) ∧
    value.number? = some x ∧ x.isFinite = true ∧
    (Binary64.read? text = some x ↔ ¬ value.IsPadded) ∧
    (value.IsPadded → Binary64.read? text = none)
  := by
  rw [calls_perform] at hsent ⊢
  split at hsent
  · rw [List.append_nil] at hsent
    exact absurd rfl hsent
  · rename_i hrefusal
    rw [if_neg hrefusal]
    rw [Option.not_isSome_iff_eq_none, refusal?_add_eq_none_iff] at hrefusal
    have hnumber : value.number? ≠ none := by
      intro hnone
      apply hrefusal (name, value) (by simp) f
      exact ⟨hf, hname, ⟨o, hkind⟩, hnone⟩
    obtain ⟨x, hx⟩ := Option.ne_none_iff_exists'.mp hnumber
    obtain ⟨text, hwritten, hfinite, hread, hnone⟩ :=
      DocumentValue.hashArg_of_number? hx (ix.schema.get? name)
    refine ⟨_, x, text, rfl, ?_, hx, hfinite, hread, hnone⟩
    rw [Operation.getElem?_hashed_add hstorage, hwritten]

/-! ### A padded number -/

/-- A numeric field with an alias. -/
def priceField : Field where
  name := "price"
  otherName := some "p"
  kind := .numeric {}
  name_ne_empty := by decide
  fault_eq_none := by decide

/-- An index of hashes with this field alone. -/
def priceIndex : Index :=
  ⟨{ name := "idx" }, ⟨[priceField], List.pairwise_singleton _ _⟩⟩

/-- The number five. -/
def five : Binary64 :=
  ⟨0x4014000000000000⟩

theorem number?_padded_five :
  (DocumentValue.text " 5 ").number? = some five
  := by
  decide +kernel

theorem isPadded_padded_five :
  (DocumentValue.text " 5 ").IsPadded
  := ⟨" 5 ", rfl, by decide⟩

/-- The number five between blanks, behind a title. -/
def paddedFields : List (String × DocumentValue) :=
  [("title", .text "x")] ++ ("p", .text " 5 ") :: []

/-- The index has no objection to a padded number. -/
theorem calls_add_padded (s : Session) :
  (priceIndex.perform (.add "a" paddedFields) s).2.2.channel.calls
    = s.channel.calls ++ [(Operation.add "a" paddedFields).call priceIndex]
  := by
  have hrefusal : ((Operation.add "a" paddedFields).refusal? priceIndex).isSome = false := by
    decide +kernel
  rw [calls_perform, hrefusal, if_neg Bool.false_ne_true]

theorem calls_add_padded_ne :
  (priceIndex.perform (.add "a" paddedFields) {}).2.2.channel.calls ≠ []
  := by
  rw [calls_add_padded]
  apply List.cons_ne_nil

/-- The number five between blanks is sent, and is not read as a number. -/
theorem padded_five_written :
  priceIndex.definition.storage = .hash ∧ priceField ∈ priceIndex.schema.fields ∧
  priceField.kind = .numeric {} ∧ "p" ∈ priceField.keys ∧
  (priceIndex.perform (.add "a" paddedFields) {}).2.2.channel.calls ≠ [] ∧
  ∃ (call : Call) (text : String),
    (priceIndex.perform (.add "a" paddedFields) {}).2.2.channel.calls = [call] ∧
    call.hashed[1]? = some (.text "p", .text text) ∧
    (DocumentValue.text " 5 ").number? = some five ∧ Binary64.read? text = none
  := by
  obtain ⟨call, x, text, hcall, hwritten, -, -, -, hnone⟩ :=
    priceIndex.number_written rfl (List.mem_singleton_self priceField) rfl
      (by decide : "p" ∈ priceField.keys) (.text " 5 ") "a" [("title", .text "x")] [] {}
      calls_add_padded_ne
  exact ⟨rfl, List.mem_singleton_self priceField, rfl, by decide, calls_add_padded_ne, call, text,
    hcall, hwritten, number?_padded_five, hnone isPadded_padded_five⟩

/-- What is found to be a number is not always written as that number. -/
theorem not_number_written :
  ¬ ∀ (ix : Index) (f : Field) (o : NumericOptions) (name : String) (value : DocumentValue)
    (id : String) (before after : List (String × DocumentValue)) (s : Session),
    ix.definition.storage = .hash → f ∈ ix.schema.fields → f.kind = .numeric o → name ∈ f.keys →
    (ix.perform (.add id (before ++ (name, value) :: after)) s).2.2.channel.calls
      ≠ s.channel.calls →
    ∃ (call : Call) (x : Binary64) (text : String),
      (ix.perform (.add id (before ++ (name, value) :: after)) s).2.2.channel.calls
        = s.channel.calls ++ [call] ∧
      call.hashed[before.length]? = some (.text name, .text text) ∧
      value.number? = some x ∧ Binary64.read? text = some x
  := by
  intro h
  obtain ⟨call, x, text, hcall, hwritten, -, hread⟩ :=
    h priceIndex priceField {} "p" (.text " 5 ") "a" [("title", .text "x")] [] {} rfl
      (List.mem_singleton_self priceField) rfl (by decide) calls_add_padded_ne
  obtain rfl := (List.cons.inj ((calls_add_padded {}).symm.trans hcall)).1
  rw [Operation.hashed_add rfl] at hwritten
  have htext : " 5 " = text := Arg.text.inj (Prod.mk.inj (Option.some_inj.mp hwritten)).2
  have hnone : Binary64.read? " 5 " = none := by
    decide +kernel
  rw [← htext, hnone] at hread
  cases hread

end Index

end FullText
