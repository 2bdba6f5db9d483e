import FullText.Proofs.Number.Plain
import FullText.Proofs.Number.Shortest
import FullText.Proofs.Schema.ByName
import FullText.Proofs.Schema.Options

/-!
# The numbers in a schema clause

Two options of a field are numbers that may have a fraction: the weight of a text field and the
epsilon of a vector field.  A server can use such a number if it is finite and not negative.

A weight is looked at when a field is made, and one that is not usable is refused, whichever way
the field is declared.  An epsilon is not looked at: where one epsilon is taken every other one is
too, NaN and the infinities among them, and it is written into the clause.  So the numbers in the
clause of a field are usable exactly if its epsilon is (`Field.numbers_usable_iff`).
-/

namespace FullText

/-! ### Numbers that are usable -/

/-- A number that is finite and not negative. -/
def Binary64.IsUsable (x : Binary64) : Prop :=
  ∃ q, x.datum.value? = some q ∧ 0 ≤ q

/-- An argument that is read as a number that is finite and not negative. -/
def Arg.IsUsable (a : Arg) : Prop :=
  ∃ s x, a = .text s ∧ Binary64.read? s = some x ∧ x.IsUsable

/-- What is finite and does not lie below zero is not negative. -/
theorem Binary64.isUsable_iff (x : Binary64) :
  x.IsUsable ↔ (x.datum.isFinite && !x.datum.isBelowZero) = true
  := by
  rw [IsUsable]
  cases x.datum with
  | nan => simp [Datum.value?, Datum.isFinite]
  | infinite negative => simp [Datum.value?, Datum.isFinite]
  | finite negative significand exponent =>
    have hpow : (0 : ℚ) < 2 ^ exponent := by positivity
    simp only [Datum.value?, Option.some_inj, exists_eq_left', Datum.isFinite, Datum.isBelowZero,
      Bool.true_and]
    cases negative with
    | false =>
      have hmagnitude : (0 : ℚ) ≤ significand * 2 ^ exponent := by positivity
      simpa using hmagnitude
    | true =>
      by_cases hzero : significand = 0
      · simp [hzero]
      · have hpos : (0 : ℚ) < significand := Nat.cast_pos.mpr (Nat.pos_of_ne_zero hzero)
        have hmagnitude : (0 : ℚ) < significand * 2 ^ exponent := mul_pos hpos hpow
        simp [hzero, hmagnitude]

/-- A number is usable if its text is, in any style. -/
theorem Binary64.isUsable_chars_iff (x : Binary64) (style : NumberStyle) :
  Arg.IsUsable (.text (String.ofList (x.chars style))) ↔ x.IsUsable
  := by
  have hread : Arg.IsUsable (.text (String.ofList (x.chars style))) ↔
    ∃ y, read? (String.ofList (x.chars style)) = some y ∧ y.IsUsable
    := by
    constructor
    · rintro ⟨_, y, ⟨⟩, hy, husable⟩
      exact ⟨y, hy, husable⟩
    · rintro ⟨y, hy, husable⟩
      exact ⟨_, y, rfl, hy, husable⟩
  rw [hread]
  cases hfinite : x.isFinite with
  | true => simp [read?_chars hfinite style]
  | false =>
    have hunusable : ¬ x.IsUsable := by
      rw [isUsable_iff]
      rw [isFinite] at hfinite
      simp [hfinite]
    -- What is not finite has one of three texts, which are all read as what is not finite.
    have htexts : ∀ s ∈ ["NaN", "inf", "-inf"], ∀ y ∈ read? s, ¬ y.IsUsable := by
      simp only [isUsable_iff]
      decide +kernel
    have hmem : String.ofList (x.chars style) ∈ ["NaN", "inf", "-inf"] := by
      rw [isFinite] at hfinite
      rw [chars]
      cases hdatum : x.datum with
      | nan => exact List.mem_of_elem_eq_true rfl
      | infinite negative => cases negative <;> exact List.mem_of_elem_eq_true rfl
      | finite negative significand exponent =>
        rw [hdatum] at hfinite
        cases hfinite
    simp only [hunusable, iff_false]
    rintro ⟨y, hy, husable⟩
    exact htexts _ hmem y hy husable

/-! ### Words among the options -/

/-- The words for the numbers among the options of a field. -/
def numberWords : List String :=
  ["WEIGHT", "EPSILON"]

/-- The options in a clause: what follows the name, the alias if there is one, and the type. -/
def clauseOptions : List Arg → List Arg
  | _ :: .text "AS" :: _ :: _ :: options => options
  | _ :: _ :: options => options
  | _ => []

/-- An argument stands right after a word among the options of a clause. -/
def Follows (word : String) (a : Arg) (clause : List Arg) : Prop :=
  [.text word, a] <:+: clauseOptions clause

theorem infix_pair_cons {α : Type} {a b c : α} {l : List α} :
  [a, b] <:+: c :: l ↔ (a = c ∧ l.head? = some b) ∨ [a, b] <:+: l
  := by
  have hhead : [b] <+: l ↔ l.head? = some b := by
    cases l with
    | nil => simp
    | cons d l => simp [List.cons_prefix_cons, eq_comm]
  rw [List.infix_cons_iff, List.cons_prefix_cons, hhead]

/-- A pair does not begin where its first item is missing. -/
theorem infix_pair_append {α : Type} {a b : α} {l l' : List α} (h : a ∉ l) :
  [a, b] <:+: l ++ l' ↔ [a, b] <:+: l'
  := by
  induction l with
  | nil => rfl
  | cons c l ih =>
    obtain ⟨hne, hl⟩ := List.ne_and_not_mem_of_not_mem_cons h
    rw [List.cons_append, infix_pair_cons, or_iff_right (fun hhead => hne hhead.1), ih hl]

namespace OptionSlot

variable {word : String} {a : Arg}

/-- The word is no operand of the option. -/
def Lacks (word : String) (x : OptionSlot) : Prop :=
  ∀ operands ∈ x.operands, .text word ∉ operands

theorem lacks_flag (word keyword : String) (set : Bool) :
  (flag keyword set).Lacks word
  := by
  cases set with
  | false => rintro _ ⟨⟩
  | true =>
    rintro _ ⟨⟩
    exact List.not_mem_nil

theorem lacks_valued {α : Type} {keyword : String} {write : α → Arg}
    (hwrite : ∀ v, .text word ≠ write v) (value : Option α) :
  (valued keyword (value.map write)).Lacks word
  := by
  cases value with
  | none => rintro _ ⟨⟩
  | some v =>
    rintro _ ⟨⟩
    rw [List.mem_singleton]
    apply hwrite

/-- Where a word is the keyword of options with one operand, and no operand itself, it stands
before the operand of one of them. -/
theorem infix_flatMap_args_iff {xs : List OptionSlot} (hlacks : ∀ x ∈ xs, x.Lacks word)
    (hwidth : ∀ x ∈ xs, x.keyword = word → x.width = 1) :
  [.text word, a] <:+: xs.flatMap args ↔ ∃ x ∈ xs, x.keyword = word ∧ x.operands = some [a]
  := by
  induction xs with
  | nil => simp
  | cons x xs ih =>
    obtain ⟨hx, hxs⟩ := List.forall_mem_cons.mp hlacks
    obtain ⟨hxwidth, hxswidth⟩ := List.forall_mem_cons.mp hwidth
    rw [List.flatMap_cons, List.exists_mem_cons_iff, ← ih hxs hxswidth, args]
    cases hgiven : x.operands with
    | none => simp
    | some operands =>
      have hpair : .text word = Arg.text x.keyword ∧
          (operands ++ xs.flatMap args).head? = some a ↔
        x.keyword = word ∧ some operands = some [a]
        := by
        rw [Arg.text.injEq, eq_comm, Option.some_inj]
        apply and_congr_right
        intro hkeyword
        obtain ⟨b, rfl⟩ : ∃ b, operands = [b] := by
          rw [← List.length_eq_one_iff, x.length_eq operands hgiven, hxwidth hkeyword]
        simp
      rw [List.cons_append, infix_pair_cons, infix_pair_append (hx operands hgiven), hpair]

end OptionSlot

/-! ### The words of a clause -/

section Words

variable {word : String} (hword : word ∈ numberWords)
include hword

theorem ne_of_not_mem {s : String} (h : s ∉ numberWords) :
  Arg.text word ≠ .text s
  := by
  rintro ⟨⟩
  exact h hword

/-- What is written like a number is none of the words. -/
theorem ne_of_isNumberChar {s : String} (h : ∀ c ∈ s.toList, isNumberChar c = true) :
  Arg.text word ≠ .text s
  := by
  have hwords : ∀ word ∈ numberWords, word.toList.all isNumberChar = false := by
    decide
  apply ne_of_not_mem hword
  intro hs
  have hall := List.all_eq_true.mpr h
  rw [hwords s hs] at hall
  cases hall

theorem Arg.ne_ofNat (n : ℕ) :
  .text word ≠ Arg.ofNat n
  := by
  apply ne_of_isNumberChar hword
  intro c hc
  rw [Nat.toString_eq_repr, Nat.toList_repr] at hc
  apply isNumberChar_of_mem_toDigits hc

theorem Binary64.ne_chars (style : NumberStyle) (x : Binary64) :
  .text word ≠ Arg.text (String.ofList (x.chars style))
  := by
  apply ne_of_isNumberChar hword
  intro c hc
  rw [String.toList_ofList] at hc
  apply isNumberChar_of_mem_chars hc

theorem Phonetic.ne_code (p : Phonetic) :
  .text word ≠ Arg.text p.code
  := by
  apply ne_of_not_mem hword
  cases p <;> decide

theorem VectorAlgorithm.ne_keyword (algorithm : VectorAlgorithm) :
  .text word ≠ Arg.text algorithm.keyword
  := by
  apply ne_of_not_mem hword
  cases algorithm <;> decide

theorem ElementType.ne_keyword (t : ElementType) :
  .text word ≠ Arg.text t.keyword
  := by
  apply ne_of_not_mem hword
  cases t <;> decide

theorem DistanceMetric.ne_keyword (metric : DistanceMetric) :
  .text word ≠ Arg.text metric.keyword
  := by
  apply ne_of_not_mem hword
  cases metric <;> decide

/-- A single character is none of the words. -/
theorem ne_singleton (c : Char) :
  .text word ≠ Arg.text (String.singleton c)
  := by
  have hlengths : ∀ word ∈ numberWords, word.length ≠ 1 := by
    decide
  apply ne_of_not_mem hword
  intro hc
  exact hlengths _ hc String.length_singleton

namespace FieldKind

/-- None of the words is the value of an option. -/
theorem lacks_slots (k : FieldKind) :
  ∀ x ∈ k.slots, x.Lacks word
  := by
  have hcount (keyword : String) (value : Option ℕ) :
    (OptionSlot.valued keyword (value.map .ofNat)).Lacks word
    := OptionSlot.lacks_valued (Arg.ne_ofNat hword) value
  have hflag (keyword : String) (set : Bool) : (OptionSlot.flag keyword set).Lacks word :=
    OptionSlot.lacks_flag word keyword set
  cases k with
  | text o =>
    simp only [slots, List.forall_mem_cons, List.not_mem_nil, false_imp_iff, implies_true, and_true]
    exact ⟨OptionSlot.lacks_valued (Binary64.ne_chars hword weightStyle) _, hflag _ _, hflag _ _,
      hflag _ _, OptionSlot.lacks_valued (Phonetic.ne_code hword) _⟩
  | tag o =>
    simp only [slots, List.forall_mem_cons, List.not_mem_nil, false_imp_iff, implies_true, and_true]
    exact ⟨OptionSlot.lacks_valued (ne_singleton hword) _, hflag _ _, hflag _ _, hflag _ _⟩
  | numeric o =>
    simp only [slots, List.forall_mem_cons, List.not_mem_nil, false_imp_iff, implies_true, and_true]
    exact ⟨hflag _ _, hflag _ _⟩
  | geo o =>
    simp only [slots, List.forall_mem_cons, List.not_mem_nil, false_imp_iff, implies_true, and_true]
    exact hflag _ _
  | vector o =>
    simp only [slots, VectorOptions.slots, List.forall_mem_cons, List.not_mem_nil, false_imp_iff,
      implies_true, and_true]
    exact ⟨OptionSlot.lacks_valued (ElementType.ne_keyword hword) (some o.elementType),
      hcount _ (some o.dim),
      OptionSlot.lacks_valued (DistanceMetric.ne_keyword hword) (some o.metric),
      hcount _ _, hcount _ _, hcount _ _, hcount _ _, hcount _ _,
      OptionSlot.lacks_valued (Binary64.ne_chars hword .plain) _⟩

/-- The words are none of the arguments before the options of a vector field. -/
theorem not_mem_leadArgs (k : FieldKind) :
  .text word ∉ k.leadArgs
  := by
  rw [leadArgs]
  cases k.algorithm? with
  | none => exact List.not_mem_nil
  | some algorithm =>
    simp only [List.mem_cons, List.not_mem_nil, or_false, not_or]
    exact ⟨VectorAlgorithm.ne_keyword hword algorithm, Arg.ne_ofNat hword _⟩

theorem width_eq_one (k : FieldKind) :
  ∀ x ∈ k.slots, x.keyword = word → x.width = 1
  := by
  have hshapes : ∀ type : FieldType, ∀ shape ∈ type.optionShapes, ∀ word ∈ numberWords,
    shape.1 = word → shape.2 = 1
    := by
    rintro (_ | _ | _ | _ | _) <;> decide
  intro x hx
  apply hshapes k.type x.shape _ word hword
  rw [← shape_slots]
  apply List.mem_map_of_mem hx

/-- A word stands before the value of its option, and nowhere else. -/
theorem infix_optionArgs_iff (k : FieldKind) (a : Arg) :
  [.text word, a] <:+: k.optionArgs ↔ ∃ x ∈ k.slots, x.keyword = word ∧ x.operands = some [a]
  := by
  rw [optionArgs_eq, infix_pair_append (k.not_mem_leadArgs hword),
    OptionSlot.infix_flatMap_args_iff (k.lacks_slots hword) (k.width_eq_one hword)]

end FieldKind

end Words

/-! ### The numbers of a field -/

namespace FieldKind

/-- The weight of a text field. -/
def weight? : FieldKind → Option Binary64
  | .text o => o.weight
  | _ => none

/-- The epsilon of a vector field. -/
def epsilon? : FieldKind → Option Binary64
  | .vector o => o.epsilon
  | _ => none

/-- The kind of a vector field with another epsilon is at fault where the kind itself is. -/
theorem fault?_epsilon (o : VectorOptions) (x y : Binary64) :
  fault? (.vector { o with epsilon := some x }) = fault? (.vector { o with epsilon := some y })
  := rfl

/-- A text field has no fault but a weight that is not usable. -/
theorem fault?_text_eq_none_iff (o : TextOptions) :
  fault? (.text o) = none ↔ ∀ w ∈ o.weight, w.IsUsable
  := by
  rw [fault?]
  cases o.weight with
  | none => simp
  | some w => simp [Binary64.isUsable_iff]

/-- So the weight of a kind that has no fault is usable. -/
theorem isUsable_of_fault?_eq_none {k : FieldKind} (h : k.fault?.isNone = true) :
  ∀ w ∈ k.weight?, w.IsUsable
  := by
  cases k with
  | text o => exact (fault?_text_eq_none_iff o).mp (Option.isNone_iff_eq_none.mp h)
  | _ => rintro _ ⟨⟩

/-- The word for a weight stands before the weight. -/
theorem infix_weight_iff (k : FieldKind) (a : Arg) :
  [.text "WEIGHT", a] <:+: k.optionArgs ↔ ∃ w ∈ k.weight?, weightArg w = a
  := by
  rw [infix_optionArgs_iff (by decide)]
  cases k with
  | text o =>
    simp [slots, OptionSlot.valued, OptionSlot.flag, weight?, Option.map_eq_some_iff]
  | _ => simp [slots, VectorOptions.slots, OptionSlot.valued, OptionSlot.flag, weight?]

/-- The word for an epsilon stands before the epsilon. -/
theorem infix_epsilon_iff (k : FieldKind) (a : Arg) :
  [.text "EPSILON", a] <:+: k.optionArgs ↔ ∃ x ∈ k.epsilon?, .text x.text = a
  := by
  rw [infix_optionArgs_iff (by decide)]
  cases k with
  | vector o =>
    simp [slots, VectorOptions.slots, OptionSlot.valued, epsilon?, Option.map_eq_some_iff]
  | _ => simp [slots, OptionSlot.valued, OptionSlot.flag, epsilon?]

end FieldKind

namespace Field

theorem clauseOptions_args (f : Field) :
  clauseOptions f.args = f.kind.optionArgs
  := by
  rw [args]
  cases f.otherName with
  | none => cases f.kind <;> rfl
  | some otherName => rfl

/-- Each number in the clause of the field is finite and not negative. -/
def NumbersUsable (f : Field) : Prop :=
  ∀ word ∈ numberWords, ∀ a, Follows word a f.args → a.IsUsable

/-- The numbers in a clause are usable exactly if the epsilon is: a weight is in any case. -/
theorem numbersUsable_iff (f : Field) :
  f.NumbersUsable ↔ ∀ x ∈ f.kind.epsilon?, x.IsUsable
  := by
  simp only [NumbersUsable, numberWords, List.forall_mem_cons, List.not_mem_nil, false_imp_iff,
    implies_true, and_true, Follows, clauseOptions_args, FieldKind.infix_weight_iff,
    FieldKind.infix_epsilon_iff]
  constructor
  · rintro ⟨-, hepsilon⟩ x hx
    rw [← Binary64.isUsable_chars_iff x .plain]
    exact hepsilon _ ⟨x, hx, rfl⟩
  · intro h
    constructor
    · rintro _ ⟨w, hw, rfl⟩
      apply (Binary64.isUsable_chars_iff w weightStyle).mpr
      apply FieldKind.isUsable_of_fault?_eq_none f.fault_eq_none w hw
    · rintro _ ⟨x, hx, rfl⟩
      apply (Binary64.isUsable_chars_iff x .plain).mpr (h x hx)

end Field

/-! ### Declarations -/

namespace Assignment

/-- A pair that is put between others gives its value to its option, if no pair after it
does. -/
theorem ofPairs_insert (name : OptionName) (value : OptionValue)
    (before after : List (String × OptionValue)) :
  ofPairs (before ++ (name.text, value) :: after)
    = if name.text ∈ after.map Prod.fst then ofPairs (before ++ after)
      else Function.update (ofPairs (before ++ after)) name (some value)
  := by
  have hother {name' : OptionName} (hne : name' ≠ name) :
    ofPairs (before ++ (name.text, value) :: after) name' = ofPairs (before ++ after) name'
    := by
    have htext : name.text ≠ name'.text := by
      rw [ne_eq, OptionName.text_inj]
      exact hne.symm
    rw [ofPairs, ofPairs, lastValue?_append, lastValue?_append, lastValue?, if_neg htext,
      Option.or_none]
  funext name'
  by_cases hafter : name.text ∈ after.map Prod.fst
  · rw [if_pos hafter]
    by_cases hname : name' = name
    · subst hname
      have hgiven := mt (lastValue?_eq_none_iff _ after).mp (not_not_intro hafter)
      obtain ⟨v, hv⟩ := Option.ne_none_iff_exists'.mp hgiven
      rw [ofPairs, ofPairs, lastValue?_append, lastValue?_append, lastValue?, hv]
      rfl
    · exact hother hname
  · rw [if_neg hafter]
    by_cases hname : name' = name
    · subst hname
      rw [← lastValue?_eq_none_iff] at hafter
      rw [ofPairs, lastValue?_append, lastValue?, hafter, if_pos rfl, Function.update_self]
      rfl
    · rw [Function.update_of_ne hname]
      exact hother hname

/-- A number that is given for an epsilon becomes the epsilon, and changes no other option. -/
theorem vectorOptions?_update_epsilon (given : Assignment) (x : Binary64) :
  vectorOptions? (Function.update given (.vector .epsilon) (some (.number x)))
    = given.vectorOptions?.map fun o => { o with epsilon := some x }
  := by
  simp [vectorOptions?, Option.map_bind, OptionType.read?]

end Assignment

namespace Field

variable {name : String}

theorem exists_make_iff (name : String) (kind : FieldKind) :
  (∃ f, make name kind = .ok f) ↔ name ≠ "" ∧ kind.fault? = none
  := by
  rw [make]
  split
  · rename_i hname
    simp [hname]
  · rename_i hname
    split
    · rename_i fault hfault
      simp [hfault]
    · rename_i hfault
      simp [hname, hfault]

/-- A declaration by name gives a field if its pairs are all taken, no mandatory option is
missing and the options as a whole have no fault. -/
theorem exists_declare_iff (name : String) (type : FieldType)
    (options : List (String × OptionValue)) :
  (∃ f, declare name type options = .ok f) ↔
    name ≠ "" ∧ (∀ p ∈ options, type.Takes p) ∧
      (∀ a ∈ type.mandatory, (OptionName.vector a).text ∈ options.map Prod.fst) ∧
      ∃ kind, (Assignment.ofPairs options).kind? type = some kind ∧ kind.fault? = none
  := by
  constructor
  · rintro ⟨f, hf⟩
    have hdeclaring := declaring_declare name type options
    rw [hf] at hdeclaring
    cases hdeclaring with
    | @declared kind f' named taken complete kind_eq made =>
      obtain ⟨-, hfault⟩ := (exists_make_iff name kind).mp ⟨f', made⟩
      exact ⟨named, taken, complete, kind, kind_eq, hfault⟩
  · rintro ⟨named, taken, complete, kind, kind_eq, hfault⟩
    obtain ⟨f, made⟩ := (exists_make_iff name kind).mpr ⟨named, hfault⟩
    exact ⟨_, (Declaring.declared named taken complete kind_eq made).eq⟩

/-- Of the weights that are given for a text field the last one is looked at. -/
theorem exists_declare_text_iff (name : String) (options : List (String × OptionValue)) :
  (∃ f, declare name .text options = .ok f) ↔
    name ≠ "" ∧ (∀ p ∈ options, FieldType.text.Takes p) ∧
      ∀ w, lastValue? "weight" options = some (.number w) → w.IsUsable
  := by
  have hweight : (Assignment.ofPairs options).textOptions.weight
    = (lastValue? "weight" options).bind OptionType.number.read?
    := rfl
  have hread (w : Binary64) :
    (lastValue? "weight" options).bind OptionType.number.read? = some w ↔
      lastValue? "weight" options = some (.number w)
    := by
    cases lastValue? "weight" options with
    | none => simp
    | some value => cases value <;> simp [OptionType.read?]
  simp only [exists_declare_iff, FieldType.mandatory, List.not_mem_nil, false_imp_iff,
    implies_true, true_and, Assignment.kind?, Option.some_inj, exists_eq_left',
    FieldKind.fault?_text_eq_none_iff, hweight, Option.mem_def, hread]

theorem takes_epsilon (x : Binary64) :
  FieldType.vector.Takes ("epsilon", .number x)
  := ⟨.vector .epsilon, .number, rfl, rfl, rfl⟩

/-- Where one epsilon is taken, every other one is too. -/
theorem exists_declare_epsilon {before after : List (String × OptionValue)} {x : Binary64}
    (h : ∃ f, declare name .vector (before ++ ("epsilon", .number x) :: after) = .ok f)
    (y : Binary64) :
  ∃ f, declare name .vector (before ++ ("epsilon", .number y) :: after) = .ok f
  := by
  rw [exists_declare_iff] at h ⊢
  obtain ⟨named, taken, complete, kind, kind_eq, hfault⟩ := h
  refine ⟨named, ?_, by simpa using complete, ?_⟩
  · intro p hp
    simp only [List.mem_append, List.mem_cons] at hp taken
    obtain hbefore | rfl | hafter := hp
    · exact taken p (.inl hbefore)
    · exact takes_epsilon y
    · exact taken p (.inr (.inr hafter))
  · have hinsert (z : Binary64) :
      Assignment.ofPairs (before ++ ("epsilon", .number z) :: after)
        = if "epsilon" ∈ after.map Prod.fst then Assignment.ofPairs (before ++ after)
          else Function.update (Assignment.ofPairs (before ++ after)) (.vector .epsilon)
            (some (.number z))
      := Assignment.ofPairs_insert (.vector .epsilon) (.number z) before after
    rw [hinsert] at kind_eq ⊢
    split at kind_eq
    · rename_i hafter
      rw [if_pos hafter]
      exact ⟨kind, kind_eq, hfault⟩
    · rename_i hafter
      rw [if_neg hafter]
      simp only [Assignment.kind?, Assignment.vectorOptions?_update_epsilon, Option.map_map,
        Option.map_eq_some_iff, Function.comp_apply] at kind_eq ⊢
      obtain ⟨o, ho, rfl⟩ := kind_eq
      exact ⟨_, ⟨o, ho, rfl⟩, hfault⟩

/-- The numbers in the clause of a field are usable exactly if its epsilon is.  A weight that is
not usable is refused, in typed options and among pairs, where the last weight is the one that
counts; of epsilons each is taken where any other is. -/
theorem numbers_usable_iff (name : String) :
  (∀ f : Field, f.NumbersUsable ↔ ∀ x ∈ f.kind.epsilon?, x.IsUsable) ∧
  (∀ o, (∃ f, make name (.text o) = .ok f) ↔ name ≠ "" ∧ ∀ w ∈ o.weight, w.IsUsable) ∧
  (∀ options, (∃ f, declare name .text options = .ok f) ↔
    name ≠ "" ∧ (∀ p ∈ options, FieldType.text.Takes p) ∧
      ∀ w, lastValue? "weight" options = some (.number w) → w.IsUsable) ∧
  (∀ (o : VectorOptions) x y,
    (∃ f, make name (.vector { o with epsilon := some x }) = .ok f) ↔
      ∃ f, make name (.vector { o with epsilon := some y }) = .ok f) ∧
  (∀ before after x y,
    (∃ f, declare name .vector (before ++ ("epsilon", .number x) :: after) = .ok f) ↔
      ∃ f, declare name .vector (before ++ ("epsilon", .number y) :: after) = .ok f)
  := by
  refine ⟨numbersUsable_iff, ?_, exists_declare_text_iff name, ?_, ?_⟩
  · intro o
    rw [exists_make_iff, FieldKind.fault?_text_eq_none_iff]
  · intro o x y
    rw [exists_make_iff, exists_make_iff, FieldKind.fault?_epsilon o x y]
  · intro before after x y
    exact ⟨fun h => exists_declare_epsilon h y, fun h => exists_declare_epsilon h x⟩

/-! ### An epsilon that is no number -/

/-- The value that is no number. -/
def nan : Binary64 :=
  ⟨0x7FF8000000000000⟩

theorem nan_not_isUsable :
  ¬ nan.IsUsable
  := by
  rw [Binary64.isUsable_iff]
  decide

/-- The options of a field of vectors, with that value for epsilon. -/
def nanOptions : VectorOptions where
  algorithm := .hnsw
  elementType := .float32
  dim := 2
  metric := .euclidean
  epsilon := some nan

/-- The mandatory options among them, as pairs. -/
def hnswPairs : List (String × OptionValue) :=
  [("algorithm", .text "HNSW"), ("type", .text "FLOAT32"),
    ("dim", .number ⟨0x4000000000000000⟩), ("distance_metric", .text "L2")]

theorem exists_of_epsilon? {r : Except SchemaError Field} {x : Binary64}
    (h : r.toOption.bind (fun f => f.kind.epsilon?) = some x) :
  ∃ f, r = .ok f ∧ f.kind.epsilon? = some x
  := by
  cases r with
  | error e => cases h
  | ok f => exact ⟨f, rfl, h⟩

theorem exists_make_nan :
  ∃ f, make "v" (.vector nanOptions) = .ok f ∧ f.kind.epsilon? = some nan
  := exists_of_epsilon? (by decide +kernel)

/-- A field with this epsilon has it in its clause. -/
theorem follows_nan {f : Field} (h : f.kind.epsilon? = some nan) :
  Follows "EPSILON" (.text "NaN") f.args
  := by
  have htext : nan.text = "NaN" := by
    decide +kernel
  rw [Follows, clauseOptions_args, FieldKind.infix_epsilon_iff]
  exact ⟨nan, h, congrArg Arg.text htext⟩

/-- For an epsilon NaN is taken and written, and the pairs take it as they take zero; for a
weight it is refused. -/
theorem nan_epsilon_written :
  (∃ f, make "v" (.vector nanOptions) = .ok f ∧ Follows "EPSILON" (.text "NaN") f.args ∧
    ¬ f.NumbersUsable) ∧
  (∃ f, declare "v" .vector (hnswPairs ++ [("epsilon", .number nan)]) = .ok f) ∧
  ∀ f, make "v" (.text { weight := some nan }) ≠ .ok f
  := by
  obtain ⟨hclause, hweight, -, -, hepsilon⟩ := numbers_usable_iff "v"
  refine ⟨?_, ?_, ?_⟩
  · obtain ⟨f, hf, hnan⟩ := exists_make_nan
    refine ⟨f, hf, follows_nan hnan, ?_⟩
    rw [hclause]
    intro h
    exact nan_not_isUsable (h nan hnan)
  · rw [hepsilon hnswPairs [] nan ⟨0⟩]
    obtain ⟨f, hf, -⟩ : ∃ f,
      declare "v" .vector (hnswPairs ++ [("epsilon", .number ⟨0⟩)]) = .ok f ∧
        f.kind.epsilon? = some ⟨0⟩
      := exists_of_epsilon? (by decide +kernel)
    exact ⟨f, hf⟩
  · intro f hf
    obtain ⟨-, h⟩ := (hweight { weight := some nan }).mp ⟨f, hf⟩
    exact nan_not_isUsable (h nan rfl)

/-- So neither the fields that are made from typed options nor those that are declared by
name have usable numbers throughout. -/
theorem not_numbers_usable :
  ¬ (∀ name kind f, make name kind = .ok f → f.NumbersUsable) ∧
  ¬ ∀ name type options f, declare name type options = .ok f → f.NumbersUsable
  := by
  have hunusable {f : Field} (hnan : f.kind.epsilon? = some nan) : ¬ f.NumbersUsable := by
    rw [numbersUsable_iff]
    intro h
    exact nan_not_isUsable (h nan hnan)
  constructor
  · intro h
    obtain ⟨f, hf, hnan⟩ := exists_make_nan
    exact hunusable hnan (h _ _ f hf)
  · intro h
    obtain ⟨f, hf, hnan⟩ : ∃ f,
      declare "v" .vector (hnswPairs ++ [("epsilon", .number nan)]) = .ok f ∧
        f.kind.epsilon? = some nan
      := exists_of_epsilon? (by decide +kernel)
    exact hunusable hnan (h _ _ _ f hf)

end Field

end FullText
