import FullText.Proofs.Wire.Counted
import FullText.Query.Options
import Mathlib.Data.List.Basic

/-!
# The clauses of a search

The arguments after a query string are a run of clauses, without anything between
them.  A clause starts with its keyword, and the keyword and the counts after it say
how far the clause goes; so `readClauses` takes one clause after another off the
front, and never takes a name or a value for a keyword.

A clause is read back from its arguments as long as its counts are exact, so a run of
such clauses is read back whole (`readClauses_flatMap`).
-/

namespace FullText

/-! ### Keywords -/

/-- An option that is a keyword alone. -/
inductive SearchFlag where
  | noContent
  | verbatim
  | noStopwords
  | withScores
  | withPayloads
  | inOrder
  deriving DecidableEq

namespace SearchFlag

/-- The keyword of a flag. -/
def word : SearchFlag → String
  | .noContent => "NOCONTENT"
  | .verbatim => "VERBATIM"
  | .noStopwords => "NOSTOPWORDS"
  | .withScores => "WITHSCORES"
  | .withPayloads => "WITHPAYLOADS"
  | .inOrder => "INORDER"

/-- Whether a flag is set. -/
def get (f : SearchFlag) (o : SearchOptions) : Bool :=
  match f with
  | .noContent => o.noContent
  | .verbatim => o.verbatim
  | .noStopwords => o.noStopwords
  | .withScores => o.withScores
  | .withPayloads => o.withPayloads
  | .inOrder => o.inOrder

/-- The options with a flag set or not. -/
def assign (f : SearchFlag) (set : Bool) (o : SearchOptions) : SearchOptions :=
  match f with
  | .noContent => { o with noContent := set }
  | .verbatim => { o with verbatim := set }
  | .noStopwords => { o with noStopwords := set }
  | .withScores => { o with withScores := set }
  | .withPayloads => { o with withPayloads := set }
  | .inOrder => { o with inOrder := set }

end SearchFlag

/-- The options that have a clause. -/
inductive SearchKeyword where
  | flag (f : SearchFlag)
  | filter
  | returned
  | summary
  | highlight
  | slop
  | language
  | sorting
  | paging
  | scorer
  | params
  | dialect
  deriving DecidableEq

namespace SearchKeyword

/-- The word that a clause starts with. -/
def word : SearchKeyword → String
  | .flag f => f.word
  | .filter => "FILTER"
  | .returned => "RETURN"
  | .summary => "SUMMARIZE"
  | .highlight => "HIGHLIGHT"
  | .slop => "SLOP"
  | .language => "LANGUAGE"
  | .sorting => "SORTBY"
  | .paging => "LIMIT"
  | .scorer => "SCORER"
  | .params => "PARAMS"
  | .dialect => "DIALECT"

/-- All keywords, in the order of their clauses. -/
def all : List SearchKeyword :=
  [.flag .noContent, .flag .verbatim, .flag .noStopwords, .flag .withScores,
    .flag .withPayloads, .filter, .returned, .summary, .highlight, .slop, .language,
    .flag .inOrder, .sorting, .paging, .scorer, .params, .dialect]

/-- A clause of one keyword may stand before one of another.  Only filters are
repeated. -/
def Precedes (k k' : SearchKeyword) : Prop :=
  all.idxOf k < all.idxOf k' ∨ k = .filter ∧ k' = .filter

/-- The keyword of a word. -/
def ofWord? (s : String) : Option SearchKeyword :=
  all.find? fun k => k.word == s

/-- No two keywords have the same word. -/
theorem ofWord?_word (k : SearchKeyword) :
  ofWord? k.word = some k
  := by
  cases k with
  | flag f => cases f <;> decide
  | _ => decide

end SearchKeyword

/-! ### Clauses -/

/-- A filter with its ends as text. -/
structure FilterTexts where
  field : String
  low : String
  high : String
  deriving DecidableEq

/-- The texts of a filter. -/
def NumericFilter.texts (f : NumericFilter) : FilterTexts :=
  ⟨f.field, .ofList (f.low.chars Bound.leastText), .ofList (f.high.chars Bound.greatestText)⟩

/-- A clause as it stands on the wire, with the counts that it announces. -/
inductive SearchClause where
  | flag (f : SearchFlag)
  | filter (f : FilterTexts)
  | returned (fields : Counted String)
  | summary (fields : Option (Counted String)) (fragments length : Nat) (separator : String)
  | highlight (fields : Option (Counted String)) (opening closing : String)
  | slop (n : Nat)
  | language (name : String)
  | sorting (s : Sorting)
  | paging (p : Paging)
  | scorer (name : String)
  | params (given : Counted (String × Arg))
  | dialect (n : Nat)

/-- The arguments of a parameter. -/
def paramArgs (param : String × Arg) : List Arg :=
  [.text param.1, param.2]

/-- The fields of a clause, if it is restricted to some. -/
def restrictionArgs : Option (Counted String) → List Arg
  | some fields => .text "FIELDS" :: fields.args nameArgs
  | none => []

namespace SearchClause

/-- What a clause is about. -/
def keyword : SearchClause → SearchKeyword
  | .flag f => .flag f
  | .filter _ => .filter
  | .returned _ => .returned
  | .summary .. => .summary
  | .highlight .. => .highlight
  | .slop _ => .slop
  | .language _ => .language
  | .sorting _ => .sorting
  | .paging _ => .paging
  | .scorer _ => .scorer
  | .params _ => .params
  | .dialect _ => .dialect

/-- The arguments of a clause after its keyword. -/
def operands : SearchClause → List Arg
  | .flag _ => []
  | .filter f => [.text f.field, .text f.low, .text f.high]
  | .returned fields => fields.args nameArgs
  | .summary fields fragments length separator =>
    restrictionArgs fields ++
      [.text "FRAGS", .ofNat fragments, .text "LEN", .ofNat length, .text "SEPARATOR",
        .text separator]
  | .highlight fields opening closing =>
    restrictionArgs fields ++ [.text "TAGS", .text opening, .text closing]
  | .slop n | .dialect n => [.ofNat n]
  | .language name | .scorer name => [.text name]
  | .sorting s => [.text s.field, .text s.order.keyword]
  | .paging p => [.ofNat p.offset, .ofNat p.size]
  | .params given => given.args paramArgs

/-- The arguments of a clause. -/
def args (c : SearchClause) : List Arg :=
  .text c.keyword.word :: c.operands

/-- Every count of a clause is the number of the arguments that it announces. -/
def IsExact : SearchClause → Prop
  | .returned fields => fields.IsExact nameArgs
  | .summary fields _ _ _ => ∀ counted ∈ fields, counted.IsExact nameArgs
  | .highlight fields _ _ => ∀ counted ∈ fields, counted.IsExact nameArgs
  | .params given => given.IsExact paramArgs
  | _ => True

end SearchClause

/-! ### Reading clauses -/

/-- A given word. -/
def takeWord (word : String) : ArgReader Unit
  | .text s :: rest => if s = word then some ((), rest) else none
  | _ => none

/-- A parameter. -/
def takeParam : ArgReader (String × Arg) := fun args => do
  let (name, args) ← takeText args
  let (value, args) ← takeArg args
  some ((name, value), args)

/-- The fields of a clause, if a list of them comes first. -/
def takeRestriction : ArgReader (Option (Counted String)) := fun args =>
  match takeWord "FIELDS" args with
  | some (_, args) => (takeCounted 1 takeText args).map fun (fields, args) => (some fields, args)
  | none => some (none, args)

/-- The direction of a sort. -/
def takeOrder : ArgReader SortOrder
  | .text "ASC" :: rest => some (.ascending, rest)
  | .text "DESC" :: rest => some (.descending, rest)
  | _ => none

/-- The clause of a keyword, from the arguments after the keyword. -/
def takeOperands : SearchKeyword → ArgReader SearchClause
  | .flag f, args => some (.flag f, args)
  | .filter, args => do
    let (field, args) ← takeText args
    let (low, args) ← takeText args
    let (high, args) ← takeText args
    some (.filter ⟨field, low, high⟩, args)
  | .returned, args => do
    let (fields, args) ← takeCounted 1 takeText args
    some (.returned fields, args)
  | .summary, args => do
    let (fields, args) ← takeRestriction args
    let (_, args) ← takeWord "FRAGS" args
    let (fragments, args) ← takeNat args
    let (_, args) ← takeWord "LEN" args
    let (length, args) ← takeNat args
    let (_, args) ← takeWord "SEPARATOR" args
    let (separator, args) ← takeText args
    some (.summary fields fragments length separator, args)
  | .highlight, args => do
    let (fields, args) ← takeRestriction args
    let (_, args) ← takeWord "TAGS" args
    let (opening, args) ← takeText args
    let (closing, args) ← takeText args
    some (.highlight fields opening closing, args)
  | .slop, args => do
    let (n, args) ← takeNat args
    some (.slop n, args)
  | .language, args => do
    let (name, args) ← takeText args
    some (.language name, args)
  | .sorting, args => do
    let (field, args) ← takeText args
    let (order, args) ← takeOrder args
    some (.sorting ⟨field, order⟩, args)
  | .paging, args => do
    let (offset, args) ← takeNat args
    let (size, args) ← takeNat args
    some (.paging ⟨offset, size⟩, args)
  | .scorer, args => do
    let (name, args) ← takeText args
    some (.scorer name, args)
  | .params, args => do
    let (given, args) ← takeCounted 2 takeParam args
    some (.params given, args)
  | .dialect, args => do
    let (n, args) ← takeNat args
    some (.dialect n, args)

/-- A clause. -/
def takeClause : ArgReader SearchClause := fun args => do
  let (word, args) ← takeText args
  let keyword ← SearchKeyword.ofWord? word
  takeOperands keyword args

/-- Clauses up to the end of the arguments; the first argument bounds their number. -/
def readClauses : Nat → List Arg → Option (List SearchClause)
  | _, [] => some []
  | 0, _ :: _ => none
  | bound + 1, args => do
    let (clause, rest) ← takeClause args
    let clauses ← readClauses bound rest
    some (clause :: clauses)

/-! ### Clauses are read back -/

@[simp]
theorem takeWord_self (word : String) (rest : List Arg) :
  takeWord word (.text word :: rest) = some ((), rest)
  := if_pos rfl

theorem takeWord_of_ne {word s : String} (h : s ≠ word) (rest : List Arg) :
  takeWord word (.text s :: rest) = none
  := if_neg h

theorem takeParams_recovers {given : Counted (String × Arg)} (h : given.IsExact paramArgs) :
  (takeCounted 2 takeParam).Recovers (given.args paramArgs) given
  := takeCounted_recovers Nat.two_pos (fun _ => rfl) (fun _ _ => rfl) h

/-- The fields are read back if it can be seen that no list of them comes first. -/
theorem takeRestriction_append {fields : Option (Counted String)}
    (h : ∀ counted ∈ fields, counted.IsExact nameArgs) {s : String} (hs : s ≠ "FIELDS")
    (rest : List Arg) :
  takeRestriction (restrictionArgs fields ++ .text s :: rest) = some (fields, .text s :: rest)
  := by
  cases fields with
  | none =>
    simp only [restrictionArgs, List.nil_append, takeRestriction, takeWord_of_ne hs]
  | some fields =>
    have hfields := takeNames_recovers (h fields rfl) (.text s :: rest)
    simp only [restrictionArgs, List.cons_append, takeRestriction, takeWord_self, hfields,
      Option.map_some]

theorem takeOrder_recovers (order : SortOrder) :
  takeOrder.Recovers [.text order.keyword] order
  := by
  intro rest
  cases order with
  | ascending => rfl
  | descending => rfl

/-- A clause whose counts are exact is read back from its operands. -/
theorem takeOperands_recovers {c : SearchClause} (hc : c.IsExact) :
  (takeOperands c.keyword).Recovers c.operands c
  := by
  intro rest
  cases c with
  | flag f => rfl
  | filter f => rfl
  | returned fields =>
    have hfields := takeNames_recovers hc rest
    simp only [SearchClause.keyword, SearchClause.operands, takeOperands, hfields]
    rfl
  | summary fields fragments length separator =>
    simp only [SearchClause.keyword, SearchClause.operands, takeOperands, List.append_assoc,
      List.cons_append, List.nil_append, takeRestriction_append hc (by decide : "FRAGS" ≠ "FIELDS"),
      takeWord_self, takeNat_ofNat, takeText_text, Option.bind_eq_bind, Option.bind_some]
  | highlight fields opening closing =>
    simp only [SearchClause.keyword, SearchClause.operands, takeOperands, List.append_assoc,
      List.cons_append, List.nil_append, takeRestriction_append hc (by decide : "TAGS" ≠ "FIELDS"),
      takeWord_self, takeText_text, Option.bind_eq_bind, Option.bind_some]
  | slop n =>
    simp only [SearchClause.keyword, SearchClause.operands, takeOperands, List.cons_append,
      List.nil_append, takeNat_ofNat, Option.bind_eq_bind, Option.bind_some]
  | language name => rfl
  | sorting s =>
    have horder := takeOrder_recovers s.order rest
    simp only [SearchClause.keyword, SearchClause.operands, takeOperands, List.cons_append,
      List.nil_append, takeText_text, Option.bind_eq_bind, Option.bind_some] at horder ⊢
    rw [horder]
    rfl
  | paging p =>
    simp only [SearchClause.keyword, SearchClause.operands, takeOperands, List.cons_append,
      List.nil_append, takeNat_ofNat, Option.bind_eq_bind, Option.bind_some]
  | scorer name => rfl
  | params given =>
    have hgiven := takeParams_recovers hc rest
    simp only [SearchClause.keyword, SearchClause.operands, takeOperands, hgiven]
    rfl
  | dialect n =>
    simp only [SearchClause.keyword, SearchClause.operands, takeOperands, List.cons_append,
      List.nil_append, takeNat_ofNat, Option.bind_eq_bind, Option.bind_some]

theorem takeClause_recovers {c : SearchClause} (hc : c.IsExact) :
  takeClause.Recovers c.args c
  := by
  intro rest
  have hoperands := takeOperands_recovers hc rest
  simp only [takeClause, SearchClause.args, List.cons_append, takeText_text,
    Option.bind_eq_bind, Option.bind_some, SearchKeyword.ofWord?_word, hoperands]

/-- A run of clauses has an argument for each at least. -/
theorem SearchClause.length_le_length_flatMap (clauses : List SearchClause) :
  clauses.length ≤ (clauses.flatMap args).length
  := by
  induction clauses with
  | nil => apply Nat.zero_le
  | cons c clauses ih =>
    rw [List.flatMap_cons, args, List.length_append, List.length_cons, List.length_cons]
    omega

/-- A run of clauses is read back clause by clause. -/
theorem readClauses_flatMap {clauses : List SearchClause} (h : ∀ c ∈ clauses, c.IsExact)
    {bound : Nat} (hbound : clauses.length ≤ bound) :
  readClauses bound (clauses.flatMap SearchClause.args) = some clauses
  := by
  induction clauses generalizing bound with
  | nil => rw [List.flatMap_nil, readClauses]
  | cons c clauses ih =>
    cases bound with
    | zero => cases hbound
    | succ bound =>
      have hc := takeClause_recovers (h c List.mem_cons_self) (clauses.flatMap SearchClause.args)
      have hclauses := ih (fun c hc => h c (List.mem_cons_of_mem _ hc))
        (Nat.le_of_succ_le_succ hbound)
      rw [List.flatMap_cons, readClauses, hc]
      · simp only [Option.bind_eq_bind, Option.bind_some, hclauses]
      · apply List.cons_ne_nil

end FullText
