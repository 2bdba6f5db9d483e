import FullText.Proofs.Query.Clauses
import Mathlib.Data.List.Nodup

/-!
# Search options are decoded from their arguments

The arguments of options are those of their clauses (`SearchOptions.args_eq_flatMap`),
and a run of clauses tells its options when each clause is applied in turn to options
that have none (`OptionsView.ofClauses`).  `SearchOptions.args_decode` puts this
together with the reader of clauses: the options can be told from their arguments, up
to the ends of the filters, of which it is the texts that can be told.
-/

namespace FullText

/-! ### What can be told of options -/

/-- Options whose filters have their ends as text. -/
structure OptionsView where
  filters : List FilterTexts := []
  /-- The options without their filters. -/
  others : SearchOptions := {}

/-- What can be told of options: all but how the ends of a filter came to their texts. -/
def SearchOptions.view (o : SearchOptions) : OptionsView :=
  ⟨o.filters.map NumericFilter.texts, { o with filters := [] }⟩

/-- The fields that a clause is restricted to, none if it is not restricted. -/
def restrictedTo (fields : Option (Counted String)) : List String :=
  (fields.map Counted.items).getD []

/-- The view with what a clause says. -/
def SearchClause.apply (view : OptionsView) : SearchClause → OptionsView
  | .flag f => { view with others := f.assign true view.others }
  | .filter f => { view with filters := view.filters ++ [f] }
  | .returned fields => { view with others := { view.others with returnFields := fields.items } }
  | .summary fields fragments length separator =>
    let s : Summary := ⟨restrictedTo fields, fragments, length, separator⟩
    { view with others := { view.others with summary := some s } }
  | .highlight fields opening closing =>
    let h : Highlight := ⟨restrictedTo fields, opening, closing⟩
    { view with others := { view.others with highlight := some h } }
  | .slop n => { view with others := { view.others with slop := some n } }
  | .language name => { view with others := { view.others with language := some name } }
  | .sorting s => { view with others := { view.others with sorting := some s } }
  | .paging p => { view with others := { view.others with paging := some p } }
  | .scorer name => { view with others := { view.others with scorer := some name } }
  | .params given => { view with others := { view.others with params := given.items } }
  | .dialect n => { view with others := { view.others with dialect := some n } }

namespace OptionsView

/-- What a run of clauses tells of the options. -/
def ofClauses (clauses : List SearchClause) : OptionsView :=
  clauses.foldl SearchClause.apply {}

/-- The view of the options whose arguments are given. -/
def ofArgs? (args : List Arg) : Option OptionsView :=
  (readClauses args.length args).map ofClauses

/-- The view with one option taken over from `o`. -/
def adopt (o : SearchOptions) (view : OptionsView) : SearchKeyword → OptionsView
  | .flag f => { view with others := f.assign (f.get o) view.others }
  | .filter => { view with filters := o.filters.map NumericFilter.texts }
  | .returned => { view with others := { view.others with returnFields := o.returnFields } }
  | .summary => { view with others := { view.others with summary := o.summary } }
  | .highlight => { view with others := { view.others with highlight := o.highlight } }
  | .slop => { view with others := { view.others with slop := o.slop } }
  | .language => { view with others := { view.others with language := o.language } }
  | .sorting => { view with others := { view.others with sorting := o.sorting } }
  | .paging => { view with others := { view.others with paging := o.paging } }
  | .scorer => { view with others := { view.others with scorer := o.scorer } }
  | .params => { view with others := { view.others with params := o.params } }
  | .dialect => { view with others := { view.others with dialect := o.dialect } }

/-- An option is not there yet. -/
def Lacks (view : OptionsView) (k : SearchKeyword) : Prop :=
  view.adopt {} k = view

/-- Taking over one option leaves the others alone. -/
theorem adopt_comm {k k' : SearchKeyword} (h : k ≠ k') (o o' : SearchOptions)
    (view : OptionsView) :
  (view.adopt o k).adopt o' k' = (view.adopt o' k').adopt o k
  := by
  cases k with
  | flag f =>
    cases k' with
    | flag f' =>
      cases f <;> cases f' <;> first | exact (h rfl).elim | rfl
    | _ => cases f <;> rfl
  | _ =>
    cases k' with
    | flag f' => cases f' <;> rfl
    | _ => first | exact (h rfl).elim | rfl

/-- Taking over all options gives the view of them. -/
theorem foldl_adopt_all (o : SearchOptions) :
  SearchKeyword.all.foldl (adopt o) {} = o.view
  := by
  simp only [SearchKeyword.all, List.foldl_cons, List.foldl_nil, adopt, SearchFlag.assign,
    SearchFlag.get, SearchOptions.view]

theorem lacks_empty (k : SearchKeyword) :
  Lacks {} k
  := by
  cases k with
  | flag f => cases f <;> rfl
  | _ => rfl

end OptionsView

/-! ### The clauses of options -/

namespace SearchOptions

/-- The fields that a clause is restricted to, counted if there are any. -/
def restriction (fields : List String) : Option (Counted String) :=
  if fields.isEmpty then none else some (.of nameArgs fields)

/-- The clauses of one keyword. -/
def clausesOf (o : SearchOptions) : SearchKeyword → List SearchClause
  | .flag f => if f.get o then [.flag f] else []
  | .filter => o.filters.map fun f => .filter f.texts
  | .returned => (restriction o.returnFields).toList.map .returned
  | .summary => o.summary.toList.map fun s =>
    .summary (restriction s.fields) s.fragments s.length s.separator
  | .highlight => o.highlight.toList.map fun h =>
    .highlight (restriction h.fields) h.opening h.closing
  | .slop => o.slop.toList.map .slop
  | .language => o.language.toList.map .language
  | .sorting => o.sorting.toList.map .sorting
  | .paging => o.paging.toList.map .paging
  | .scorer => o.scorer.toList.map .scorer
  | .params => if o.params.isEmpty then [] else [.params (.of paramArgs o.params)]
  | .dialect => o.dialect.toList.map .dialect

/-- The clauses of options, in the order of their keywords. -/
def clauses (o : SearchOptions) : List SearchClause :=
  SearchKeyword.all.flatMap o.clausesOf

/-- The arguments of one keyword. -/
def argsOf (o : SearchOptions) : SearchKeyword → List Arg
  | .flag f => Arg.flag (f.get o) f.word
  | .filter => o.filters.flatMap NumericFilter.args
  | .returned => o.returnArgs
  | .summary => optionalArgs Summary.args o.summary
  | .highlight => optionalArgs Highlight.args o.highlight
  | .slop => Arg.option "SLOP" (o.slop.map .ofNat)
  | .language => Arg.option "LANGUAGE" (o.language.map .text)
  | .sorting => optionalArgs Sorting.args o.sorting
  | .paging => optionalArgs Paging.args o.paging
  | .scorer => Arg.option "SCORER" (o.scorer.map .text)
  | .params => paramsArgs o.params
  | .dialect => Arg.option "DIALECT" (o.dialect.map .ofNat)

/-- The arguments of options go from keyword to keyword. -/
theorem args_eq_flatMap_argsOf (o : SearchOptions) :
  o.args = SearchKeyword.all.flatMap o.argsOf
  := by
  simp only [args, SearchKeyword.all, List.flatMap_cons, List.flatMap_nil, List.append_nil,
    List.append_assoc, argsOf, SearchFlag.get, SearchFlag.word]

theorem fieldsArgs_eq (fields : List String) :
  fieldsArgs fields = restrictionArgs (restriction fields)
  := by
  rw [fieldsArgs, restriction]
  split
  · rfl
  · rw [Arg.counted_eq_args]
    rfl

/-- An option that may be absent has a clause if it is there. -/
theorem optionalArgs_eq {α : Type} {args : α → List Arg} {clause : α → SearchClause}
    (h : ∀ a, args a = (clause a).args) (x : Option α) :
  optionalArgs args x = (x.toList.map clause).flatMap SearchClause.args
  := by
  cases x with
  | none => rfl
  | some a =>
    simp only [optionalArgs, Option.toList_some, List.map_cons, List.map_nil, List.flatMap_cons,
      List.flatMap_nil, List.append_nil, h]

/-- A keyword with one value is an option that may be absent. -/
theorem option_eq_optionalArgs {α : Type} (keyword : String) (arg : α → Arg) (x : Option α) :
  Arg.option keyword (x.map arg) = optionalArgs (fun a => [.text keyword, arg a]) x
  := by
  cases x with
  | none => rfl
  | some a => rfl

/-- The arguments of a keyword are those of its clauses. -/
theorem argsOf_eq_flatMap (o : SearchOptions) (k : SearchKeyword) :
  o.argsOf k = (o.clausesOf k).flatMap SearchClause.args
  := by
  cases k with
  | flag f =>
    rw [argsOf, clausesOf, Arg.flag]
    split
    · rfl
    · rfl
  | filter =>
    rw [argsOf, clausesOf, List.flatMap_map]
    rfl
  | returned =>
    rw [argsOf, clausesOf, returnArgs, restriction]
    split
    · rfl
    · rw [Arg.counted_eq_args]
      simp only [Option.toList_some, List.map_cons, List.map_nil, List.flatMap_cons,
        List.flatMap_nil, List.append_nil]
      rfl
  | summary =>
    apply optionalArgs_eq
    intro s
    rw [Summary.args, fieldsArgs_eq]
    rfl
  | highlight =>
    apply optionalArgs_eq
    intro h
    rw [Highlight.args, fieldsArgs_eq]
    rfl
  | sorting =>
    apply optionalArgs_eq
    intro s
    rfl
  | paging =>
    apply optionalArgs_eq
    intro p
    rfl
  | params =>
    have hlength : (o.params.flatMap paramArgs).length = 2 * o.params.length := by
      apply length_flatMap_of_width
      intro param
      rfl
    rw [argsOf, clausesOf, paramsArgs]
    split
    · rfl
    · rw [← hlength, List.flatMap_cons, List.flatMap_nil, List.append_nil]
      rfl
  | _ =>
    rw [argsOf, option_eq_optionalArgs]
    apply optionalArgs_eq
    intro a
    rfl

/-- The arguments of options are those of their clauses. -/
theorem args_eq_flatMap (o : SearchOptions) :
  o.args = o.clauses.flatMap SearchClause.args
  := by
  rw [args_eq_flatMap_argsOf, clauses, List.flatMap_assoc]
  congr
  funext k
  apply argsOf_eq_flatMap

/-- A list of fields that a clause is restricted to is counted rightly. -/
theorem isExact_restriction (fields : List String) :
  ∀ counted ∈ restriction fields, counted.IsExact nameArgs
  := by
  rw [restriction]
  split
  · rintro _ ⟨⟩
  · rintro _ ⟨⟩
    apply Counted.isExact_of

theorem restrictedTo_restriction (fields : List String) :
  restrictedTo (restriction fields) = fields
  := by
  rw [restriction]
  split
  · rename_i h
    rw [List.isEmpty_iff.mp h]
    rfl
  · rfl

/-- The clauses of a keyword are about it, and their counts are exact. -/
theorem spec_of_mem_clausesOf {o : SearchOptions} {k : SearchKeyword} {c : SearchClause}
    (h : c ∈ o.clausesOf k) :
  c.keyword = k ∧ c.IsExact
  := by
  cases k with
  | flag f =>
    rw [clausesOf] at h
    split at h
    · rw [List.mem_singleton.mp h]
      exact ⟨rfl, trivial⟩
    · cases h
  | params =>
    rw [clausesOf] at h
    split at h
    · cases h
    · rw [List.mem_singleton.mp h]
      exact ⟨rfl, Counted.isExact_of ..⟩
  | returned =>
    obtain ⟨fields, hfields, rfl⟩ := List.mem_map.mp h
    exact ⟨rfl, isExact_restriction _ _ (Option.mem_toList.mp hfields)⟩
  | summary =>
    obtain ⟨s, -, rfl⟩ := List.mem_map.mp h
    exact ⟨rfl, isExact_restriction _⟩
  | highlight =>
    obtain ⟨h, -, rfl⟩ := List.mem_map.mp h
    exact ⟨rfl, isExact_restriction _⟩
  | _ =>
    obtain ⟨_, -, rfl⟩ := List.mem_map.mp h
    exact ⟨rfl, trivial⟩

/-- All counts of the arguments are exact. -/
theorem isExact_of_mem_clauses (o : SearchOptions) :
  ∀ c ∈ o.clauses, c.IsExact
  := by
  intro c hc
  obtain ⟨k, -, hk⟩ := List.mem_flatMap.mp hc
  apply (spec_of_mem_clausesOf hk).2

/-- No keyword but that of filters has two clauses. -/
theorem length_clausesOf_le (o : SearchOptions) {k : SearchKeyword} (hk : k ≠ .filter) :
  (o.clausesOf k).length ≤ 1
  := by
  have hoption {α : Type} (x : Option α) (clause : α → SearchClause) :
    (x.toList.map clause).length ≤ 1
    := by
    cases x with
    | none => apply Nat.zero_le
    | some a => apply Nat.le_refl
  cases k with
  | filter => apply (hk rfl).elim
  | flag f =>
    rw [clausesOf]
    split
    · apply Nat.le_refl
    · apply Nat.zero_le
  | params =>
    rw [clausesOf]
    split
    · apply Nat.zero_le
    · apply Nat.le_refl
  | _ => apply hoption

/-- The clauses stand in the order of their keywords. -/
theorem pairwise_clauses (o : SearchOptions) :
  o.clauses.Pairwise fun c d => c.keyword.Precedes d.keyword
  := by
  rw [clauses, List.pairwise_flatMap]
  constructor
  · intro k _
    by_cases hk : k = .filter
    · rw [hk, clausesOf, List.pairwise_map]
      apply List.pairwise_of_forall
      intro _ _
      exact .inr ⟨rfl, rfl⟩
    · have hlength := o.length_clausesOf_le hk
      cases hclauses : o.clausesOf k with
      | nil => apply List.Pairwise.nil
      | cons c clauses =>
        rw [hclauses, List.length_cons] at hlength
        rw [List.length_eq_zero_iff.mp (Nat.le_zero.mp (Nat.le_of_succ_le_succ hlength))]
        apply List.pairwise_singleton
  · have hall : SearchKeyword.all.Pairwise fun k k' =>
      SearchKeyword.all.idxOf k < SearchKeyword.all.idxOf k' := by decide
    apply hall.imp
    intro k k' h c hc d hd
    rw [(spec_of_mem_clausesOf hc).1, (spec_of_mem_clausesOf hd).1]
    exact .inl h

/-! ### The options of clauses -/

/-- Filters are added one after another. -/
theorem foldl_apply_filters (filters : List FilterTexts) (view : OptionsView) :
  (filters.map SearchClause.filter).foldl SearchClause.apply view
    = { view with filters := view.filters ++ filters }
  := by
  induction filters generalizing view with
  | nil => rw [List.append_nil]; rfl
  | cons f filters ih =>
    rw [List.map_cons, List.foldl_cons, ih, SearchClause.apply, List.append_assoc,
      List.singleton_append]

/-- The clause of an option that may be absent is applied if it is there. -/
theorem foldl_apply_toList {α : Type} {clause : α → SearchClause} {view view' : OptionsView}
    {x : Option α} (hnone : x = none → view = view')
    (hsome : ∀ a, x = some a → SearchClause.apply view (clause a) = view') :
  (x.toList.map clause).foldl SearchClause.apply view = view'
  := by
  cases x with
  | none => apply hnone rfl
  | some a => apply hsome a rfl

/-- The clauses of a keyword take over its option, if it is not there yet. -/
theorem foldl_apply_clausesOf (o : SearchOptions) {k : SearchKeyword} {view : OptionsView}
    (h : view.Lacks k) :
  (o.clausesOf k).foldl SearchClause.apply view = view.adopt o k
  := by
  cases k with
  | flag f =>
    rw [clausesOf, OptionsView.adopt]
    cases hf : f.get o with
    | true => rfl
    | false =>
      have hempty : f.get {} = false := by
        cases f <;> rfl
      rw [OptionsView.Lacks, OptionsView.adopt, hempty] at h
      apply h.symm
  | filter =>
    have hclauses : o.clausesOf .filter = (o.filters.map NumericFilter.texts).map .filter :=
      (List.map_map ..).symm
    have hfilters : view.filters = [] := (congrArg OptionsView.filters h).symm
    rw [hclauses, foldl_apply_filters, hfilters, List.nil_append]
    rfl
  | returned =>
    have hfields := restrictedTo_restriction o.returnFields
    apply foldl_apply_toList
    · intro hx
      rw [hx] at hfields
      rw [OptionsView.adopt, ← hfields]
      exact h.symm
    · intro fields hx
      rw [hx] at hfields
      rw [OptionsView.adopt, ← hfields]
      rfl
  | params =>
    rw [clausesOf, OptionsView.adopt]
    split
    · rename_i hparams
      rw [List.isEmpty_iff.mp hparams]
      exact h.symm
    · rfl
  | summary =>
    apply foldl_apply_toList
    · intro hx
      rw [OptionsView.adopt, hx]
      exact h.symm
    · intro s hx
      rw [OptionsView.adopt, hx, SearchClause.apply, restrictedTo_restriction]
  | highlight =>
    apply foldl_apply_toList
    · intro hx
      rw [OptionsView.adopt, hx]
      exact h.symm
    · intro s hx
      rw [OptionsView.adopt, hx, SearchClause.apply, restrictedTo_restriction]
  | _ =>
    apply foldl_apply_toList
    · intro hx
      rw [OptionsView.adopt, hx]
      exact h.symm
    · intro a hx
      rw [OptionsView.adopt, hx]
      rfl

/-- The clauses of several keywords take over their options. -/
theorem foldl_apply_flatMap (o : SearchOptions) {keywords : List SearchKeyword}
    (hkeywords : keywords.Nodup) {view : OptionsView} (h : ∀ k ∈ keywords, view.Lacks k) :
  (keywords.flatMap o.clausesOf).foldl SearchClause.apply view
    = keywords.foldl (OptionsView.adopt o) view
  := by
  induction keywords generalizing view with
  | nil => rfl
  | cons k keywords ih =>
    obtain ⟨hk, hkeywords⟩ := List.nodup_cons.mp hkeywords
    rw [List.flatMap_cons, List.foldl_append, foldl_apply_clausesOf o (h k List.mem_cons_self),
      List.foldl_cons]
    apply ih hkeywords
    intro k' hk'
    have hne : k ≠ k' := by
      rintro rfl
      apply hk hk'
    rw [OptionsView.Lacks, OptionsView.adopt_comm hne, h k' (List.mem_cons_of_mem _ hk')]

/-- The clauses of options tell the options. -/
theorem ofClauses_clauses (o : SearchOptions) :
  OptionsView.ofClauses o.clauses = o.view
  := by
  rw [OptionsView.ofClauses, clauses, foldl_apply_flatMap o (by decide),
    OptionsView.foldl_adopt_all]
  intro k _
  apply OptionsView.lacks_empty

/-- The clauses of options are read back from the arguments. -/
theorem readClauses_args (o : SearchOptions) :
  readClauses o.args.length o.args = some o.clauses
  := by
  rw [args_eq_flatMap]
  apply readClauses_flatMap o.isExact_of_mem_clauses
  apply SearchClause.length_le_length_flatMap

/-- The options are read back from their arguments, and the arguments of no other
options are the same.  The arguments are a run of clauses that stand in the order of
their keywords, and each count in them is the number of the arguments that it
announces. -/
theorem args_decode (o : SearchOptions) :
  OptionsView.ofArgs? o.args = some o.view ∧
  (∀ o' : SearchOptions, o.args = o'.args → o.view = o'.view) ∧
  ∃ clauses : List SearchClause,
    readClauses o.args.length o.args = some clauses ∧
      o.args = clauses.flatMap SearchClause.args ∧
      (∀ c ∈ clauses, c.IsExact) ∧
      clauses.Pairwise fun c d => c.keyword.Precedes d.keyword
  := by
  have hview (o : SearchOptions) : OptionsView.ofArgs? o.args = some o.view := by
    rw [OptionsView.ofArgs?, readClauses_args, Option.map_some, ofClauses_clauses]
  constructor
  · apply hview
  constructor
  · intro o' hargs
    have hsome := hview o
    rw [hargs, hview o'] at hsome
    apply (Option.some.inj hsome).symm
  · use o.clauses, o.readClauses_args, o.args_eq_flatMap, o.isExact_of_mem_clauses
    apply o.pairwise_clauses

end SearchOptions

end FullText
