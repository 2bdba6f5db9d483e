import FullText.Proofs.Pairs
import FullText.Proofs.Query.Decoding
import FullText.Query.Request
import Mathlib.Data.List.Induction

/-!
# The parameters of a query

A parameter that is set again keeps its place and takes the new value.  So the parameters
that are set one after another come to one for each name, in the order of first use, and
each with its last value (`LastValues`).

A query for nearest neighbours has its vector as one parameter more, under a name that may
have been given a value too.  `Query.effectiveOptions_changed` says what is sent after any
changes to a query: the vector is there once, where its name was used first or else at
the end, and all else is as it was set.
-/

namespace FullText

/-! ### Last values in the order of first use -/

/-- The parameters are what is left of those that were set one after another. -/
structure LastValues (given params : List (String × Arg)) : Prop where
  /-- The names stand in the order of their first use. -/
  names : params.map Prod.fst = (given.map Prod.fst).eraseDups
  /-- Each name has its last value. -/
  values : ∀ name value, (name, value) ∈ params ↔ lastValue? name given = some value

/-- A name that was used before is not used first. -/
theorem eraseDups_concat (names : List String) (name : String) :
  (names ++ [name]).eraseDups
    = if name ∈ names then names.eraseDups else names.eraseDups ++ [name]
  := by
  rw [List.eraseDups_append, List.removeAll]
  split
  · rename_i h
    simp [h]
  · rename_i h
    simp [h, List.eraseDups_cons]

theorem nodup_eraseDups (names : List String) :
  names.eraseDups.Nodup
  := by
  induction names using List.reverseRecOn with
  | nil => apply List.nodup_nil
  | append_singleton names name ih =>
    rw [eraseDups_concat]
    split
    · apply ih
    · rename_i h
      apply ih.append (List.nodup_singleton name)
      intro a ha hname
      rw [List.mem_eraseDups] at ha
      rw [List.mem_singleton.mp hname] at ha
      apply h ha

/-- A parameter is set at the end, or in the place of the first one of its name. -/
theorem setParam_cases (name : String) (value : Arg) (params : List (String × Arg)) :
  (name ∉ params.map Prod.fst ∧ setParam name value params = params ++ [(name, value)]) ∨
  ∃ before old after, name ∉ before.map Prod.fst ∧
    params = before ++ (name, old) :: after ∧
    setParam name value params = before ++ (name, value) :: after
  := by
  induction params with
  | nil => exact .inl ⟨List.not_mem_nil, rfl⟩
  | cons param params ih =>
    obtain ⟨k, v⟩ := param
    rw [setParam]
    split
    · rename_i hk
      subst hk
      exact .inr ⟨[], v, params, List.not_mem_nil, rfl, rfl⟩
    · rename_i hk
      have hnot {names : List String} (h : name ∉ names) : name ∉ k :: names := by
        rw [List.mem_cons, not_or]
        exact ⟨Ne.symm hk, h⟩
      obtain ⟨hmem, hset⟩ | ⟨before, old, after, hmem, hparams, hset⟩ := ih
      · left
        rw [hset]
        exact ⟨hnot hmem, rfl⟩
      · right
        rw [hset, hparams]
        exact ⟨(k, v) :: before, old, after, hnot hmem, rfl, rfl⟩

/-- Setting a parameter leaves the others alone. -/
theorem mem_setParam {params : List (String × Arg)} (h : (params.map Prod.fst).Nodup)
    (name : String) (value : Arg) (param : String × Arg) :
  param ∈ setParam name value params ↔
    param = (name, value) ∨ param.1 ≠ name ∧ param ∈ params
  := by
  have hne {params : List (String × Arg)} (hnot : name ∉ params.map Prod.fst) :
    param ∈ params ↔ param.1 ≠ name ∧ param ∈ params
    := by
    constructor
    · intro hmem
      refine ⟨?_, hmem⟩
      rintro rfl
      apply hnot (List.mem_map_of_mem hmem)
    · apply And.right
  obtain ⟨hnot, hset⟩ | ⟨before, old, after, hnot, rfl, hset⟩ := setParam_cases name value params
  · rw [hset, List.mem_append, List.mem_singleton, ← hne hnot, or_comm]
  · have hafter : name ∉ after.map Prod.fst := by
      rw [List.map_append, List.map_cons] at h
      apply (List.nodup_cons.mp (List.nodup_append.mp h).2.1).1
    rw [hset, List.mem_append, List.mem_append, List.mem_cons, List.mem_cons, hne hnot,
      hne hafter]
    constructor
    · rintro (⟨hname, hmem⟩ | rfl | ⟨hname, hmem⟩)
      · right; exact ⟨hname, .inl ⟨hname, hmem⟩⟩
      · left; rfl
      · right; exact ⟨hname, .inr (.inr ⟨hname, hmem⟩)⟩
    · rintro (rfl | ⟨hname, ⟨-, hmem⟩ | rfl | ⟨-, hmem⟩⟩)
      · right; left; rfl
      · left; exact ⟨hname, hmem⟩
      · apply absurd rfl hname
      · right; right; exact ⟨hname, hmem⟩

namespace LastValues

variable {given params : List (String × Arg)}

theorem nil :
  LastValues [] []
  where
  names := rfl
  values _ _ := by simp [lastValue?]

/-- No name occurs twice. -/
theorem nodup (h : LastValues given params) :
  (params.map Prod.fst).Nodup
  := by
  rw [h.names]
  apply nodup_eraseDups

/-- A parameter has a value exactly if it was given one. -/
theorem mem_names_iff (h : LastValues given params) (name : String) :
  name ∈ params.map Prod.fst ↔ name ∈ given.map Prod.fst
  := by
  rw [h.names, List.mem_eraseDups]

/-- One parameter more is set. -/
theorem set (h : LastValues given params) (name : String) (value : Arg) :
  LastValues (given ++ [(name, value)]) (setParam name value params)
  where
  names := by
    have hmem := h.mem_names_iff name
    rw [List.map_append, List.map_singleton, eraseDups_concat, ← h.names]
    obtain ⟨hnot, hset⟩ | ⟨before, old, after, -, hparams, hset⟩ :=
      setParam_cases name value params
    · rw [if_neg (mt hmem.mpr hnot), hset, List.map_append, List.map_singleton]
    · have hthere : name ∈ params.map Prod.fst := by
        simp [hparams]
      rw [if_pos (hmem.mp hthere), hset, hparams, List.map_append, List.map_append, List.map_cons,
        List.map_cons]
  values k v := by
    rw [mem_setParam h.nodup, h.values, lastValue?_append, lastValue?, lastValue?, Option.none_or]
    by_cases hk : name = k
    · subst hk
      simp [eq_comm]
    · simp [hk, Ne.symm hk]

/-- Parameters that are set one after another. -/
theorem foldl_set (given : List (String × Arg)) :
  LastValues given (given.foldl (fun params (name, value) => setParam name value params) [])
  := by
  induction given using List.reverseRecOn with
  | nil => apply nil
  | append_singleton given pair ih =>
    rw [List.foldl_concat]
    apply ih.set

end LastValues

/-! ### Changes to a query -/

namespace Query

namespace Modifier

/-- The parameter that a change sets. -/
def param? : Modifier → Option (String × Arg)
  | .param name value => some (name, value)
  | _ => none

/-- The dialect that a change sets. -/
def dialect? : Modifier → Option Nat
  | .dialect value => some value
  | _ => none

/-- The nearest neighbours that a change asks for. -/
def neighbours? : Modifier → Option Neighbours
  | .nearest n => some n
  | _ => none

theorem params_onOptions (m : Modifier) (o : SearchOptions) :
  (m.onOptions o).params
    = m.param?.toList.foldl (fun params (name, value) => setParam name value params) o.params
  := by
  cases m with
  | _ => rfl

theorem dialect_onOptions (m : Modifier) (o : SearchOptions) :
  (m.onOptions o).dialect = m.dialect?.or o.dialect
  := by
  cases m with
  | _ => rfl

end Modifier

/-- The query with changes made one after another. -/
def change (q : Query) (changes : List Modifier) : Query :=
  changes.foldl modify q

theorem options_modify (q : Query) (m : Modifier) :
  (q.modify m).options = m.onOptions q.options
  := by
  cases m with
  | _ => rfl

theorem neighbours_modify (q : Query) (m : Modifier) :
  (q.modify m).neighbours = m.neighbours?.or q.neighbours
  := by
  cases m with
  | _ => rfl

variable (q : Query) (changes : List Modifier)

/-- Asking for nearest neighbours does not touch the options. -/
theorem options_change :
  (q.change changes).options = changes.foldl (fun o m => m.onOptions o) q.options
  := by
  induction changes generalizing q with
  | nil => rfl
  | cons m changes ih =>
    rw [change, List.foldl_cons, List.foldl_cons, ← q.options_modify]
    apply ih

theorem params_change :
  (q.change changes).options.params
    = (changes.filterMap Modifier.param?).foldl
        (fun params (name, value) => setParam name value params) q.options.params
  := by
  induction changes generalizing q with
  | nil => rfl
  | cons m changes ih =>
    rw [change, List.foldl_cons, ← change, ih, options_modify, m.params_onOptions]
    cases hm : m.param? with
    | none => rw [List.filterMap_cons_none hm]; rfl
    | some param => rw [List.filterMap_cons_some hm]; rfl

end Query

/-- Of the values that are asked for one after another, the last one counts. -/
theorem getLast?_filterMap_concat {α β : Type} (f : α → Option β) (l : List α) (a : α) :
  ((l ++ [a]).filterMap f).getLast? = (f a).or (l.filterMap f).getLast?
  := by
  rw [List.filterMap_append]
  cases hf : f a with
  | none => simp [hf]
  | some b => simp [hf]

namespace Query

theorem dialect_change (q : Query) (changes : List Modifier) :
  (q.change changes).options.dialect
    = (changes.filterMap Modifier.dialect?).getLast?.or q.options.dialect
  := by
  induction changes using List.reverseRecOn with
  | nil => rfl
  | append_singleton changes m ih =>
    rw [change, List.foldl_concat, ← change, options_modify, m.dialect_onOptions, ih,
      getLast?_filterMap_concat, Option.or_assoc]

theorem neighbours_change (q : Query) (changes : List Modifier) :
  (q.change changes).neighbours
    = (changes.filterMap Modifier.neighbours?).getLast?.or q.neighbours
  := by
  induction changes using List.reverseRecOn with
  | nil => rfl
  | append_singleton changes m ih =>
    rw [change, List.foldl_concat, ← change, neighbours_modify, ih, getLast?_filterMap_concat,
      Option.or_assoc]

end Query

/-! ### Parameters as they are sent -/

/-- The four bytes of an element, the lowest first. -/
theorem Binary32.bytes_eq (x : Binary32) :
  x.bytes =
    [ .ofNat x.bits.toNat, .ofNat (x.bits.toNat / 2 ^ 8), .ofNat (x.bits.toNat / 2 ^ 16),
      .ofNat (x.bits.toNat / 2 ^ 24) ]
  := by
  simp only [bytes, littleEndian, Nat.div_div_eq_div_mul]
  rfl

/-- The parameters that a clause gives. -/
def SearchClause.params? : SearchClause → Option (Counted (String × Arg))
  | .params given => some given
  | _ => none

/-- There is one clause of parameters if there are any, and it announces two arguments for
each. -/
theorem SearchOptions.filterMap_params?_clauses (o : SearchOptions) :
  o.clauses.filterMap SearchClause.params?
    = if o.params = [] then [] else [⟨2 * o.params.length, o.params⟩]
  := by
  have hother (k : SearchKeyword) (hk : k ≠ .params) :
    (o.clausesOf k).filterMap SearchClause.params? = []
    := by
    rw [List.filterMap_eq_nil_iff]
    intro c hc
    have hkeyword := (spec_of_mem_clausesOf hc).1
    cases c with
    | params given => exact absurd hkeyword.symm hk
    | _ => rfl
  have hparams : (o.clausesOf .params).filterMap SearchClause.params?
      = if o.params = [] then [] else [⟨2 * o.params.length, o.params⟩]
    := by
    have hlength : (o.params.flatMap paramArgs).length = 2 * o.params.length := by
      apply length_flatMap_of_width
      intro param
      rfl
    rw [clausesOf]
    split
    · rename_i h
      rw [if_pos (List.isEmpty_iff.mp h)]
      rfl
    · rename_i h
      rw [if_neg (mt List.isEmpty_iff.mpr h), ← hlength]
      rfl
  rw [clauses, List.filterMap_flatMap, SearchKeyword.all]
  simp [hother, hparams]

/-- The bytes of a vector are those of its elements. -/
theorem vectorBlob_eq (vector : List Binary32) :
  vectorBlob vector = vector.flatMap fun x =>
    [ .ofNat x.bits.toNat, .ofNat (x.bits.toNat / 2 ^ 8), .ofNat (x.bits.toNat / 2 ^ 16),
      .ofNat (x.bits.toNat / 2 ^ 24) ]
  := congrArg vector.flatMap (funext Binary32.bytes_eq)

namespace Query

/-- Without nearest neighbours the options are sent as they are. -/
theorem effectiveOptions_of_eq_none {q : Query} (h : q.neighbours = none) :
  q.effectiveOptions = q.options
  := by
  simp only [effectiveOptions, h]

/-- With nearest neighbours the vector is a parameter, and the dialect is at least two. -/
theorem effectiveOptions_of_eq_some {q : Query} {n : Neighbours} (h : q.neighbours = some n) :
  q.effectiveOptions =
    { q.options with
      params := setParam vectorParam (.blob (vectorBlob n.vector)) q.options.params
      dialect := some (max (q.options.dialect.getD 2) 2) }
  := by
  simp only [effectiveOptions, h]
  rfl

/-- What is sent after the text are clauses, one of them with the parameters if there are
any. -/
theorem exists_clauses_args (q : Query) :
  ∃ args clauses, q.args = .text q.text :: args ∧
    readClauses args.length args = some clauses ∧
    clauses.filterMap SearchClause.params?
      = if q.effectiveOptions.params = [] then []
        else [⟨2 * q.effectiveOptions.params.length, q.effectiveOptions.params⟩]
  := ⟨q.effectiveOptions.args, q.effectiveOptions.clauses, rfl,
    q.effectiveOptions.readClauses_args, q.effectiveOptions.filterMap_params?_clauses⟩

/-- What is sent after any changes to a query.  The options of the query itself are what the
changes make of them: the names of the parameters are those that were set, in the order of
first use, and each has its last value.  The options that are sent have no name twice and
differ from these in the parameters and the dialect alone, and the clause of the
parameters announces two arguments for each.

Without nearest neighbours they do not differ at all.  With nearest neighbours the bytes of
the last vector that was asked for are set as one parameter more, in the place of a
parameter of that name or else at the end, and the dialect is at least two. -/
theorem effectiveOptions_changed (root : List Node) (literal : Option String)
    (changes : List Modifier) :
  let q := change { root, literal } changes
  let given := changes.filterMap Modifier.param?
  let o := q.effectiveOptions
  q.options = changes.foldl (fun o m => m.onOptions o) {} ∧
  LastValues given q.options.params ∧
  q.options.dialect = (changes.filterMap Modifier.dialect?).getLast? ∧
  (o.params.map Prod.fst).Nodup ∧
  { o with params := q.options.params, dialect := q.options.dialect } = q.options ∧
  (∃ args clauses, q.args = .text q.text :: args ∧ readClauses args.length args = some clauses ∧
    clauses.filterMap SearchClause.params?
      = if o.params = [] then [] else [⟨2 * o.params.length, o.params⟩]) ∧
  match (changes.filterMap Modifier.neighbours?).getLast? with
  | none => o = q.options
  | some n =>
    let blob := Arg.blob (n.vector.flatMap fun x =>
      [ .ofNat x.bits.toNat, .ofNat (x.bits.toNat / 2 ^ 8), .ofNat (x.bits.toNat / 2 ^ 16),
        .ofNat (x.bits.toNat / 2 ^ 24) ])
    LastValues (given ++ [("BLOB", blob)]) o.params ∧
    (("BLOB" ∉ given.map Prod.fst ∧ o.params = q.options.params ++ [("BLOB", blob)]) ∨
      ∃ before old after, q.options.params = before ++ ("BLOB", old) :: after ∧
        o.params = before ++ ("BLOB", blob) :: after) ∧
    o.dialect = some (max (q.options.dialect.getD 2) 2)
  := by
  intro q given o
  have hstored : LastValues given q.options.params := by
    rw [params_change]
    apply LastValues.foldl_set
  have hdialect : q.options.dialect = (changes.filterMap Modifier.dialect?).getLast? := by
    rw [dialect_change, Option.or_none]
  have hneighbours : q.neighbours = (changes.filterMap Modifier.neighbours?).getLast? := by
    rw [neighbours_change, Option.or_none]
  rw [← hneighbours]
  cases hn : q.neighbours with
  | none =>
    have ho : o = q.options := effectiveOptions_of_eq_none hn
    refine ⟨options_change _ changes, hstored, hdialect, ?_, ?_, q.exists_clauses_args, ho⟩
    · rw [ho]
      apply hstored.nodup
    · rw [ho]
  | some n =>
    have ho : o = _ := effectiveOptions_of_eq_some hn
    have hset : LastValues (given ++ [(vectorParam, .blob (vectorBlob n.vector))]) o.params := by
      rw [ho]
      apply hstored.set
    refine ⟨options_change _ changes, hstored, hdialect, hset.nodup, ?_, q.exists_clauses_args, ?_⟩
    · rw [ho]
    · simp only [← vectorBlob_eq]
      refine ⟨hset, ?_, ?_⟩
      · rw [← hstored.mem_names_iff, ho]
        obtain happended | ⟨before, old, after, -, hplaced⟩ :=
          setParam_cases vectorParam (.blob (vectorBlob n.vector)) q.options.params
        · exact .inl happended
        · exact .inr ⟨before, old, after, hplaced⟩
      · rw [ho]

end Query

end FullText
