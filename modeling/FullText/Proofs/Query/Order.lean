import FullText.Proofs.Query.Parameters

/-!
# The order of changes

A change to a query is to one option, or to the clause of the nearest neighbours: this is its
`Topic`.  What a query has of a topic is told by the changes that would bring it about
(`Query.settings`), and a query is told by all that it has (`Query.ext_settings`).

Of a topic with one value, a query has the last change to it, and before the first one what it
had at the start.  Filters and parameters add up.  In every case it is the changes to the topic
alone that matter, so the order between changes to different topics does not
(`Query.change_reordered`).
-/

namespace FullText

/-- The change that sets a flag. -/
def SearchFlag.modifier : SearchFlag → Query.Modifier
  | .noContent => .noContent
  | .verbatim => .verbatim
  | .noStopwords => .noStopwords
  | .withScores => .withScores
  | .withPayloads => .withPayloads
  | .inOrder => .inOrder

/-- What the options have for a keyword, as the changes that bring it about. -/
def SearchOptions.settings (o : SearchOptions) : SearchKeyword → List Query.Modifier
  | .flag f => if f.get o then [f.modifier] else []
  | .filter => o.filters.map fun f => .filter f.field f.low f.high
  | .returned => [.returnFields o.returnFields]
  | .summary => o.summary.toList.map .summarize
  | .highlight => o.highlight.toList.map .highlight
  | .slop => o.slop.toList.map .slop
  | .language => o.language.toList.map .language
  | .sorting => o.sorting.toList.map .sortBy
  | .paging => o.paging.toList.map .page
  | .scorer => o.scorer.toList.map .scorer
  | .params => o.params.map fun (name, value) => .param name value
  | .dialect => o.dialect.toList.map .dialect

namespace Query

/-- What a change is to. -/
inductive Topic where
  | option (k : SearchKeyword)
  | neighbours
  deriving DecidableEq

/-- Whether a topic has one value, which a change to it replaces. -/
def Topic.isSingle : Topic → Bool
  | .option .filter | .option .params => false
  | _ => true

/-- The topic of a change. -/
def Modifier.topic : Modifier → Topic
  | .noContent => .option (.flag .noContent)
  | .verbatim => .option (.flag .verbatim)
  | .noStopwords => .option (.flag .noStopwords)
  | .withScores => .option (.flag .withScores)
  | .withPayloads => .option (.flag .withPayloads)
  | .inOrder => .option (.flag .inOrder)
  | .filter .. => .option .filter
  | .returnFields _ => .option .returned
  | .summarize _ => .option .summary
  | .highlight _ => .option .highlight
  | .slop _ => .option .slop
  | .language _ => .option .language
  | .scorer _ => .option .scorer
  | .dialect _ => .option .dialect
  | .sortBy _ => .option .sorting
  | .page _ => .option .paging
  | .param .. => .option .params
  | .nearest _ => .neighbours

/-- The changes to one topic, in their order. -/
def changesTo (t : Topic) (changes : List Modifier) : List Modifier :=
  changes.filter fun m => m.topic = t

theorem changesTo_concat (t : Topic) (changes : List Modifier) (m : Modifier) :
  changesTo t (changes ++ [m]) = changesTo t changes ++ if m.topic = t then [m] else []
  := by
  rw [changesTo, changesTo, List.filter_append, List.filter_singleton]
  simp

/-- What a query has of a topic, as the changes that bring it about. -/
def settings (q : Query) : Topic → List Modifier
  | .option k => q.options.settings k
  | .neighbours => q.neighbours.toList.map .nearest

end Query

/-! ### A query is told by what it has -/

theorem eq_of_toList_map_eq {α β : Type} {f : α → β} (hf : Function.Injective f)
    {x y : Option α} (h : x.toList.map f = y.toList.map f) :
  x = y
  := by
  cases x with
  | none =>
    cases y with
    | none => rfl
    | some b => cases h
  | some a =>
    cases y with
    | none => cases h
    | some b => rw [hf (List.cons.inj h).1]

attribute [ext] SearchOptions

/-- Options that have the same for every keyword are the same. -/
theorem SearchOptions.ext_settings {o o' : SearchOptions} (h : ∀ k, o.settings k = o'.settings k) :
  o = o'
  := by
  have hflag (f : SearchFlag) : f.get o = f.get o' := by
    have hset := h (.flag f)
    rw [settings, settings] at hset
    cases hget : f.get o with
    | false =>
      cases hget' : f.get o' with
      | false => rfl
      | true => rw [hget, hget'] at hset; cases hset
    | true =>
      cases hget' : f.get o' with
      | false => rw [hget, hget'] at hset; cases hset
      | true => rfl
  have hfilters : o.filters = o'.filters := by
    apply List.map_injective_iff.mpr _ (h .filter)
    rintro ⟨field, low, high⟩ ⟨field', low', high'⟩ heq
    cases heq
    rfl
  have hparams : o.params = o'.params := by
    apply List.map_injective_iff.mpr _ (h .params)
    rintro ⟨name, value⟩ ⟨name', value'⟩ heq
    cases heq
    rfl
  have hreturned : o.returnFields = o'.returnFields :=
    Query.Modifier.returnFields.inj (List.cons.inj (h .returned)).1
  apply SearchOptions.ext
  · exact hflag .noContent
  · exact hflag .verbatim
  · exact hflag .noStopwords
  · exact hflag .withScores
  · exact hflag .withPayloads
  · exact hfilters
  · exact hreturned
  · exact eq_of_toList_map_eq (fun _ _ => Query.Modifier.summarize.inj) (h .summary)
  · exact eq_of_toList_map_eq (fun _ _ => Query.Modifier.highlight.inj) (h .highlight)
  · exact eq_of_toList_map_eq (fun _ _ => Query.Modifier.slop.inj) (h .slop)
  · exact eq_of_toList_map_eq (fun _ _ => Query.Modifier.language.inj) (h .language)
  · exact hflag .inOrder
  · exact eq_of_toList_map_eq (fun _ _ => Query.Modifier.sortBy.inj) (h .sorting)
  · exact eq_of_toList_map_eq (fun _ _ => Query.Modifier.page.inj) (h .paging)
  · exact eq_of_toList_map_eq (fun _ _ => Query.Modifier.scorer.inj) (h .scorer)
  · exact hparams
  · exact eq_of_toList_map_eq (fun _ _ => Query.Modifier.dialect.inj) (h .dialect)

namespace Query

/-- Queries with the same root and literal that have the same of every topic are the same. -/
theorem ext_settings {q q' : Query} (hroot : q.root = q'.root) (hliteral : q.literal = q'.literal)
    (h : ∀ t, q.settings t = q'.settings t) :
  q = q'
  := by
  have hoptions : q.options = q'.options := SearchOptions.ext_settings fun k => h (.option k)
  have hneighbours : q.neighbours = q'.neighbours :=
    eq_of_toList_map_eq (fun _ _ => Modifier.nearest.inj) (h .neighbours)
  obtain ⟨root, literal, options, neighbours⟩ := q
  cases hroot
  cases hliteral
  cases hoptions
  cases hneighbours
  rfl

/-! ### One change -/

variable (q : Query) (m : Modifier)

theorem root_modify :
  (q.modify m).root = q.root
  := by
  cases m with
  | _ => rfl

theorem literal_modify :
  (q.modify m).literal = q.literal
  := by
  cases m with
  | _ => rfl

/-- A change takes the place of what the query had of its topic, and leaves the other topics
alone. -/
theorem settings_modify {t : Topic} (h : t.isSingle = true) :
  (q.modify m).settings t = if m.topic = t then [m] else q.settings t
  := by
  cases t with
  | neighbours =>
    cases m with
    | _ => rfl
  | option k =>
    cases k with
    | filter => cases h
    | params => cases h
    | flag f =>
      cases f with
      | _ =>
        cases m with
        | _ => rfl
    | _ =>
      cases m with
      | _ => rfl

/-- A filter is added to those before it. -/
theorem filters_modify :
  (q.modify m).settings (.option .filter)
    = q.settings (.option .filter) ++ if m.topic = .option .filter then [m] else []
  := by
  cases m with
  | filter field low high => apply List.map_append
  | _ => exact (List.append_nil _).symm

/-! ### Changes one after another -/

variable (changes : List Modifier)

theorem root_change :
  (q.change changes).root = q.root
  := by
  induction changes generalizing q with
  | nil => rfl
  | cons m changes ih => rw [change, List.foldl_cons, ← change, ih, root_modify]

theorem literal_change :
  (q.change changes).literal = q.literal
  := by
  induction changes generalizing q with
  | nil => rfl
  | cons m changes ih => rw [change, List.foldl_cons, ← change, ih, literal_modify]

/-- Of a topic with one value, the last change to it is all that counts. -/
theorem settings_change {t : Topic} (h : t.isSingle = true) :
  (q.change changes).settings t = (changesTo t changes).getLast?.elim (q.settings t) ([·])
  := by
  induction changes using List.reverseRecOn with
  | nil => rfl
  | append_singleton changes m ih =>
    rw [change, List.foldl_concat, ← change, settings_modify _ m h, ih, changesTo_concat]
    split
    · rw [List.getLast?_concat, Option.elim_some]
    · rw [List.append_nil]

/-- Filters are added in the order of the changes. -/
theorem filters_change :
  (q.change changes).settings (.option .filter)
    = q.settings (.option .filter) ++ changesTo (.option .filter) changes
  := by
  induction changes using List.reverseRecOn with
  | nil => exact (List.append_nil _).symm
  | append_singleton changes m ih =>
    rw [change, List.foldl_concat, ← change, filters_modify, ih, changesTo_concat,
      List.append_assoc]

/-- The parameters that changes set are those that the changes to the parameters set. -/
theorem filterMap_param?_changesTo :
  (changesTo (.option .params) changes).filterMap Modifier.param?
    = changes.filterMap Modifier.param?
  := by
  rw [changesTo, List.filterMap_filter]
  apply List.filterMap_congr
  intro m _
  cases m with
  | _ => rfl

/-- Changes that agree on every topic make the same of a query. -/
theorem change_eq_of_changesTo_eq {changes' : List Modifier}
    (h : ∀ t, changesTo t changes = changesTo t changes') :
  q.change changes = q.change changes'
  := by
  apply ext_settings
  · rw [root_change, root_change]
  · rw [literal_change, literal_change]
  intro t
  by_cases hsingle : t.isSingle = true
  · rw [settings_change _ _ hsingle, settings_change _ _ hsingle, h]
  · obtain rfl | rfl : t = .option .filter ∨ t = .option .params := by
      unfold Topic.isSingle at hsingle
      split at hsingle
      · exact .inl rfl
      · exact .inr rfl
      · exact absurd rfl hsingle
    · rw [filters_change, filters_change, h]
    · have hparams : (q.change changes).options.params = (q.change changes').options.params := by
        rw [params_change, params_change, ← filterMap_param?_changesTo, h,
          filterMap_param?_changesTo]
      rw [settings, settings, SearchOptions.settings, SearchOptions.settings, hparams]

end Query

/-! ### Parameters -/

theorem lookup_cons_pair (k name : String) (value : Arg) (params : List (String × Arg)) :
  ((name, value) :: params).lookup k = if k = name then some value else params.lookup k
  := by
  rw [List.lookup_cons]
  by_cases hk : k = name
  · rw [if_pos hk, beq_iff_eq.mpr hk]
  · rw [if_neg hk, beq_eq_false_iff_ne.mpr hk]

/-- A parameter that is set has the new value, and the others have theirs. -/
theorem lookup_setParam (name : String) (value : Arg) (params : List (String × Arg)) (k : String) :
  (setParam name value params).lookup k = if k = name then some value else params.lookup k
  := by
  induction params with
  | nil => apply lookup_cons_pair
  | cons param params ih =>
    obtain ⟨k', v'⟩ := param
    rw [setParam, lookup_cons_pair]
    split
    · rename_i hname
      subst hname
      rw [lookup_cons_pair]
      split
      · rfl
      · rfl
    · rename_i hname
      rw [lookup_cons_pair, ih]
      split
      · rename_i hk
        rw [if_neg (hk ▸ hname)]
      · rfl

/-- Of parameters that are set one after another, each has its last value. -/
theorem lookup_foldl_setParam (given params : List (String × Arg)) (name : String) :
  (given.foldl (fun params (name, value) => setParam name value params) params).lookup name
    = (lastValue? name given).or (params.lookup name)
  := by
  induction given generalizing params with
  | nil => rfl
  | cons pair given ih =>
    obtain ⟨k, v⟩ := pair
    rw [List.foldl_cons, ih, lookup_setParam, lastValue?, Option.or_assoc]
    by_cases hk : k = name
    · simp [hk]
    · simp [hk, Ne.symm hk]

/-- A parameter that is set keeps its place, or is put at the end if it is new. -/
theorem names_setParam (name : String) (value : Arg) (params : List (String × Arg)) :
  (setParam name value params).map Prod.fst
    = params.map Prod.fst ++ if name ∈ params.map Prod.fst then [] else [name]
  := by
  obtain ⟨hnot, hset⟩ | ⟨before, old, after, -, hparams, hset⟩ := setParam_cases name value params
  · rw [if_neg hnot, hset, List.map_append]
    rfl
  · have hthere : name ∈ params.map Prod.fst := by
      simp [hparams]
    rw [if_pos hthere, hset, hparams, List.append_nil, List.map_append, List.map_append,
      List.map_cons, List.map_cons]

/-- Parameters keep their places, and new ones follow in the order of their first use. -/
theorem names_foldl_setParam (given params : List (String × Arg)) :
  (given.foldl (fun params (name, value) => setParam name value params) params).map Prod.fst
    = params.map Prod.fst ++
      ((given.map Prod.fst).filter fun name => name ∉ params.map Prod.fst).eraseDups
  := by
  induction given using List.reverseRecOn with
  | nil => simp
  | append_singleton given pair ih =>
    obtain ⟨name, value⟩ := pair
    rw [List.foldl_concat, names_setParam, ih, List.map_append, List.map_singleton,
      List.filter_append, List.append_assoc]
    generalize given.map Prod.fst = used
    generalize params.map Prod.fst = names
    congr 1
    by_cases hold : name ∈ names
    · simp [hold]
    · have hnew : [name].filter (fun name => name ∉ names) = [name] := by
        simp [hold]
      have hmem : name ∈ names ++ (used.filter fun name => name ∉ names).eraseDups ↔
        name ∈ used.filter fun name => name ∉ names
        := by
        rw [List.mem_append, List.mem_eraseDups, or_iff_right hold]
      rw [hnew, eraseDups_concat, if_congr hmem rfl rfl]
      split
      · rw [List.append_nil]
      · rfl

/-! ### The order does not matter -/

namespace Query

/-- Two sequences of changes that have the same changes to each topic, in the same order, come to
the same request.  Of a topic with one value the last change to it counts, if there is one.
Filters follow those that were there, in the order of their changes.  Parameters keep their places,
new ones follow in the order of their first use, and each has its last value. -/
theorem change_reordered (q : Query) {changes changes' : List Modifier}
    (h : ∀ t, changesTo t changes = changesTo t changes') :
  (q.change changes).text = (q.change changes').text ∧
  (q.change changes).effectiveOptions = (q.change changes').effectiveOptions ∧
  (q.change changes).args = (q.change changes').args ∧
  (∀ t, t.isSingle = true → (q.change changes).settings t
    = (changesTo t changes).getLast?.elim (q.settings t) ([·])) ∧
  (q.change changes).settings (.option .filter)
    = q.settings (.option .filter) ++ changesTo (.option .filter) changes ∧
  let given := changes.filterMap Modifier.param?
  let names := q.options.params.map Prod.fst
  (q.change changes).options.params.map Prod.fst
    = names ++ ((given.map Prod.fst).filter fun name => name ∉ names).eraseDups ∧
  ∀ name, (q.change changes).options.params.lookup name
    = (lastValue? name given).or (q.options.params.lookup name)
  := by
  have heq := change_eq_of_changesTo_eq q changes h
  refine ⟨congrArg text heq, congrArg effectiveOptions heq, congrArg args heq,
    fun t => q.settings_change changes, q.filters_change changes, ?_, ?_⟩
  · rw [params_change, names_foldl_setParam]
  · intro name
    rw [params_change, lookup_foldl_setParam]

/-- A query with a parameter that goes under the name of the vector. -/
def blobQuery : Query :=
  { literal := some "lamp", options := { params := [("BLOB", .text "x"), ("k", .text "v")] } }

/-- Two searches for nearest neighbours, with options set in between and set again. -/
theorem blobQuery_reordered :
  let near : Neighbours := ⟨"v", 3, [⟨0x3F800000⟩]⟩
  let far : Neighbours := ⟨"v", 9, []⟩
  let changes : List Modifier :=
    [.nearest far, .dialect 1, .param "n" (.text "1"), .filter "price" .unbounded .unbounded,
      .page ⟨0, 10⟩, .param "BLOB" (.text "y"), .nearest near, .dialect 3, .withScores,
      .page ⟨10, 10⟩, .filter "age" .unbounded .unbounded]
  let changes' : List Modifier :=
    [.filter "price" .unbounded .unbounded, .filter "age" .unbounded .unbounded, .withScores,
      .dialect 1, .dialect 3, .page ⟨0, 10⟩, .page ⟨10, 10⟩, .param "n" (.text "1"),
      .param "BLOB" (.text "y"), .nearest far, .nearest near]
  (∀ t, changesTo t changes = changesTo t changes') ∧
  (blobQuery.change changes).args = (blobQuery.change changes').args ∧
  (blobQuery.change changes).options.params.map Prod.fst = ["BLOB", "k", "n"] ∧
  (blobQuery.change changes).settings (.option .paging) = [.page ⟨10, 10⟩]
  := by
  intro near far changes changes'
  have h : ∀ t, changesTo t changes = changesTo t changes' := by
    intro t
    cases t with
    | neighbours => rfl
    | option k =>
      cases k with
      | flag f =>
        cases f with
        | _ => rfl
      | _ => rfl
  obtain ⟨-, -, hargs, hsingle, -, hnames, -⟩ := change_reordered blobQuery h
  refine ⟨h, hargs, ?_, hsingle (.option .paging) rfl⟩
  rw [hnames]
  rfl

end Query

end FullText
