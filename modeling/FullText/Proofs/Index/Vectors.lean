import FullText.Proofs.Index.Documents

/-!
# Vectors that are written and vectors that are searched for

A vector is written to a field with the width of the elements that the field declares, and
a search for its nearest neighbours is due to send it in the same form.  But a query does
not know of the schema, and the vector of a search always goes with elements of 32 bits.

`Index.searched_eq_written_iff` says what that comes to, for a vector that is searched for
in a field and written to the same field, under whichever of its names: the bytes are the
same exactly if the field has elements of 32 bits or the vector has none.
-/

namespace FullText

/-! ### The lengths of blobs -/

theorem length_littleEndian (width n : Nat) :
  (littleEndian width n).length = width
  := by
  induction width generalizing n with
  | zero => rfl
  | succ width ih => rw [littleEndian, List.length_cons, ih]

theorem length_vectorBlob (v : List Binary32) :
  (vectorBlob v).length = 4 * v.length
  := by
  apply length_flatMap_of_width
  intro x
  apply length_littleEndian

theorem length_wideVectorBlob (v : List Binary32) :
  (wideVectorBlob v).length = 8 * v.length
  := by
  apply length_flatMap_of_width
  intro x
  apply length_littleEndian

/-- Widening shows unless there is nothing to widen. -/
theorem vectorBlob_eq_wideVectorBlob_iff (v : List Binary32) :
  vectorBlob v = wideVectorBlob v ↔ v = []
  := by
  constructor
  · intro h
    have hlength := congrArg List.length h
    rw [length_vectorBlob, length_wideVectorBlob] at hlength
    apply List.length_eq_zero_iff.mp
    omega
  · rintro rfl
    rfl

/-- The bytes of a vector whose elements are stored in the given format. -/
def ElementType.blob (t : ElementType) (v : List Binary32) : List UInt8 :=
  match t with
  | .float32 => vectorBlob v
  | .float64 => wideVectorBlob v

theorem ElementType.vectorBlob_eq_blob_iff (t : ElementType) (v : List Binary32) :
  vectorBlob v = t.blob v ↔ t = .float32 ∨ v = []
  := by
  cases t with
  | float32 => simp [blob]
  | float64 => simp [blob, vectorBlob_eq_wideVectorBlob_iff]

/-! ### The vector of a search -/

/-- The value of a parameter of a command that carries a query. -/
def Call.param? (name : String) (c : Call) : Option Arg :=
  c.options?.bind fun view => (view.others.params.find? fun p => p.1 = name).map Prod.snd

/-- A name that was given a value has it. -/
theorem find?_setParam (name : String) (value : Arg) (params : List (String × Arg)) :
  (setParam name value params).find? (fun p => p.1 = name) = some (name, value)
  := by
  induction params with
  | nil => simp [setParam]
  | cons param params ih =>
    obtain ⟨k, v⟩ := param
    rw [setParam]
    split
    · rename_i hk
      simp [hk]
    · rename_i hk
      simp [hk, ih]

/-- A search for nearest neighbours sends their vector with elements of 32 bits. -/
theorem Operation.param?_search (ix : Index) {q : Query} {n : Neighbours}
    (hq : q.neighbours = some n) :
  ((search q).call ix).param? Query.vectorParam = some (.blob (vectorBlob n.vector))
  := by
  have hparams : (ix.queryOptions q).params
      = setParam Query.vectorParam (.blob (vectorBlob n.vector)) q.options.params := by
    rw [Index.queryOptions, Query.effectiveOptions, hq]
    rfl
  rw [Call.param?, options?_search, Option.bind_some]
  simp only [SearchOptions.view, hparams, find?_setParam, Option.map_some]

/-! ### The vector of a document -/

/-- Arguments in pairs. -/
def argPairs : List Arg → List (Arg × Arg)
  | name :: value :: args => (name, value) :: argPairs args
  | _ => []

/-- The names and values that a command writes to a hash. -/
def Call.hashed : Call → List (Arg × Arg)
  | ⟨"HSET", _ :: args⟩ => argPairs args
  | _ => []

theorem Operation.hashed_add {ix : Index} (hstorage : ix.definition.storage = .hash) (id : String)
    (fields : List (String × DocumentValue)) :
  ((add id fields).call ix).hashed
    = fields.map fun (name, value) => (.text name, value.hashArg (ix.schema.get? name))
  := by
  rw [call, hstorage]
  simp only [Call.hashed, Index.hashArgs]
  induction fields with
  | nil => rfl
  | cons field fields ih =>
    rw [List.flatMap_cons, List.map_cons, ← ih]
    rfl

/-- Behind the fields before it, a field is written under the name it was given. -/
theorem Operation.getElem?_hashed_add {ix : Index} (hstorage : ix.definition.storage = .hash)
    (id name : String) (value : DocumentValue) (before after : List (String × DocumentValue)) :
  ((add id (before ++ (name, value) :: after)).call ix).hashed[before.length]?
    = some (.text name, value.hashArg (ix.schema.get? name))
  := by
  rw [hashed_add hstorage, List.getElem?_map, List.getElem?_append_right (Nat.le_refl _),
    Nat.sub_self, List.getElem?_cons_zero, Option.map_some]

/-- A vector is written in the format of the field that it is written to. -/
theorem hashArg_vector {f : Field} {o : VectorOptions} (hkind : f.kind = .vector o)
    (v : List Binary32) :
  (DocumentValue.vector v).hashArg (some f) = .blob (o.elementType.blob v)
  := by
  have hwide : DocumentValue.isWide (some f) = (o.elementType == .float64) := by
    rw [DocumentValue.isWide, Option.map_some, hkind]
  rw [DocumentValue.hashArg, hwide]
  cases o.elementType with
  | float32 => rfl
  | float64 => rfl

namespace Index

/-- A vector is never barred from a vector field. -/
theorem not_bars_vector {ix : Index} {f : Field} {o : VectorOptions} (hf : f ∈ ix.schema.fields)
    (hkind : f.kind = .vector o) {name : String} (hname : name ∈ f.keys) (v : List Binary32)
    (g : Field) :
  ¬ ix.schema.Bars name (.vector v) g
  := by
  rintro ⟨hg, hnamed, ⟨o', hnumeric⟩, -⟩
  have hsame := (ix.schema.get?_eq_some_iff_mem name g).mpr ⟨hg, hnamed⟩
  rw [(ix.schema.get?_eq_some_iff_mem name f).mpr ⟨hf, hname⟩, Option.some_inj] at hsame
  rw [← hsame, hkind] at hnumeric
  cases hnumeric

/-- A search for the nearest neighbours of a vector sends one command, and so does adding
a document that has the vector in a vector field, under one of its names.  Whichever field
the search is in, it sends elements of 32 bits, and the document has those of its field: so
the bytes are the same exactly if the field has elements of 32 bits or the vector is
empty. -/
theorem searched_eq_written_iff (ix : Index) (hstorage : ix.definition.storage = .hash)
    {f : Field} {o : VectorOptions} (hf : f ∈ ix.schema.fields) (hkind : f.kind = .vector o)
    {name : String} (hname : name ∈ f.keys) {q : Query} {n : Neighbours}
    (hq : q.neighbours = some n) (id : String) {before after : List (String × DocumentValue)}
    (hfree : ∀ pair ∈ before ++ after, ∀ g, ¬ ix.schema.Bars pair.1 pair.2 g) (s s' : Session) :
  ∃ (search add : Call) (searched written : List UInt8),
    (ix.perform (.search q) s).2.2.channel.calls = s.channel.calls ++ [search] ∧
    (ix.perform (.add id (before ++ (name, .vector n.vector) :: after)) s').2.2.channel.calls
      = s'.channel.calls ++ [add] ∧
    search.param? Query.vectorParam = some (.blob searched) ∧
    add.hashed[before.length]? = some (.text name, .blob written) ∧
    searched = vectorBlob n.vector ∧ written = o.elementType.blob n.vector ∧
    (searched = written ↔ o.elementType = .float32 ∨ n.vector = [])
  := by
  have hget := (ix.schema.get?_eq_some_iff_mem name f).mpr ⟨hf, hname⟩
  have hrefusal :
    (Operation.add id (before ++ (name, .vector n.vector) :: after)).refusal? ix = none
    := by
    rw [refusal?_add_eq_none_iff]
    intro pair hpair
    rcases List.mem_append.mp hpair with hpair | hpair
    · apply hfree pair (List.mem_append_left after hpair)
    · rcases List.mem_cons.mp hpair with rfl | hpair
      · apply not_bars_vector hf hkind hname
      · apply hfree pair (List.mem_append_right before hpair)
  use (Operation.search q).call ix,
    (Operation.add id (before ++ (name, .vector n.vector) :: after)).call ix,
    vectorBlob n.vector, o.elementType.blob n.vector
  refine ⟨ix.calls_perform (.search q) s, ?_, Operation.param?_search ix hq, ?_, rfl, rfl, ?_⟩
  · rw [calls_perform, hrefusal]
    rfl
  · rw [Operation.hashed_add hstorage, List.getElem?_map, List.getElem?_append_right (Nat.le_refl _),
      Nat.sub_self, List.getElem?_cons_zero, Option.map_some, ← hashArg_vector hkind, ← hget]
  · apply o.elementType.vectorBlob_eq_blob_iff

/-! ### A field with wide elements -/

/-- A field of vectors of one element of 64 bits, with an alias. -/
def wideField : Field where
  name := "v"
  otherName := some "w"
  kind := .vector { algorithm := .flat, elementType := .float64, dim := 1, metric := .euclidean }
  name_ne_empty := by decide
  fault_eq_none := by decide

/-- An index of hashes with this field alone. -/
def wideIndex : Index :=
  ⟨{ name := "idx" }, ⟨[wideField], List.pairwise_singleton _ _⟩⟩

/-- The nearest neighbours, by this field, of the vector with the single element one. -/
def nearOne : Neighbours :=
  ⟨"w", 1, [⟨0x3F800000⟩]⟩

/-- Next to a title, the vector is written with twice the bytes that are searched for. -/
theorem wide_searched_ne_written :
  wideIndex.definition.storage = .hash ∧ wideField ∈ wideIndex.schema.fields ∧
  "v" ∈ wideField.keys ∧ (Query.all.modify (.nearest nearOne)).neighbours = some nearOne ∧
  (∀ pair ∈ [("title", DocumentValue.text "x")] ++ [], ∀ g,
    ¬ wideIndex.schema.Bars pair.1 pair.2 g) ∧
  ∃ (search add : Call) (searched written : List UInt8),
    (wideIndex.perform (.search (Query.all.modify (.nearest nearOne))) {}).2.2.channel.calls
      = [search] ∧
    (wideIndex.perform (.add "a" [("title", .text "x"), ("v", .vector nearOne.vector)])
      {}).2.2.channel.calls = [add] ∧
    search.param? Query.vectorParam = some (.blob searched) ∧
    add.hashed[1]? = some (.text "v", .blob written) ∧
    searched.length = 4 ∧ written.length = 8 ∧ searched ≠ written
  := by
  have hfree : ∀ pair ∈ [("title", DocumentValue.text "x")] ++ [], ∀ g,
    ¬ wideIndex.schema.Bars pair.1 pair.2 g
    := by
    rintro pair - g ⟨hg, -, ⟨o, hnumeric⟩, -⟩
    obtain rfl := List.mem_singleton.mp hg
    cases hnumeric
  obtain ⟨search, add, searched, written, hsearch, hadd, hsearched, hwritten, rfl, rfl, hiff⟩ :=
    wideIndex.searched_eq_written_iff rfl (List.mem_singleton_self wideField) rfl
      (by decide : "v" ∈ wideField.keys) (rfl : (Query.all.modify (.nearest nearOne)).neighbours = _)
      "a" hfree {} {}
  refine ⟨rfl, List.mem_singleton_self wideField, by decide, rfl, hfree, search, add, _, _, hsearch,
    hadd, hsearched, hwritten, length_vectorBlob _, length_wideVectorBlob _, ?_⟩
  rw [ne_eq, hiff]
  rintro (h | h)
  · cases h
  · cases h

/-- What is searched for is not always what is written: in a field with elements of 64 bits
it is not. -/
theorem not_searched_eq_written :
  ¬ ∀ (ix : Index) (f : Field) (o : VectorOptions) (name : String) (q : Query) (n : Neighbours)
    (id : String) (s s' : Session), ix.definition.storage = .hash → f ∈ ix.schema.fields →
    f.kind = .vector o → n.field ∈ f.keys → name ∈ f.keys → q.neighbours = some n →
    ∃ (search add : Call) (bytes : List UInt8),
      (ix.perform (.search q) s).2.2.channel.calls = s.channel.calls ++ [search] ∧
      (ix.perform (.add id [(name, .vector n.vector)]) s').2.2.channel.calls
        = s'.channel.calls ++ [add] ∧
      search.param? Query.vectorParam = some (.blob bytes) ∧
      add.hashed = [(.text name, .blob bytes)]
  := by
  intro h
  obtain ⟨search, add, bytes, hsearch, hadd, hsearched, hwritten⟩ :=
    h wideIndex wideField _ "v" (Query.all.modify (.nearest nearOne)) nearOne "a" {} {} rfl
      (List.mem_singleton_self wideField) rfl (by decide) (by decide) rfl
  rw [calls_perform] at hsearch hadd
  obtain rfl := (List.cons.inj hsearch).1
  obtain rfl := (List.cons.inj hadd).1
  rw [Operation.param?_search wideIndex rfl, Option.some_inj] at hsearched
  rw [Operation.hashed_add rfl] at hwritten
  have hblob := (Prod.mk.inj (List.cons.inj hwritten).1).2
  have hget : wideIndex.schema.get? "v" = some wideField := by decide
  rw [hget, hashArg_vector rfl, ← hsearched] at hblob
  rcases (ElementType.vectorBlob_eq_blob_iff .float64 _).mp (Arg.blob.inj hblob).symm with h | h
  · cases h
  · cases h

end Index

end FullText
