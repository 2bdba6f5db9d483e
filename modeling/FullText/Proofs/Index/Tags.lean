import FullText.Proofs.Index.Vectors

/-!
# Tags in a hash

A hash has one text for all tags of a field, in which the tags stand with a separator
between them.  The separator is the one that the field declares, or else a comma
(`Schema.Separates`), and a tag that contains it is not escaped.

So the text is read as the tags that were written if no tag contains the separator, and
only then.  `Index.tags_written` says what any tags are read as: each of them is cut at
its own separators, and that is all that can be told of them.
-/

namespace FullText

/-! ### Cutting a text at a separator -/

section Parts

variable {separator : Char}

/-- No part of a text contains the separator that it was cut at. -/
theorem not_mem_of_mem_splitOn {cs part : List Char} (h : part ∈ cs.splitOn separator) :
  separator ∉ part
  := by
  induction cs generalizing part with
  | nil =>
    rw [List.splitOn_nil] at h
    rw [List.mem_singleton.mp h]
    apply List.not_mem_nil
  | cons c cs ih =>
    obtain ⟨first, parts, hparts⟩ := List.exists_cons_of_ne_nil (List.splitOn_ne_nil separator cs)
    rw [List.splitOn_cons_eq_if_modifyHead] at h
    split at h
    · rcases List.mem_cons.mp h with rfl | h
      · apply List.not_mem_nil
      · apply ih h
    · rename_i hc
      rw [hparts, List.modifyHead_cons] at h
      rcases List.mem_cons.mp h with rfl | h
      · rw [List.mem_cons, not_or]
        constructor
        · rintro rfl
          apply hc
          apply beq_self_eq_true
        · apply ih
          rw [hparts]
          apply List.mem_cons_self
      · apply ih
        rw [hparts]
        apply List.mem_cons_of_mem first h

/-- Texts that are joined are each cut at their own separators. -/
theorem splitOn_intercalate_eq_flatMap {parts : List (List Char)} (hne : parts ≠ []) :
  (List.intercalate [separator] parts).splitOn separator
    = parts.flatMap (List.splitOn separator)
  := by
  induction parts with
  | nil => apply (hne rfl).elim
  | cons part parts ih =>
    cases parts with
    | nil => simp only [List.intercalate_singleton, List.flatMap_cons, List.flatMap_nil,
        List.append_nil]
    | cons part' parts =>
      rw [List.intercalate_cons_cons, List.append_assoc, List.singleton_append,
        List.splitOn_append_cons_self, ih (List.cons_ne_nil part' parts)]
      rfl

/-- Texts are not cut at all exactly if none contains the separator. -/
theorem flatMap_splitOn_eq_self_iff (parts : List (List Char)) :
  parts.flatMap (List.splitOn separator) = parts ↔ ∀ part ∈ parts, separator ∉ part
  := by
  constructor
  · intro h part hpart
    rw [← h] at hpart
    obtain ⟨_, -, hpart⟩ := List.mem_flatMap.mp hpart
    apply not_mem_of_mem_splitOn hpart
  · intro h
    induction parts with
    | nil => rfl
    | cons part parts ih =>
      obtain ⟨hpart, hparts⟩ := List.forall_mem_cons.mp h
      rw [List.flatMap_cons, List.splitOn_eq_singleton hpart, ih hparts, List.singleton_append]

end Parts

/-! ### The tags in a text -/

/-- The tags that a text is read as. -/
def tagsIn (separator : Char) (text : String) : List String :=
  (text.toList.splitOn separator).map String.ofList

/-- The tags in a text make up the text. -/
theorem intercalate_tagsIn (separator : Char) (text : String) :
  String.intercalate (String.singleton separator) (tagsIn separator text) = text
  := by
  have hparts : (tagsIn separator text).map String.toList = text.toList.splitOn separator := by
    rw [tagsIn, List.map_map]
    apply List.map_id''
    intro part
    apply String.toList_ofList
  rw [← String.toList_inj, String.toList_intercalate, String.toList_singleton, hparts]
  apply List.intercalate_splitOn

theorem map_tagsIn (separator : Char) (tags : List String) :
  tags.flatMap (tagsIn separator)
    = ((tags.map String.toList).flatMap (List.splitOn separator)).map String.ofList
  := by
  rw [List.flatMap_map, List.map_flatMap]
  rfl

/-- Tags that are joined are each cut at their own separators. -/
theorem tagsIn_intercalate (separator : Char) {tags : List String} (hne : tags ≠ []) :
  tagsIn separator (String.intercalate (String.singleton separator) tags)
    = tags.flatMap (tagsIn separator)
  := by
  have hne' : tags.map String.toList ≠ [] := mt List.map_eq_nil_iff.mp hne
  rw [tagsIn, String.toList_intercalate, String.toList_singleton,
    splitOn_intercalate_eq_flatMap hne', map_tagsIn]

/-- Tags are not cut exactly if none contains the separator. -/
theorem flatMap_tagsIn_eq_self_iff (separator : Char) (tags : List String) :
  tags.flatMap (tagsIn separator) = tags ↔ ∀ tag ∈ tags, separator ∉ tag.toList
  := by
  have htags : tags = (tags.map String.toList).map String.ofList := by
    rw [List.map_map]
    apply (List.map_id'' _ tags).symm
    intro tag
    apply String.ofList_toList
  have hinj : Function.Injective String.ofList := fun _ _ => String.ofList_inj.mp
  conv => lhs; rw [map_tagsIn]; rhs; rw [htags]
  rw [hinj.list_map.eq_iff, flatMap_splitOn_eq_self_iff, List.forall_mem_map]

/-! ### Tags as they are written -/

/-- What stands between the tags that are written under a name. -/
inductive Schema.Separates (s : Schema) (name : String) : Char → Prop where
  /-- The separator that the tag field declares. -/
  | declared {f : Field} {o : TagOptions} {separator : Char} (mem : f ∈ s.fields)
    (named : name ∈ f.keys) (kind : f.kind = .tag o) (separator_eq : o.separator = some separator) :
    s.Separates name separator
  /-- A comma, if the tag field declares none. -/
  | byDefault {f : Field} {o : TagOptions} (mem : f ∈ s.fields) (named : name ∈ f.keys)
    (kind : f.kind = .tag o) (separator_eq : o.separator = none) : s.Separates name ','
  /-- A comma, if there is no field of that name. -/
  | undeclared (h : ¬ s.Has name) : s.Separates name ','

/-- The tags stand with the separator of their field between them. -/
theorem Schema.Separates.hashArg_tags {s : Schema} {name : String} {separator : Char}
    (h : s.Separates name separator) (tags : List String) :
  (DocumentValue.tags tags).hashArg (s.get? name)
    = .text (String.intercalate (String.singleton separator) tags)
  := by
  have hseparator : DocumentValue.tagSeparator (s.get? name) = separator := by
    cases h with
    | declared mem named kind separator_eq =>
      rw [(s.get?_eq_some_iff_mem name _).mpr ⟨mem, named⟩]
      simp only [DocumentValue.tagSeparator, Option.map_some, kind, separator_eq, Option.getD_some]
    | byDefault mem named kind separator_eq =>
      rw [(s.get?_eq_some_iff_mem name _).mpr ⟨mem, named⟩]
      simp only [DocumentValue.tagSeparator, Option.map_some, kind, separator_eq, Option.getD_none]
    | undeclared hnot =>
      have hnone : s.get? name = none := by
        rw [s.get?_eq_none_iff]
        intro f hf hname
        apply hnot ⟨f, hf, hname⟩
      rw [hnone]
      rfl
  rw [DocumentValue.hashArg, hseparator]

namespace Index

/-- A hash has one text for the tags of a field, which is read as the tags that each of them
is cut into at its own separators.  So the tags are read back exactly if none contains the
separator.  And other tags have the same text exactly if they are cut into the same ones,
which for tags without the separator means that they are the same. -/
theorem tags_written (ix : Index) (hstorage : ix.definition.storage = .hash) {name : String}
    {separator : Char} (hseparator : ix.schema.Separates name separator) {tags : List String}
    (htags : tags ≠ []) :
  ∃ text,
    (∀ id before after,
      ((Operation.add id (before ++ (name, .tags tags) :: after)).call ix).hashed[before.length]?
        = some (.text name, .text text)) ∧
    tagsIn separator text = tags.flatMap (tagsIn separator) ∧
    (tagsIn separator text = tags ↔ ∀ tag ∈ tags, separator ∉ tag.toList) ∧
    ∀ tags' : List String, tags' ≠ [] →
      ((DocumentValue.tags tags').hashArg (ix.schema.get? name) = .text text ↔
        tags.flatMap (tagsIn separator) = tags'.flatMap (tagsIn separator)) ∧
      ((∀ tag ∈ tags ++ tags', separator ∉ tag.toList) →
        (DocumentValue.tags tags').hashArg (ix.schema.get? name) = .text text → tags = tags')
  := by
  have hread := tagsIn_intercalate separator htags
  have hsame (tags' : List String) (htags' : tags' ≠ []) :
    (DocumentValue.tags tags').hashArg (ix.schema.get? name)
        = .text (String.intercalate (String.singleton separator) tags) ↔
      tags.flatMap (tagsIn separator) = tags'.flatMap (tagsIn separator)
    := by
    have hread' := tagsIn_intercalate separator htags'
    rw [hseparator.hashArg_tags, Arg.text.injEq, ← hread, ← hread']
    constructor
    · intro h
      rw [h]
    · intro h
      rw [← intercalate_tagsIn separator (String.intercalate _ tags'), ← h, intercalate_tagsIn]
  use String.intercalate (String.singleton separator) tags
  refine ⟨?_, hread, ?_, ?_⟩
  · intro id before after
    rw [Operation.getElem?_hashed_add hstorage, hseparator.hashArg_tags]
  · rw [hread]
    apply flatMap_tagsIn_eq_self_iff
  · intro tags' htags'
    use hsame tags' htags'
    intro hplain h
    obtain ⟨hplain, hplain'⟩ := List.forall_mem_append.mp hplain
    rw [← (flatMap_tagsIn_eq_self_iff separator tags).mpr hplain,
      ← (flatMap_tagsIn_eq_self_iff separator tags').mpr hplain']
    apply (hsame tags' htags').mp h

/-! ### A tag with the separator -/

/-- A field of tags with a semicolon between them, with an alias. -/
def labelField : Field where
  name := "labels"
  otherName := some "l"
  kind := .tag { separator := some ';' }
  name_ne_empty := by decide
  fault_eq_none := by decide

/-- An index of hashes with this field alone. -/
def labelIndex : Index :=
  ⟨{ name := "idx" }, ⟨[labelField], List.pairwise_singleton _ _⟩⟩

theorem labelIndex_separates :
  labelIndex.schema.Separates "l" ';'
  := .declared (List.mem_singleton_self labelField) (by decide) rfl rfl

/-- A comma in a tag of this field does not cut it. -/
theorem labels_written :
  labelIndex.definition.storage = .hash ∧ labelIndex.schema.Separates "l" ';' ∧
  ["a,b", "c"] ≠ ([] : List String) ∧
  ∃ text,
    ((Operation.add "x" [("l", .tags ["a,b", "c"])]).call labelIndex).hashed[0]?
      = some (.text "l", .text text) ∧
    tagsIn ';' text = ["a,b", "c"]
  := by
  refine ⟨rfl, labelIndex_separates, by decide, ?_⟩
  obtain ⟨text, hwritten, -, hread, -⟩ :=
    labelIndex.tags_written rfl labelIndex_separates (by decide : ["a,b", "c"] ≠ [])
  use text, hwritten "x" [] []
  apply hread.mpr
  decide

/-- Tags are not always kept apart: one that contains the separator is written like two. -/
theorem not_tags_kept :
  ¬ ∀ (s : Schema) (name : String) (separator : Char), s.Separates name separator →
    ∀ tags tags' : List String, tags ≠ [] → tags' ≠ [] →
      (DocumentValue.tags tags).hashArg (s.get? name)
        = (DocumentValue.tags tags').hashArg (s.get? name) → tags = tags'
  := by
  intro h
  have heq := h labelIndex.schema "l" ';' labelIndex_separates ["a;b"] ["a", "b"] (by decide)
    (by decide) (by rw [labelIndex_separates.hashArg_tags, labelIndex_separates.hashArg_tags]; rfl)
  exact absurd heq (by decide)

end Index

end FullText
