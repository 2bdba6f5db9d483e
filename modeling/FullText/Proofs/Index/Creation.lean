import FullText.Index.Definition
import FullText.Proofs.Schema.Clauses

/-!
# What the creation of an index says

The command that creates an index says all that the definition and the schema decide
about it: its name, how its documents are stored, which keys belong to it, its stopwords
and its fields (`IndexDefinition.createArgs_eq_iff`).  The dialect is not among these, as
it goes with each search.

The parts before the schema are known by their keywords and counts.  The fields are known
by their clauses, although there may be several ways to begin to read these.
-/

namespace FullText

theorem StorageType.keyword_inj {t t' : StorageType} :
  t.keyword = t'.keyword ↔ t = t'
  := by
  cases t <;> cases t' <;> decide

theorem keyStem_inj {p p' : String} :
  keyStem p = keyStem p' ↔ p = p'
  := String.append_left_inj ":"

namespace IndexDefinition

/-- The arguments of the clauses between the storage and the fields. -/
theorem clauses_eq (d : IndexDefinition) (rest : List Arg) :
  d.prefixArgs ++ (d.stopwordsArgs ++ .text "SCHEMA" :: rest)
    = announcedArgs "PREFIX" (fun p => [.ofNat 1, .text (keyStem p)]) d.keyPrefix ++
      (announcedArgs "STOPWORDS" Arg.counted d.stopwords ++ .text "SCHEMA" :: rest)
  := by
  rw [prefixArgs, stopwordsArgs]
  cases d.keyPrefix with
  | none =>
    cases d.stopwords with
    | none => rfl
    | some words => rfl
  | some p =>
    cases d.stopwords with
    | none => rfl
    | some words => rfl

/-- The key prefix, the stopwords and what follows them can be told from the arguments. -/
theorem clauses_inj {d d' : IndexDefinition} {F G : List Arg}
    (h : d.prefixArgs ++ (d.stopwordsArgs ++ .text "SCHEMA" :: F)
      = d'.prefixArgs ++ (d'.stopwordsArgs ++ .text "SCHEMA" :: G)) :
  d.keyPrefix = d'.keyPrefix ∧ d.stopwords = d'.stopwords ∧ F = G
  := by
  have hkeyword (words : Option (List String)) (F : List Arg) : .text "PREFIX" ∉
    (announcedArgs "STOPWORDS" Arg.counted words ++ .text "SCHEMA" :: F).head?
    := by
    cases words <;> exact fun h => absurd (Arg.text.inj (Option.some.inj h)) (by decide)
  have hschema (F : List Arg) : .text "STOPWORDS" ∉ (.text "SCHEMA" :: F).head? :=
    fun h => absurd (Arg.text.inj (Option.some.inj h)) (by decide)
  have hstem (p p' : String) (F G : List Arg)
      (h : [Arg.ofNat 1, .text (keyStem p)] ++ F = [Arg.ofNat 1, .text (keyStem p')] ++ G) :
    p = p' ∧ F = G
    := by
    obtain ⟨-, h⟩ := List.cons.inj h
    obtain ⟨hstem, hFG⟩ := List.cons.inj h
    exact ⟨keyStem_inj.mp (Arg.text.inj hstem), hFG⟩
  rw [clauses_eq, clauses_eq] at h
  obtain ⟨hkeys, h⟩ := announcedArgs_append_inj hstem (hkeyword _ F) (hkeyword _ G) h
  obtain ⟨hwords, h⟩ := announcedArgs_append_inj (fun _ _ _ _ => Arg.counted_append_inj)
    (hschema F) (hschema G) h
  exact ⟨hkeys, hwords, (List.cons.inj h).2⟩

/-- Two pairs of a definition and a schema have the same arguments exactly if they agree
in the name, the storage, the key prefix, the stopwords and the fields, of whose weights
and epsilons it is the text that counts. -/
theorem createArgs_eq_iff (d d' : IndexDefinition) (s s' : Schema) :
  d.createArgs s = d'.createArgs s' ↔
    d.name = d'.name ∧ d.storage = d'.storage ∧ d.keyPrefix = d'.keyPrefix ∧
      d.stopwords = d'.stopwords ∧ s.fields.map Field.view = s'.fields.map Field.view
  := by
  have hsplit (d : IndexDefinition) (s : Schema) : d.createArgs s =
    .text d.name :: .text "ON" :: .text d.storage.keyword ::
      (d.prefixArgs ++ (d.stopwordsArgs ++ .text "SCHEMA" :: s.fields.flatMap Field.args))
    := by
    simp only [createArgs, Schema.args, List.append_assoc, List.cons_append, List.nil_append]
  rw [hsplit, hsplit, ← Field.flatMap_args_inj]
  constructor
  · intro h
    obtain ⟨hname, h⟩ := List.cons.inj h
    obtain ⟨-, h⟩ := List.cons.inj h
    obtain ⟨hstorage, h⟩ := List.cons.inj h
    obtain ⟨hkeys, hwords, hfields⟩ := clauses_inj h
    exact ⟨Arg.text.inj hname, StorageType.keyword_inj.mp (Arg.text.inj hstorage), hkeys, hwords,
      hfields⟩
  · rintro ⟨hname, hstorage, hkeys, hwords, hfields⟩
    rw [prefixArgs, prefixArgs, stopwordsArgs, stopwordsArgs, hname, hstorage, hkeys, hwords,
      hfields]

end IndexDefinition

end FullText
