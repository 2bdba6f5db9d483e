import FullText.Proofs.Schema.OptionTypes

/-!
# Declarations by name

A declaration by name follows its pairs one after another and keeps a draft of the field.
The draft is at any time that of the values assigned so far (`Draft.set_ofGiven`), so that
the order of the pairs matters only where an option is given twice.

`Field.declare_decides` says what comes of a declaration by name: the field that the typed
options would give, or the first of the errors there are.
-/

namespace FullText

/-! ### Drafts -/

/-- A value that is read and put into a place gives what is there once it is read. -/
theorem OptionType.map_readGiven {β : Type} (t : OptionType) {g : GivenOption}
    {place : t.Value → β} {b : β} (h : ∀ a, t.read? g.value = some a → place a = b) :
  (t.readGiven g).map place
    = if (t.read? g.value).isSome then .ok b else .error (t.error g)
  := by
  rw [readGiven]
  cases hread : t.read? g.value with
  | none => rfl
  | some a =>
    rw [← h a hread]
    rfl

namespace VectorDraft

/-- The draft of a vector field, with its options. -/
def ofGiven (given : Assignment) : VectorDraft where
  algorithm := given.read? (.word .algorithm) (.vector .algorithm)
  elementType := given.read? (.word .elementType) (.vector .type)
  dim := given.read? .count (.vector .dim)
  metric := given.read? (.word .metric) (.vector .distanceMetric)
  initialCap := given.read? .count (.vector .initialCap)
  blockSize := given.read? .count (.vector .blockSize)
  m := given.read? .count (.vector .m)
  efConstruction := given.read? .count (.vector .efConstruction)
  efRuntime := given.read? .count (.vector .efRuntime)
  epsilon := given.read? .number (.vector .epsilon)

theorem set_ofGiven (given : Assignment) (attr : VectorAttribute) (g : GivenOption) :
  (ofGiven given).set attr g
    = if (attr.optionType.read? g.value).isSome then
        .ok (ofGiven (Function.update given (.vector attr) (some g.value)))
      else .error (attr.optionType.error g)
  := by
  cases attr with
  | algorithm =>
    apply (congrArg (Except.map _) (g.named_eq .algorithm)).trans
    apply OptionType.map_readGiven (.word .algorithm)
    intro a ha
    simp [ofGiven, ha]
  | type =>
    apply (congrArg (Except.map _) (g.named_eq .elementType)).trans
    apply OptionType.map_readGiven (.word .elementType)
    intro a ha
    simp [ofGiven, ha]
  | distanceMetric =>
    apply (congrArg (Except.map _) (g.named_eq .metric)).trans
    apply OptionType.map_readGiven (.word .metric)
    intro a ha
    simp [ofGiven, ha]
  | epsilon =>
    rw [set, g.number_eq]
    apply OptionType.map_readGiven .number
    intro a ha
    simp [ofGiven, ha]
  | _ =>
    rw [set, g.count_eq]
    apply OptionType.map_readGiven .count
    intro a ha
    simp [ofGiven, ha]

end VectorDraft

namespace KindDraft

/-- The draft of a field of a type, with its options. -/
def ofGiven (given : Assignment) : FieldType → KindDraft
  | .text => .text given.textOptions
  | .tag => .tag given.tagOptions
  | .numeric => .numeric given.numericOptions
  | .geo => .geo given.geoOptions
  | .vector => .vector (.ofGiven given)

variable {given : Assignment} {name : OptionName} {t : OptionType} {g : GivenOption}

theorem set_text (hname : name ≠ .otherName) (ht : FieldType.text.optionType? name = some t) :
  (ofGiven given .text).set name g
    = if (t.read? g.value).isSome then
        .ok (ofGiven (Function.update given name (some g.value)) .text)
      else .error (t.error g)
  := by
  cases name with
  | weight =>
    cases ht
    rw [ofGiven, set, g.number_eq]
    apply OptionType.map_readGiven .number
    intro a ha
    simp [ofGiven, Assignment.textOptions, ha]
  | noStem | sortable | noIndex =>
    cases ht
    rw [ofGiven, set, g.flag_eq]
    apply OptionType.map_readGiven .flag
    intro a ha
    simp [ofGiven, Assignment.textOptions, ha]
  | phonetic =>
    cases ht
    have hset : (ofGiven given .text).set (some .phonetic) g =
      (g.text.bind (Phonetic.read g.field)).map fun p =>
        .text { given.textOptions with phonetic := some p }
      := by
      rw [ofGiven, set]
      cases g.text with
      | error e => rfl
      | ok s => cases hread : Phonetic.read g.field s <;> simp [bind, Except.bind, hread] <;> rfl
    rw [hset, g.phonetic_eq]
    apply OptionType.map_readGiven .phonetic
    intro a ha
    simp [ofGiven, Assignment.textOptions, ha]
  | otherName => exact absurd rfl hname
  | _ => cases ht

theorem set_tag (hname : name ≠ .otherName) (ht : FieldType.tag.optionType? name = some t) :
  (ofGiven given .tag).set name g
    = if (t.read? g.value).isSome then
        .ok (ofGiven (Function.update given name (some g.value)) .tag)
      else .error (t.error g)
  := by
  cases name with
  | separator =>
    cases ht
    rw [ofGiven, set, g.character_eq]
    apply OptionType.map_readGiven .character
    intro a ha
    simp [ofGiven, Assignment.tagOptions, ha]
  | caseSensitive | sortable | noIndex =>
    cases ht
    rw [ofGiven, set, g.flag_eq]
    apply OptionType.map_readGiven .flag
    intro a ha
    simp [ofGiven, Assignment.tagOptions, ha]
  | otherName => exact absurd rfl hname
  | _ => cases ht

theorem set_numeric (hname : name ≠ .otherName)
    (ht : FieldType.numeric.optionType? name = some t) :
  (ofGiven given .numeric).set name g
    = if (t.read? g.value).isSome then
        .ok (ofGiven (Function.update given name (some g.value)) .numeric)
      else .error (t.error g)
  := by
  cases name with
  | sortable | noIndex =>
    cases ht
    rw [ofGiven, set, g.flag_eq]
    apply OptionType.map_readGiven .flag
    intro a ha
    simp [ofGiven, Assignment.numericOptions, ha]
  | otherName => exact absurd rfl hname
  | _ => cases ht

theorem set_geo (hname : name ≠ .otherName) (ht : FieldType.geo.optionType? name = some t) :
  (ofGiven given .geo).set name g
    = if (t.read? g.value).isSome then
        .ok (ofGiven (Function.update given name (some g.value)) .geo)
      else .error (t.error g)
  := by
  cases name with
  | noIndex =>
    cases ht
    rw [ofGiven, set, g.flag_eq]
    apply OptionType.map_readGiven .flag
    intro a ha
    simp [ofGiven, Assignment.geoOptions, ha]
  | otherName => exact absurd rfl hname
  | _ => cases ht

theorem set_vector (hname : name ≠ .otherName) (ht : FieldType.vector.optionType? name = some t) :
  (ofGiven given .vector).set name g
    = if (t.read? g.value).isSome then
        .ok (ofGiven (Function.update given name (some g.value)) .vector)
      else .error (t.error g)
  := by
  cases name with
  | vector attr =>
    cases ht
    rw [ofGiven, set, VectorDraft.set_ofGiven]
    split
    · rfl
    · rfl
  | otherName => exact absurd rfl hname
  | _ => cases ht

/-- An option of a field is set, if its value is one of the option. -/
theorem set_ofGiven {type : FieldType} (hname : name ≠ .otherName)
    (ht : type.optionType? name = some t) :
  (ofGiven given type).set name g
    = if (t.read? g.value).isSome then
        .ok (ofGiven (Function.update given name (some g.value)) type)
      else .error (t.error g)
  := by
  cases type with
  | text => apply set_text hname ht
  | tag => apply set_tag hname ht
  | numeric => apply set_numeric hname ht
  | geo => apply set_geo hname ht
  | vector => apply set_vector hname ht

/-- What is not an option of a field is not set. -/
theorem set_of_unknown {type : FieldType} {name : Option OptionName}
    (h : name.bind type.optionType? = none) :
  (ofGiven given type).set name g = .error (.unknownOption g.field type g.option)
  := by
  cases name with
  | none => cases type <;> rfl
  | some name =>
    cases type with
    | text =>
      cases name with
      | otherName | weight | noStem | sortable | noIndex | phonetic => cases h
      | _ => rfl
    | tag =>
      cases name with
      | otherName | separator | caseSensitive | sortable | noIndex => cases h
      | _ => rfl
    | numeric =>
      cases name with
      | otherName | sortable | noIndex => cases h
      | _ => rfl
    | geo =>
      cases name with
      | otherName | noIndex => cases h
      | _ => rfl
    | vector =>
      cases name with
      | otherName | vector attr => cases h
      | _ => rfl

end KindDraft

namespace Draft

/-- The draft of a field of a type, with its alias and options. -/
def ofGiven (type : FieldType) (given : Assignment) : Draft where
  otherName := given.read? .text .otherName
  kind := .ofGiven given type

theorem set_otherName {type : FieldType} {given : Assignment} {g : GivenOption}
    (h : OptionName.ofText? g.option = some .otherName) :
  (ofGiven type given).set g
    = if (OptionType.text.read? g.value).isSome then
        .ok (ofGiven type (Function.update given .otherName (some g.value)))
      else .error (OptionType.text.error g)
  := by
  have hkind (value : OptionValue) :
    KindDraft.ofGiven (Function.update given .otherName (some value)) type = .ofGiven given type
    := by
    cases type with
    | text => simp [KindDraft.ofGiven, Assignment.textOptions]
    | tag => simp [KindDraft.ofGiven, Assignment.tagOptions]
    | numeric => simp [KindDraft.ofGiven, Assignment.numericOptions]
    | geo => simp [KindDraft.ofGiven, Assignment.geoOptions]
    | vector => simp [KindDraft.ofGiven, VectorDraft.ofGiven]
  rw [set, h, g.text_eq]
  apply OptionType.map_readGiven .text
  intro s hs
  simp [ofGiven, hkind, hs]

theorem set_of_ne {d : Draft} {g : GivenOption}
    (h : OptionName.ofText? g.option ≠ some .otherName) :
  d.set g = (d.kind.set (OptionName.ofText? g.option) g).map fun kind => { d with kind }
  := by
  rw [set]
  split
  · rename_i hname
    exact absurd hname h
  · rfl

/-- A pair is put into the draft, or is at fault. -/
theorem set_ofGiven (type : FieldType) (given : Assignment) (g : GivenOption) :
  (ofGiven type given).set g
    = (type.fault? g).elim (.ok (ofGiven type (given.put g))) .error
  := by
  rw [FieldType.fault?]
  cases htype : (OptionName.ofText? g.option).bind type.optionType? with
  | none =>
    have hne : OptionName.ofText? g.option ≠ some .otherName := by
      intro hname
      rw [hname, Option.bind_some, type.optionType?_otherName] at htype
      cases htype
    rw [set_of_ne hne, ofGiven, KindDraft.set_of_unknown htype]
    rfl
  | some t =>
    obtain ⟨name, hname, ht⟩ := Option.bind_eq_some_iff.mp htype
    have hput : given.put g = Function.update given name (some g.value) := by
      rw [Assignment.put, hname]
      rfl
    simp only [hput]
    -- The alias is no part of the kind, so it is set apart from the other options.
    by_cases hother : name = .otherName
    · subst hother
      rw [type.optionType?_otherName, Option.some_inj] at ht
      rw [set_otherName hname, ht]
      split
      · rfl
      · rfl
    · have hne : OptionName.ofText? g.option ≠ some .otherName := by
        rw [hname, ne_eq, Option.some_inj]
        exact hother
      have hkept :
        Assignment.read? (Function.update given name (some g.value)) .text .otherName
          = given.read? .text .otherName
        := by
        rw [Assignment.read?_update, if_neg (Ne.symm hother)]
      rw [set_of_ne hne, hname, ofGiven, ofGiven, KindDraft.set_ofGiven hother ht, hkept]
      split
      · rfl
      · rfl

/-- Pairs are put into the draft one after another, up to the first that is at fault. -/
theorem foldlM_set (type : FieldType) (field : String) (options : List (String × OptionValue))
    (given : Assignment) :
  options.foldlM (fun d (option, value) => d.set ⟨field, option, value⟩) (ofGiven type given)
    = (options.findSome? fun (option, value) => type.fault? ⟨field, option, value⟩).elim
        (.ok (ofGiven type
          (options.foldl (fun given (option, value) => given.put ⟨field, option, value⟩) given)))
        .error
  := by
  induction options generalizing given with
  | nil => rfl
  | cons pair options ih =>
    obtain ⟨option, value⟩ := pair
    simp only [List.foldlM_cons, set_ofGiven, List.findSome?_cons]
    cases type.fault? ⟨field, option, value⟩ with
    | some e => rfl
    | none => apply ih

end Draft

/-- Pairs that are put in one after another leave the last value of each option. -/
theorem Assignment.foldl_put (field : String) (options : List (String × OptionValue)) :
  options.foldl (fun given (option, value) => given.put ⟨field, option, value⟩) (ofPairs [])
    = ofPairs options
  := by
  induction options using List.reverseRecOn with
  | nil => rfl
  | append_singleton options pair ih => rw [List.foldl_concat, ih, ofPairs_concat _ _ field]

namespace Assignment

/-- The options of a vector field are all there, or the first that is missing is
reported. -/
theorem finish_vector {given : Assignment} (h : given.WellTyped .vector) (field : String) :
  (∃ attr, given.missing? .vector = some attr ∧
    (VectorDraft.ofGiven given).finish field
      = .error (.invalidVectorAttribute field attr .missing)) ∨
  ∃ o, given.missing? .vector = none ∧ given.vectorOptions? = some o ∧
    (VectorDraft.ofGiven given).finish field = .ok o
  := by
  rw [h.missing?_vector, FieldType.mandatory, VectorDraft.finish, VectorDraft.ofGiven,
    vectorOptions?]
  -- The first attribute that is missing is the one whose predecessors are all there.
  cases halgorithm : given.read? (.word .algorithm) (.vector .algorithm) with
  | none => left; exact ⟨.algorithm, by simp [VectorAttribute.optionType, halgorithm], rfl⟩
  | some algorithm =>
    cases htype : given.read? (.word .elementType) (.vector .type) with
    | none =>
      left
      exact ⟨.type, by simp [VectorAttribute.optionType, halgorithm, htype], rfl⟩
    | some elementType =>
      cases hdim : given.read? .count (.vector .dim) with
      | none =>
        left
        exact ⟨.dim, by simp [VectorAttribute.optionType, halgorithm, htype, hdim], rfl⟩
      | some dim =>
        cases hmetric : given.read? (.word .metric) (.vector .distanceMetric) with
        | none =>
          left
          exact ⟨.distanceMetric,
            by simp [VectorAttribute.optionType, halgorithm, htype, hdim, hmetric], rfl⟩
        | some metric =>
          right
          exact ⟨_, by simp [VectorAttribute.optionType, halgorithm, htype, hdim, hmetric],
            rfl, rfl⟩

/-- The kind of a field is complete, or the first attribute that is missing is reported. -/
theorem finish_ofGiven {given : Assignment} {type : FieldType} (h : given.WellTyped type)
    (field : String) :
  (∃ attr, given.missing? type = some attr ∧
    (KindDraft.ofGiven given type).finish field
      = .error (.invalidVectorAttribute field attr .missing)) ∨
  ∃ kind, given.missing? type = none ∧ given.kind? type = some kind ∧
    (KindDraft.ofGiven given type).finish field = .ok kind
  := by
  cases type with
  | vector =>
    rw [KindDraft.ofGiven, KindDraft.finish, kind?]
    obtain ⟨attr, hmissing, hfinish⟩ | ⟨o, hmissing, hoptions, hfinish⟩ := finish_vector h field
    · left
      rw [hfinish]
      exact ⟨attr, hmissing, rfl⟩
    · right
      rw [hoptions, hfinish]
      exact ⟨.vector o, hmissing, rfl, rfl⟩
  | _ => right; exact ⟨_, rfl, rfl, rfl⟩

end Assignment

/-! ### Declarations -/

/-- The field under another name in queries, if one is given. -/
def Field.called (f : Field) (otherName : Option String) : Field :=
  otherName.elim f f.withAlias

/-- What can come of a declaration by name.  Of all that may be wrong, an empty name comes
first, then the first bad pair, then the first attribute that is missing, and last what
is wrong with the options as a whole. -/
inductive Field.Declaring (name : String) (type : FieldType)
    (options : List (String × OptionValue)) : Except SchemaError Field → Prop where
  | unnamed (empty : name = "") : Declaring name type options (.error .emptyFieldName)
  | untaken {before after : List (String × OptionValue)} {pair : String × OptionValue}
    {e : SchemaError} (named : name ≠ "") (options_eq : options = before ++ pair :: after)
    (taken : ∀ p ∈ before, type.Takes p) (fault : type.fault? ⟨name, pair.1, pair.2⟩ = some e) :
    Declaring name type options (.error e)
  | incomplete {before after : List VectorAttribute} {attr : VectorAttribute}
    (named : name ≠ "") (taken : ∀ p ∈ options, type.Takes p)
    (mandatory_eq : type.mandatory = before ++ attr :: after)
    (given : ∀ a ∈ before, (OptionName.vector a).text ∈ options.map Prod.fst)
    (missing : (OptionName.vector attr).text ∉ options.map Prod.fst) :
    Declaring name type options (.error (.invalidVectorAttribute name attr .missing))
  | unusable {kind : FieldKind} {e : SchemaError} (named : name ≠ "")
    (taken : ∀ p ∈ options, type.Takes p)
    (complete : ∀ a ∈ type.mandatory, (OptionName.vector a).text ∈ options.map Prod.fst)
    (kind_eq : (Assignment.ofPairs options).kind? type = some kind)
    (fault : Field.make name kind = .error e) :
    Declaring name type options (.error e)
  | declared {kind : FieldKind} {f : Field} (named : name ≠ "")
    (taken : ∀ p ∈ options, type.Takes p)
    (complete : ∀ a ∈ type.mandatory, (OptionName.vector a).text ∈ options.map Prod.fst)
    (kind_eq : (Assignment.ofPairs options).kind? type = some kind)
    (made : Field.make name kind = .ok f) :
    Declaring name type options
      (.ok (f.called ((Assignment.ofPairs options).read? .text .otherName)))

namespace Field

variable {name : String} {type : FieldType} {options : List (String × OptionValue)}

theorem declare_eq (hname : name ≠ "") :
  declare name type options
    = (options.findSome? fun (option, value) => type.fault? ⟨name, option, value⟩).elim
        (((KindDraft.ofGiven (.ofPairs options) type).finish name).bind fun kind =>
          (make name kind).map fun f =>
            f.called ((Assignment.ofPairs options).read? .text .otherName))
        .error
  := by
  have hstart : { kind := .ofType type } = Draft.ofGiven type (.ofPairs []) := by
    cases type <;> rfl
  rw [declare, if_neg hname, hstart]
  simp only [Draft.foldlM_set, Assignment.foldl_put]
  cases options.findSome? fun (option, value) => type.fault? ⟨name, option, value⟩ with
  | some e => rfl
  | none =>
    simp only [Option.elim_none, bind, Except.bind, Draft.ofGiven]
    cases (KindDraft.ofGiven (.ofPairs options) type).finish name with
    | error e => rfl
    | ok kind =>
      simp only
      cases make name kind with
      | error e => rfl
      | ok f =>
        cases (Assignment.ofPairs options).read? .text .otherName with
        | none => rfl
        | some otherName => rfl

/-- Pairs that are all taken have no fault. -/
theorem declare_of_taken (hname : name ≠ "") (taken : ∀ p ∈ options, type.Takes p) :
  declare name type options
    = ((KindDraft.ofGiven (.ofPairs options) type).finish name).bind fun kind =>
        (make name kind).map fun f =>
          f.called ((Assignment.ofPairs options).read? .text .otherName)
  := by
  have hfaults :
    (options.findSome? fun (option, value) => type.fault? ⟨name, option, value⟩) = none
    := by
    rw [List.findSome?_eq_none_iff]
    intro pair hpair
    apply (type.fault?_eq_none_iff name pair).mpr (taken pair hpair)
  rw [declare_eq hname, hfaults]
  rfl

/-- Pairs that give all there has to be give the field of a kind. -/
theorem declare_of_complete {kind : FieldKind} (hname : name ≠ "")
    (taken : ∀ p ∈ options, type.Takes p)
    (complete : ∀ a ∈ type.mandatory, (OptionName.vector a).text ∈ options.map Prod.fst)
    (hkind : (Assignment.ofPairs options).kind? type = some kind) :
  declare name type options
    = (make name kind).map fun f =>
        f.called ((Assignment.ofPairs options).read? .text .otherName)
  := by
  rw [declare_of_taken hname taken]
  obtain ⟨attr, hmissing, -⟩ | ⟨kind', -, hkind', hfinish⟩ :=
    Assignment.finish_ofGiven (Assignment.wellTyped_ofPairs taken) name
  · rw [(Assignment.missing?_eq_none_iff options type).mpr complete] at hmissing
    cases hmissing
  · rw [hkind, Option.some_inj] at hkind'
    rw [hfinish, hkind']
    rfl

/-- A declaration by name comes to what can come of it. -/
theorem declaring_declare (name : String) (type : FieldType)
    (options : List (String × OptionValue)) :
  Declaring name type options (declare name type options)
  := by
  by_cases hname : name = ""
  · rw [declare, if_pos hname]
    apply Declaring.unnamed hname
  · cases hfaults :
      options.findSome? fun (option, value) => type.fault? ⟨name, option, value⟩ with
    | some e =>
      rw [declare_eq hname, hfaults]
      obtain ⟨before, pair, after, hoptions, hfault, hbefore⟩ :=
        List.findSome?_eq_some_iff.mp hfaults
      apply Declaring.untaken hname hoptions _ hfault
      intro p hp
      apply (type.fault?_eq_none_iff name p).mp (hbefore p hp)
    | none =>
      have taken (p : String × OptionValue) (hp : p ∈ options) : type.Takes p :=
        (type.fault?_eq_none_iff name p).mp (List.findSome?_eq_none_iff.mp hfaults p hp)
      rw [declare_of_taken hname taken]
      obtain ⟨attr, hmissing, hfinish⟩ | ⟨kind, hmissing, hkind, hfinish⟩ :=
        Assignment.finish_ofGiven (Assignment.wellTyped_ofPairs taken) name
      · obtain ⟨hattr, before, after, hmandatory, hbefore⟩ :=
          (Assignment.missing?_eq_some_iff options type attr).mp hmissing
        rw [hfinish]
        apply Declaring.incomplete hname taken hmandatory hbefore hattr
      · have complete := (Assignment.missing?_eq_none_iff options type).mp hmissing
        rw [hfinish, Except.bind]
        cases hmake : make name kind with
        | error e => apply Declaring.unusable hname taken complete hkind hmake
        | ok f => apply Declaring.declared hname taken complete hkind hmake

/-- A declaration by name comes to nothing else. -/
theorem Declaring.eq {r : Except SchemaError Field} (h : Declaring name type options r) :
  declare name type options = r
  := by
  cases h with
  | unnamed empty => rw [declare, if_pos empty]
  | @untaken before after pair e named options_eq taken fault =>
    have hfaults :
      (options.findSome? fun (option, value) => type.fault? ⟨name, option, value⟩) = some e
      := by
      rw [List.findSome?_eq_some_iff]
      refine ⟨before, pair, after, options_eq, fault, ?_⟩
      intro p hp
      apply (type.fault?_eq_none_iff name p).mpr (taken p hp)
    rw [declare_eq named, hfaults]
    rfl
  | incomplete named taken mandatory_eq given missing =>
    have hattr := (Assignment.missing?_eq_some_iff options type _).mpr
      ⟨missing, _, _, mandatory_eq, given⟩
    rw [declare_of_taken named taken]
    obtain ⟨attr, hmissing, hfinish⟩ | ⟨kind, hmissing, -⟩ :=
      Assignment.finish_ofGiven (Assignment.wellTyped_ofPairs taken) name
    · rw [hattr, Option.some_inj] at hmissing
      rw [hfinish, hmissing]
      rfl
    · rw [hattr] at hmissing
      cases hmissing
  | unusable named taken complete kind_eq fault =>
    rw [declare_of_complete named taken complete kind_eq, fault]
    rfl
  | declared named taken complete kind_eq made =>
    rw [declare_of_complete named taken complete kind_eq, made]
    rfl

end Field

end FullText
