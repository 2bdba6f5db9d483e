import FullText.Proofs.Index.Runs
import FullText.Schema.Declaration

/-!
# How a schema grows

A schema comes from the empty one, field by field: fields are declared, fields are added
to a schema that is there, and fields are added to an index that is in use.  A `Growth`
is an attempt at one of these, and a history is a list of attempts of which some may fail.

Whatever the history, the fields of the schema have one namespace
(`Schema.grow_oneNamespace`).  They are the fields that were offered and found their
names free, in the order in which they were offered (`Field.settle`).
-/

namespace FullText

/-! ### Attempts -/

/-- A declaration of a field. -/
inductive Declaration where
  /-- A field made before. -/
  | made (f : Field)
  | text (name : String) (options : TextOptions)
  | tag (name : String) (options : TagOptions)
  | numeric (name : String) (options : NumericOptions)
  | geo (name : String) (options : GeoOptions)
  | vector (name : String) (options : VectorOptions)
  /-- A field whose options are given by name. -/
  | byName (name : String) (type : FieldType) (options : List (String × OptionValue))

/-- The field that is declared. -/
def Declaration.field : Declaration → Except SchemaError Field
  | .made f => .ok f
  | .text name o => Field.make name (.text o)
  | .tag name o => Field.make name (.tag o)
  | .numeric name o => Field.make name (.numeric o)
  | .geo name o => Field.make name (.geo o)
  | .vector name o => Field.make name (.vector o)
  | .byName name type options => Field.declare name type options

/-- An attempt to make a schema grow. -/
inductive Growth where
  | declared (d : Declaration)
  /-- A field added to a schema that is there. -/
  | extended (f : Field)
  /-- A field added to an index in use. -/
  | altered (definition : IndexDefinition) (f : Field) (s : Session)

namespace Growth

/-- The field that is to be added. -/
def field : Growth → Except SchemaError Field
  | .declared d => d.field
  | .extended f => .ok f
  | .altered _ f _ => .ok f

/-- The error of the server that keeps the field from being added. -/
def veto? : Growth → Option ChannelError
  | .declared _ | .extended _ => none
  | .altered _ _ s =>
    match s.channel.nextAnswer with
    | .ok _ => none
    | .error e => some e

/-- The field that is there to be added, if its names are free. -/
def offered? (g : Growth) : Option Field :=
  if g.veto?.isSome then none else g.field.toOption

end Growth

namespace Schema

/-- The schema with one more field declared. -/
def declare (s : Schema) (d : Declaration) : Except SchemaError Schema :=
  d.field.bind s.add

/-- What comes of an attempt. -/
def attempt (s : Schema) : Growth → Except SearchError Schema
  | .declared d => (s.declare d).mapError .schema
  | .extended f => (s.add f).mapError .schema
  | .altered definition f session =>
    let turn := (Index.mk definition s).perform (.alter f) session
    turn.1.map fun _ => turn.2.1.schema

/-- The schema after an attempt. -/
def after (s : Schema) (g : Growth) : Schema :=
  (s.attempt g).toOption.getD s

/-- The schema after a history of attempts. -/
def grow (s : Schema) (history : List Growth) : Schema :=
  history.foldl after s

/-- What can come of an attempt. -/
inductive Attempting (s : Schema) (g : Growth) : Except SearchError Schema → Prop where
  | unusable {e : SchemaError} (field : g.field = .error e) : s.Attempting g (.error (.schema e))
  | clashing {f : Field} {e : SchemaError} (field : g.field = .ok f)
    (adding : s.Adding f (.error e)) : s.Attempting g (.error (.schema e))
  | vetoed {f : Field} {s' : Schema} {e : ChannelError} (field : g.field = .ok f)
    (adding : s.Adding f (.ok s')) (veto : g.veto? = some e) :
    s.Attempting g (.error (.channel e))
  | grown {f : Field} {s' : Schema} (field : g.field = .ok f) (adding : s.Adding f (.ok s'))
    (veto : g.veto? = none) : s.Attempting g (.ok s')

/-- An attempt that no server has a say in. -/
theorem Attempting.of_add {s : Schema} {g : Growth} {f : Field} (field : g.field = .ok f)
    (veto : g.veto? = none) :
  s.Attempting g ((s.add f).mapError .schema)
  := by
  have hadding := s.adding_add f
  cases hadd : s.add f with
  | ok s' =>
    rw [hadd] at hadding
    apply grown field hadding veto
  | error e =>
    rw [hadd] at hadding
    apply clashing field hadding

/-- What an alteration answers, and the index that it leaves. -/
theorem attempting_alter {s : Schema} {definition : IndexDefinition} {f : Field}
    {session : Session} {answer : Except SearchError Answer} {ix : Index} {channel : Recorder}
    (h : (Index.mk definition s).Step (.alter f) session.channel answer ix channel) :
  s.Attempting (.altered definition f session) (answer.map fun _ => ix.schema) ∧
    ix = ⟨definition, (answer.map fun _ => ix.schema).toOption.getD s⟩
  := by
  have hadding := s.adding_add f
  cases h with
  | refused refusal =>
    obtain ⟨key, hclash, rfl⟩ := Option.map_eq_some_iff.mp refusal
    rw [add_of_clash hclash] at hadding
    exact ⟨.clashing rfl hadding, rfl⟩
  | failed refusal hanswer =>
    obtain ⟨s', hadd, -⟩ := add_of_no_clash (Option.map_eq_none_iff.mp refusal)
    rw [hadd] at hadding
    exact ⟨.vetoed rfl hadding (by rw [Growth.veto?, hanswer]), rfl⟩
  | answered refusal hanswer =>
    obtain ⟨s', hadd, -, hafter⟩ := Index.after_alter refusal
    rw [hadd] at hadding
    rw [hafter]
    exact ⟨.grown rfl hadding (by rw [Growth.veto?, hanswer]), rfl⟩

/-- An attempt comes to what can come of it. -/
theorem attempting_attempt (s : Schema) (g : Growth) :
  s.Attempting g (s.attempt g)
  := by
  cases g with
  | declared d =>
    have hattempt : s.attempt (.declared d) =
      ((Growth.declared d).field.bind s.add).mapError .schema := rfl
    rw [hattempt]
    cases hfield : (Growth.declared d).field with
    | error e => apply Attempting.unusable hfield
    | ok f => apply Attempting.of_add hfield rfl
  | extended f => apply Attempting.of_add rfl rfl
  | altered definition f session =>
    apply (attempting_alter (Index.step_perform _ _ session)).1

end Schema

/-! ### Histories -/

/-- The fields `settled`, and after them those of `offered` that find their names free. -/
def Field.settle (settled : List Field) : List Field → List Field
  | [] => settled
  | f :: offered =>
    if ∀ key ∈ f.keys, ∀ g ∈ settled, key ∉ g.keys then settle (settled ++ [f]) offered
    else settle settled offered

/-- Fields that have settled stay where they are. -/
theorem Field.prefix_settle (settled offered : List Field) :
  settled <+: settle settled offered
  := by
  induction offered generalizing settled with
  | nil => apply List.prefix_rfl
  | cons f offered ih =>
    rw [settle]
    split
    · apply (List.prefix_append settled [f]).trans (ih _)
    · apply ih

theorem Field.settle_append (settled offered offered' : List Field) :
  settle settled (offered ++ offered') = settle (settle settled offered) offered'
  := by
  induction offered generalizing settled with
  | nil => rfl
  | cons f offered ih =>
    rw [List.cons_append, settle, settle]
    split
    · apply ih
    · apply ih

namespace Schema

/-- A field that is added finds its names free. -/
theorem Adding.free_iff {s : Schema} {f : Field} {r : Except SchemaError Schema}
    (h : s.Adding f r) :
  (∀ key ∈ f.keys, ∀ g ∈ s.fields, key ∉ g.keys) ↔ r.isOk
  := by
  have hfree (key : String) : (∀ g ∈ s.fields, key ∉ g.keys) ↔ ¬ s.Has key := by
    simp only [Has, not_exists, not_and]
  have hkeys : (∀ key ∈ f.keys, ¬ s.Has key) ↔ ¬ s.Has f.name ∧ ∀ a ∈ f.otherName, ¬ s.Has a := by
    simp only [Field.keys, List.forall_mem_cons, Option.mem_toList, Option.mem_def]
  simp only [hfree, hkeys]
  cases h with
  | added name otherName fields => exact iff_of_true ⟨name, otherName⟩ rfl
  | nameTaken name => exact iff_of_false (fun h => h.1 name) Bool.false_ne_true
  | otherNameTaken name mem otherName =>
    exact iff_of_false (fun h => h.2 _ mem otherName) Bool.false_ne_true

/-- What an attempt offers is added if it finds its names free. -/
theorem fields_after (s : Schema) (g : Growth) :
  (s.after g).fields = Field.settle s.fields g.offered?.toList
  := by
  have h := s.attempting_attempt g
  rw [after]
  generalize s.attempt g = r at h
  cases h with
  | unusable field =>
    have hoffered : g.offered? = none := by
      rw [Growth.offered?, field]
      split <;> rfl
    rw [hoffered]
    rfl
  | clashing field adding =>
    -- A clash is found before the server is asked, so that it may come with a veto.
    have hclash := mt adding.free_iff.mp Bool.false_ne_true
    cases hveto : g.veto? with
    | some e =>
      rw [Growth.offered?, hveto]
      rfl
    | none =>
      rw [Growth.offered?, hveto, field]
      exact (if_neg hclash).symm
  | vetoed field adding veto =>
    rw [Growth.offered?, veto]
    rfl
  | grown field adding veto =>
    have hfree := adding.free_iff.mpr rfl
    rw [Growth.offered?, veto, field]
    cases adding with
    | added name otherName fields => exact fields.trans (if_pos hfree).symm

/-- The fields after a history are those that it has offered, as far as they have
settled. -/
theorem fields_grow (s : Schema) (history : List Growth) :
  (s.grow history).fields = Field.settle s.fields (history.filterMap Growth.offered?)
  := by
  induction history generalizing s with
  | nil => rfl
  | cons g history ih =>
    rw [grow, List.foldl_cons]
    apply (ih _).trans
    rw [fields_after, ← Field.settle_append]
    cases hoffered : g.offered? with
    | none => rw [List.filterMap_cons_none hoffered]; rfl
    | some f => rw [List.filterMap_cons_some hoffered]; rfl

/-- The fields of a schema have one namespace: every name is a name of one field at most,
by which it is found, and a field is added unless it brings a name that is taken. -/
structure OneNamespace (s : Schema) : Prop where
  named : ∀ f ∈ s.fields, f.name ≠ ""
  apart : s.fields.Pairwise fun f g => f.keys.Disjoint g.keys
  found : ∀ key f, s.get? key = some f ↔ (s.fields.filter fun g => key ∈ g.keys) = [f]
  adding : ∀ f r, s.add f = r ↔ s.Adding f r

theorem oneNamespace (s : Schema) :
  s.OneNamespace
  where
  named f _ := f.name_ne_empty
  apart := s.pairwise_disjoint_keys
  found := s.get?_eq_some_iff
  adding := s.add_eq_iff

/-- Whatever was done to come by a schema, its fields have one namespace, and they are
those that were offered and found their names free.  Whatever is attempted next, the
fields stay in their places, and nothing is added unless its names are free.  An index
is left with the schema that comes of an alteration. -/
theorem grow_oneNamespace (history : List Growth) :
  let s := Schema.empty.grow history
  s.OneNamespace ∧
    s.fields = Field.settle [] (history.filterMap Growth.offered?) ∧
    (∀ g, s.Attempting g (s.attempt g)) ∧
    (∀ later, s.fields <+: (s.grow later).fields) ∧
    ∀ definition f session, ((Index.mk definition s).perform (.alter f) session).2.1
      = ⟨definition, s.after (.altered definition f session)⟩
  := by
  intro s
  constructor
  · apply oneNamespace
  constructor
  · apply fields_grow
  constructor
  · apply attempting_attempt
  constructor
  · intro later
    rw [s.fields_grow later]
    apply Field.prefix_settle
  · intro definition f session
    apply (attempting_alter (Index.step_perform _ _ session)).2

end Schema

end FullText
