import FullText.Schema.Field

/-!
# Schemas

A schema is a list of fields in the order of their declaration.  Names and aliases
share one namespace: no two fields of a schema answer to the same name, while a
field may repeat its own name as its alias.
-/

namespace FullText

namespace Field

/-- Whether the field answers to a name. -/
def answersTo (f : Field) (key : String) : Bool :=
  f.keys.contains key

/-- No name is one of both fields. -/
def Disjoint (f g : Field) : Prop :=
  ∀ key ∈ g.keys, f.answersTo key = false

end Field

/-- The fields of an index. -/
structure Schema where
  fields : List Field
  disjoint : fields.Pairwise Field.Disjoint

namespace Schema

/-- The schema without fields. -/
def empty : Schema :=
  ⟨[], List.Pairwise.nil⟩

/-- The number of fields. -/
def size (s : Schema) : Nat :=
  s.fields.length

/-- Whether there is no field. -/
def isEmpty (s : Schema) : Bool :=
  s.fields.isEmpty

/-- The field that answers to a name. -/
def get? (s : Schema) (key : String) : Option Field :=
  s.fields.find? fun f => f.answersTo key

/-- Whether a field answers to a name. -/
def isTaken (s : Schema) (key : String) : Bool :=
  s.fields.any fun f => f.answersTo key

/-- The numeric fields. -/
def numericFields (s : Schema) : List Field :=
  s.fields.filter Field.isNumeric

/-- The first name of `f` that is taken in `s`. -/
def clash? (s : Schema) (f : Field) : Option String :=
  f.keys.find? s.isTaken

/-- A field none of whose names is taken is disjoint from every field there is. -/
theorem disjoint_of_clash?_eq_none {s : Schema} {f g : Field}
    (h : s.clash? f = none) (hg : g ∈ s.fields) :
  g.Disjoint f
  := by
  intro key hkey
  have htaken := List.find?_eq_none.mp h key hkey
  rw [isTaken, List.any_eq_true] at htaken
  cases hanswers : g.answersTo key with
  | false => rfl
  | true => exact absurd ⟨g, hg, hanswers⟩ htaken

/-- The schema with a field added at its end, if none of its names is taken. -/
def add (s : Schema) (f : Field) : Except SchemaError Schema :=
  match h : s.clash? f with
  | some clash => .error (.duplicateField clash)
  | none =>
    .ok
      { fields := s.fields ++ [f]
        disjoint := by
          apply List.pairwise_append.mpr
          refine ⟨s.disjoint, List.pairwise_singleton _ _, ?_⟩
          intro g hg f' hf'
          obtain rfl := List.mem_singleton.mp hf'
          exact disjoint_of_clash?_eq_none h hg }

/-- The schema clause: the clauses of the fields after the keyword. -/
def args (s : Schema) : List Arg :=
  .text "SCHEMA" :: s.fields.flatMap Field.args

end Schema

end FullText
