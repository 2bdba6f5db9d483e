import FullText.Schema.Basic
import Mathlib.Data.List.Basic

/-!
# The names of a schema

The fields of a schema answer to their names and aliases, and no two of them to the same
one.  So a name leads to one field at most, and the first that `Schema.get?` comes upon
is the only one there is (`Schema.get?_eq_some_iff`).

A field can be added as long as it brings no name that is taken.  `Schema.Adding` says
what comes of an attempt, in terms of names alone, and `Schema.add_eq_iff` that this is
what `Schema.add` does.
-/

namespace FullText

namespace Field

theorem answersTo_iff (f : Field) (key : String) :
  f.answersTo key ↔ key ∈ f.keys
  := List.contains_iff_mem

theorem disjoint_iff (f g : Field) :
  f.Disjoint g ↔ f.keys.Disjoint g.keys
  := by
  constructor
  · intro h key hf hg
    rw [← answersTo_iff, h key hg] at hf
    cases hf
  · intro h key hg
    rw [Bool.eq_false_iff, ne_eq, answersTo_iff]
    intro hf
    apply h hf hg

end Field

namespace Schema

/-- A field of the schema answers to the name. -/
def Has (s : Schema) (key : String) : Prop :=
  ∃ f ∈ s.fields, key ∈ f.keys

theorem isTaken_iff (s : Schema) (key : String) :
  s.isTaken key ↔ s.Has key
  := by
  simp only [isTaken, Has, List.any_eq_true, Field.answersTo_iff]

/-! ### Looking a field up -/

/-- No two fields answer to the same name. -/
theorem pairwise_disjoint_keys (s : Schema) :
  s.fields.Pairwise fun f g => f.keys.Disjoint g.keys
  := s.disjoint.imp fun {f g} => (f.disjoint_iff g).mp

/-- Not more than one field is left of those that answer to a name. -/
theorem filter_keys_cases (s : Schema) (key : String) :
  (s.fields.filter fun f => key ∈ f.keys) = [] ∨
    ∃ f, (s.fields.filter fun f => key ∈ f.keys) = [f]
  := by
  have hdisjoint := s.pairwise_disjoint_keys.filter fun f => key ∈ f.keys
  have hkey (f : Field) (hf : f ∈ s.fields.filter fun f => key ∈ f.keys) : key ∈ f.keys := by
    simpa using (List.mem_filter.mp hf).2
  cases hfields : s.fields.filter fun f => key ∈ f.keys with
  | nil => left; rfl
  | cons f rest =>
    cases rest with
    | nil => right; use f
    | cons g rest =>
      rw [hfields] at hdisjoint hkey
      have hfg := List.rel_of_pairwise_cons hdisjoint List.mem_cons_self
      apply (hfg (hkey f (by simp)) (hkey g (by simp))).elim

/-- The field that is found under a name is the one that answers to it. -/
theorem get?_eq_some_iff (s : Schema) (key : String) (f : Field) :
  s.get? key = some f ↔ (s.fields.filter fun f => key ∈ f.keys) = [f]
  := by
  have hget : s.get? key = (s.fields.filter fun f => key ∈ f.keys).head? := by
    rw [get?, List.head?_filter]
    congr
    funext g
    rw [Bool.eq_iff_iff, Field.answersTo_iff, decide_eq_true_iff]
  rw [hget]
  obtain h | ⟨g, h⟩ := s.filter_keys_cases key
  · simp [h]
  · simp [h]

theorem get?_eq_some_iff_mem (s : Schema) (key : String) (f : Field) :
  s.get? key = some f ↔ f ∈ s.fields ∧ key ∈ f.keys
  := by
  have hmem : f ∈ (s.fields.filter fun f => key ∈ f.keys) ↔ f ∈ s.fields ∧ key ∈ f.keys := by
    simp
  rw [get?_eq_some_iff, ← hmem]
  obtain h | ⟨g, h⟩ := s.filter_keys_cases key
  · simp [h]
  · simp [h, eq_comm]

theorem get?_eq_none_iff (s : Schema) (key : String) :
  s.get? key = none ↔ ∀ f ∈ s.fields, key ∉ f.keys
  := by
  simp only [Option.eq_none_iff_forall_ne_some, ne_eq, get?_eq_some_iff_mem, not_and]

/-! ### Adding a field -/

/-- What comes of adding a field, told from its names: it stands last if none of them is
taken, and else the first that is taken is reported. -/
inductive Adding (s : Schema) (f : Field) : Except SchemaError Schema → Prop where
  | added {s' : Schema} (name : ¬ s.Has f.name) (otherName : ∀ a ∈ f.otherName, ¬ s.Has a)
    (fields : s'.fields = s.fields ++ [f]) : s.Adding f (.ok s')
  | nameTaken (name : s.Has f.name) : s.Adding f (.error (.duplicateField f.name))
  | otherNameTaken {a : String} (name : ¬ s.Has f.name) (mem : a ∈ f.otherName)
    (otherName : s.Has a) : s.Adding f (.error (.duplicateField a))

theorem ext_fields {s s' : Schema} (h : s.fields = s'.fields) :
  s = s'
  := by
  cases s
  cases s'
  congr

/-- There is one thing that comes of adding a field. -/
theorem Adding.unique {s : Schema} {f : Field} {r r' : Except SchemaError Schema}
    (h : s.Adding f r) (h' : s.Adding f r') :
  r = r'
  := by
  cases h with
  | added name otherName fields =>
    cases h' with
    | added _ _ fields' =>
      congr 1
      apply ext_fields
      rw [fields, fields']
    | nameTaken name' => exact absurd name' name
    | otherNameTaken _ mem otherName' => exact absurd otherName' (otherName _ mem)
  | nameTaken name =>
    cases h' with
    | added name' => exact absurd name name'
    | nameTaken => rfl
    | otherNameTaken name' => exact absurd name name'
  | otherNameTaken name mem otherName =>
    cases h' with
    | added _ otherName' => exact absurd otherName (otherName' _ mem)
    | nameTaken name' => exact absurd name' name
    | otherNameTaken _ mem' =>
      rw [Option.mem_unique mem mem']

theorem add_of_clash {s : Schema} {f : Field} {key : String} (h : s.clash? f = some key) :
  s.add f = .error (.duplicateField key)
  := by
  rw [add]
  split
  · rename_i key' h'
    rw [h, Option.some_inj] at h'
    rw [h']
  · rename_i h'
    rw [h] at h'
    cases h'

theorem add_of_no_clash {s : Schema} {f : Field} (h : s.clash? f = none) :
  ∃ s', s.add f = .ok s' ∧ s'.fields = s.fields ++ [f]
  := by
  rw [add]
  split
  · rename_i key h'
    rw [h] at h'
    cases h'
  · exact ⟨_, rfl, rfl⟩

/-- A clash is over the name, or else over the alias. -/
theorem clash?_eq (s : Schema) (f : Field) :
  s.clash? f = if s.isTaken f.name then some f.name else f.otherName.filter s.isTaken
  := by
  rw [clash?, Field.keys, List.find?_cons]
  cases s.isTaken f.name with
  | true => rfl
  | false =>
    cases f.otherName with
    | none => rfl
    | some a => simp [Option.filter]

/-- A field is added as its names allow. -/
theorem adding_add (s : Schema) (f : Field) :
  s.Adding f (s.add f)
  := by
  have hclash := s.clash?_eq f
  by_cases hname : s.isTaken f.name
  · rw [if_pos hname] at hclash
    rw [add_of_clash hclash]
    apply Adding.nameTaken
    rw [← isTaken_iff]
    exact hname
  · rw [if_neg hname] at hclash
    rw [isTaken_iff] at hname
    cases hother : f.otherName.filter s.isTaken with
    | none =>
      rw [hother] at hclash
      obtain ⟨s', hadd, hfields⟩ := add_of_no_clash hclash
      rw [hadd]
      apply Adding.added hname _ hfields
      intro a ha
      rw [Option.filter_eq_none_iff] at hother
      rw [← isTaken_iff]
      exact hother a ha
    | some a =>
      rw [hother] at hclash
      rw [add_of_clash hclash]
      obtain ⟨ha, htaken⟩ := Option.filter_eq_some_iff.mp hother
      apply Adding.otherNameTaken hname ha
      rw [← isTaken_iff]
      exact htaken

theorem add_eq_iff (s : Schema) (f : Field) (r : Except SchemaError Schema) :
  s.add f = r ↔ s.Adding f r
  := by
  constructor
  · rintro rfl
    apply adding_add
  · intro h
    apply (s.adding_add f).unique h

end Schema

end FullText
