import FullText.Json.Value
import Mathlib.Data.List.Nodup
import Mathlib.Data.List.Perm.Basic
import Mathlib.Data.String.Basic

/-!
# Pairs of a name and a value

Where pairs are given one after another, the last value of a name is the one that
counts, which is `lastValue?`.  An object made of pairs has for each name its last value,
and has the names in ascending order (`Json.sortedObject_eq`).
-/

namespace FullText

/-! ### The last value of a name -/

variable {α : Type}

/-- The value of the last pair of a name. -/
def lastValue? (name : String) : List (String × α) → Option α
  | [] => none
  | (k, v) :: pairs => (lastValue? name pairs).or (if k = name then some v else none)

theorem lastValue?_append (name : String) (pairs pairs' : List (String × α)) :
  lastValue? name (pairs ++ pairs') = (lastValue? name pairs').or (lastValue? name pairs)
  := by
  induction pairs with
  | nil => rw [List.nil_append, lastValue?, Option.or_none]
  | cons pair pairs ih => rw [List.cons_append, lastValue?, ih, lastValue?, Option.or_assoc]

theorem lastValue?_map {β : Type} (f : α → β) (name : String) (pairs : List (String × α)) :
  lastValue? name (pairs.map fun (k, v) => (k, f v)) = (lastValue? name pairs).map f
  := by
  induction pairs with
  | nil => rfl
  | cons pair pairs ih =>
    rw [List.map_cons, lastValue?, ih, lastValue?, Option.map_or, apply_ite (Option.map f)]
    rfl

theorem lastValue?_eq_none_iff (name : String) (pairs : List (String × α)) :
  lastValue? name pairs = none ↔ name ∉ pairs.map Prod.fst
  := by
  induction pairs with
  | nil => simp [lastValue?]
  | cons pair pairs ih =>
    rw [lastValue?, Option.or_eq_none_iff, ih, List.map_cons, List.mem_cons, not_or, and_comm]
    simp [eq_comm]

theorem mem_of_lastValue? {name : String} {pairs : List (String × α)} {value : α}
    (h : lastValue? name pairs = some value) :
  (name, value) ∈ pairs
  := by
  induction pairs with
  | nil => cases h
  | cons pair pairs ih =>
    obtain ⟨k, v⟩ := pair
    rw [lastValue?, Option.or_eq_some_iff] at h
    obtain hlater | ⟨-, hfirst⟩ := h
    · apply List.mem_cons_of_mem _ (ih hlater)
    · split at hfirst
      · rename_i hk
        cases hfirst
        rw [hk]
        apply List.mem_cons_self
      · cases hfirst

namespace Json

/-- Members whose names ascend; so none occurs twice. -/
def Ascending (members : List (String × Json)) : Prop :=
  members.Pairwise fun m m' => m.1 < m'.1

/-- A member is put into its place, and takes that of another one of its name. -/
theorem mem_insertMember {members : List (String × Json)} (h : Ascending members)
    (name : String) (value : Json) (member : String × Json) :
  member ∈ insertMember name value members ↔
    member = (name, value) ∨ member.1 ≠ name ∧ member ∈ members
  := by
  induction members with
  | nil => simp [insertMember]
  | cons first members ih =>
    obtain ⟨k, v⟩ := first
    obtain ⟨hfirst, hrest⟩ := List.pairwise_cons.mp h
    rw [insertMember]
    split
    · rename_i hlt
      have hne : ∀ m ∈ (k, v) :: members, m.1 ≠ name := by
        intro m hm
        rcases List.mem_cons.mp hm with rfl | hm
        · exact hlt.ne'
        · exact (hlt.trans (hfirst m hm)).ne'
      rw [List.mem_cons]
      constructor
      · exact Or.imp_right fun hm => ⟨hne member hm, hm⟩
      · exact Or.imp_right And.right
    · split
      · rename_i heq
        subst heq
        have hne : ∀ m ∈ members, m.1 ≠ name := fun m hm => (hfirst m hm).ne'
        rw [List.mem_cons, List.mem_cons]
        constructor
        · exact Or.imp_right fun hm => ⟨hne member hm, .inr hm⟩
        · rintro (hm | ⟨hm, rfl | hmem⟩)
          · left; exact hm
          · exact absurd rfl hm
          · right; exact hmem
      · rename_i hne
        rw [List.mem_cons, ih hrest, List.mem_cons]
        constructor
        · rintro (rfl | hm | ⟨hm, hmem⟩)
          · right; exact ⟨Ne.symm hne, .inl rfl⟩
          · left; exact hm
          · right; exact ⟨hm, .inr hmem⟩
        · rintro (hm | ⟨hm, hk | hmem⟩)
          · right; left; exact hm
          · left; exact hk
          · right; right; exact ⟨hm, hmem⟩

theorem ascending_insertMember {members : List (String × Json)} (h : Ascending members)
    (name : String) (value : Json) :
  Ascending (insertMember name value members)
  := by
  induction members with
  | nil => apply List.pairwise_singleton
  | cons first members ih =>
    obtain ⟨k, v⟩ := first
    obtain ⟨hfirst, hrest⟩ := List.pairwise_cons.mp h
    rw [insertMember]
    split
    · rename_i hlt
      apply List.pairwise_cons.mpr
      refine ⟨?_, h⟩
      intro m hm
      rcases List.mem_cons.mp hm with rfl | hm
      · exact hlt
      · exact hlt.trans (hfirst m hm)
    · split
      · rename_i heq
        subst heq
        exact List.pairwise_cons.mpr ⟨hfirst, hrest⟩
      · rename_i hle hne
        apply List.pairwise_cons.mpr
        refine ⟨?_, ih hrest⟩
        intro m hm
        rcases (mem_insertMember hrest name value m).mp hm with rfl | ⟨-, hm⟩
        · exact lt_of_le_of_ne (not_lt.mp hle) (Ne.symm hne)
        · exact hfirst m hm

/-- The members of pairs that are inserted one after another. -/
theorem foldl_insertMember (pairs : List (String × Json)) {members : List (String × Json)}
    (h : Ascending members) :
  Ascending (pairs.foldl (fun acc (name, value) => insertMember name value acc) members) ∧
    ∀ name value,
      (name, value) ∈ pairs.foldl (fun acc (name, value) => insertMember name value acc) members ↔
        lastValue? name pairs = some value ∨
          lastValue? name pairs = none ∧ (name, value) ∈ members
  := by
  induction pairs generalizing members with
  | nil => simp [lastValue?, h]
  | cons pair pairs ih =>
    obtain ⟨k, v⟩ := pair
    obtain ⟨hascending, hmem⟩ := ih (ascending_insertMember h k v)
    rw [List.foldl_cons]
    use hascending
    intro name value
    rw [hmem, mem_insertMember h, lastValue?]
    cases lastValue? name pairs with
    | some value' => simp
    | none =>
      by_cases hk : k = name
      · simp [hk, eq_comm]
      · simp [hk, Ne.symm hk]

/-- The object of pairs has for each name its last value. -/
theorem sortedObject_eq (pairs : List (String × Json)) :
  ∃ members, sortedObject pairs = .object members ∧ Ascending members ∧
    ∀ name value, (name, value) ∈ members ↔ lastValue? name pairs = some value
  := by
  obtain ⟨hascending, hmem⟩ := foldl_insertMember pairs List.Pairwise.nil
  use pairs.foldl (fun acc (name, value) => insertMember name value acc) [], rfl, hascending
  intro name value
  rw [hmem]
  simp

end Json

end FullText
