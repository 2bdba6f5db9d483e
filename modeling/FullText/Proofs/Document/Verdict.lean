import FullText.Error
import Mathlib.Data.List.Basic

/-!
# Verdicts on replies

A reader of replies is compared with a relation that says what a reply holds.  Its
result is a `Verdict` when it is the one value that the relation allows, or the
refusal of an unexpected reply where the relation allows none.  Verdicts of the parts
of a reader make up the verdict of the whole.
-/

namespace FullText

/-- The result of a reader agrees with what the reply holds. -/
inductive Verdict {α : Type} : Except SearchError α → (α → Prop) → Prop where
  | ok {a : α} {holds : α → Prop} (h : ∀ b, holds b ↔ b = a) : Verdict (.ok a) holds
  | unexpected {expected : Expected} {actual : Actual} {holds : α → Prop}
    (h : ∀ b, ¬ holds b) : Verdict (.error (.unexpectedReply expected actual)) holds

namespace Verdict

variable {α β : Type} {result : Except SearchError α} {holds : α → Prop}

/-- The value of a reader is what the reply holds. -/
theorem eq_ok_iff (h : Verdict result holds) (a : α) :
  result = .ok a ↔ holds a
  := by
  cases h with
  | @ok b _ h =>
    rw [h]
    constructor
    · rintro ⟨⟩
      rfl
    · rintro rfl
      rfl
  | unexpected h =>
    constructor
    · rintro ⟨⟩
    · intro ha
      apply (h a ha).elim

/-- A reader that gives no value refuses the reply as unexpected. -/
theorem ok_or_unexpected (h : Verdict result holds) :
  (∃ a, result = .ok a) ∨ ∃ expected actual, result = .error (.unexpectedReply expected actual)
  := by
  cases h with
  | @ok a _ _ => exact .inl ⟨a, rfl⟩
  | @unexpected expected actual _ _ => exact .inr ⟨expected, actual, rfl⟩

/-- Only what is allowed matters, not how it is said. -/
theorem congr {holds' : α → Prop} (h : Verdict result holds) (hiff : ∀ a, holds' a ↔ holds a) :
  Verdict result holds'
  := by
  cases h with
  | ok h =>
    apply ok
    intro b
    rw [hiff, h]
  | unexpected h =>
    apply unexpected
    intro b
    rw [hiff]
    apply h

/-- A reader followed by another one. -/
theorem bind {next : α → Except SearchError β} {after : α → β → Prop}
    (h : Verdict result holds) (hnext : ∀ a, holds a → Verdict (next a) (after a)) :
  Verdict (result.bind next) fun b => ∃ a, holds a ∧ after a b
  := by
  cases h with
  | @ok a _ h =>
    apply congr (hnext a ((h a).mpr rfl))
    intro b
    constructor
    · rintro ⟨a', ha', hb⟩
      rw [(h a').mp ha'] at hb
      apply hb
    · intro hb
      use a, (h a).mpr rfl
  | unexpected h =>
    apply unexpected
    rintro b ⟨a, ha, -⟩
    apply h a ha

/-- A reader whose value is changed. -/
theorem map (f : α → β) (h : Verdict result holds) :
  Verdict (result.map f) fun b => ∃ a, holds a ∧ b = f a
  := by
  cases h with
  | @ok a _ h =>
    apply ok
    intro b
    constructor
    · rintro ⟨a', ha', rfl⟩
      rw [(h a').mp ha']
    · rintro rfl
      use a, (h a).mpr rfl
  | unexpected h =>
    apply unexpected
    rintro b ⟨a, ha, -⟩
    apply h a ha

/-- The value of an option, or a refusal if there is none. -/
theorem elim {x : Option α} {expected : Expected} {actual : Actual}
    (h : ∀ a, holds a ↔ x = some a) :
  Verdict (x.elim (.error (.unexpectedReply expected actual)) .ok) holds
  := by
  cases x with
  | some a =>
    apply ok
    intro b
    rw [h, Option.some_inj, eq_comm]
  | none =>
    apply unexpected
    intro b
    rw [h]
    rintro ⟨⟩

end Verdict

end FullText
