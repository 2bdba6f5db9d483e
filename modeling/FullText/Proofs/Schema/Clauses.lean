import FullText.Proofs.Number.Plain
import FullText.Proofs.Schema.Options
import FullText.Schema.Basic

/-!
# The clauses of a schema

The clauses of the fields of a schema follow one another without anything between them,
and a field may be called `SORTABLE` or `AS`.  So an argument alone does not say whether
it is an option of one field or the name of the next: what begins with
`a TEXT SORTABLE TEXT TEXT` can be read in two ways for a while.

Two readings that part at such an argument are out of step from there on: where one of
them takes an argument for a name, the other one needs a word that follows a name.  The
arguments may end before a name, but not before such a word, so they end for one of the
two at most (`Place.Completes.not_named`).  Hence the fields can be told from their
clauses (`Field.flatMap_args_inj`).
-/

namespace FullText

/-! ### The words after a name -/

/-- The words that follow a name: the announcement of an alias, and the types. -/
def headArgs : List Arg :=
  .text "AS" ::
    [FieldType.text, .tag, .numeric, .geo, .vector].map fun type => .text type.keyword

theorem keyword_mem_headArgs (type : FieldType) :
  .text type.keyword ∈ headArgs
  := by
  cases type <;> decide

/-- No type is written like the announcement of an alias. -/
theorem FieldType.keyword_ne (type : FieldType) :
  type.keyword ≠ "AS"
  := by
  cases type <;> decide

theorem FieldType.keyword_inj {type type' : FieldType} :
  type.keyword = type'.keyword ↔ type = type'
  := by
  cases type <;> cases type' <;> decide

/-- A weight is not written like a word that follows a name. -/
theorem weightArg_not_mem_headArgs (w : Binary64) :
  weightArg w ∉ headArgs
  := by
  have hwords : ∀ a ∈ headArgs, a.display.toList.all isNumberChar = false := by
    decide
  have hweight : (weightArg w).display.toList.all isNumberChar = true := by
    apply List.all_eq_true.mpr
    intro c hc
    rw [weightArg, Arg.display, String.toList_ofList] at hc
    apply Binary64.isNumberChar_of_mem_chars hc
  intro h
  rw [hwords _ h] at hweight
  cases hweight

theorem OptionSlot.not_mem_headArgs_flag {keyword : String}
    (hkeyword : .text keyword ∉ headArgs) (set : Bool) :
  ∀ a ∈ (flag keyword set).args, a ∉ headArgs
  := by
  intro a ha
  cases set with
  | false => cases ha
  | true =>
    rw [List.mem_singleton.mp ha]
    apply hkeyword

theorem OptionSlot.not_mem_headArgs_valued {keyword : String}
    (hkeyword : .text keyword ∉ headArgs) {value : Option Arg}
    (hvalue : ∀ a ∈ value, a ∉ headArgs) :
  ∀ a ∈ (valued keyword value).args, a ∉ headArgs
  := by
  intro a ha
  cases value with
  | none => cases ha
  | some v =>
    rcases List.mem_pair.mp ha with rfl | rfl
    · apply hkeyword
    · apply hvalue a rfl

/-! ### Readings -/

/-- Where a reading of clauses stands. -/
inductive Place where
  /-- Before the name of a field, or at the end. -/
  | between
  /-- After the name of a field, before its alias or its type. -/
  | named
  /-- After the announcement of an alias, before the alias. -/
  | announced
  /-- Before the type of a field, after its alias if it has one. -/
  | untyped

/-- Arguments can be read from a place to the end. -/
inductive Place.Completes : Place → List Arg → Prop where
  | finish : Completes between []
  | name {s : String} {rest : List Arg} (h : Completes named rest) :
    Completes between (.text s :: rest)
  | announce {rest : List Arg} (h : Completes announced rest) :
    Completes named (.text "AS" :: rest)
  | skip {rest : List Arg} (h : Completes untyped rest) : Completes named rest
  | otherName {s : String} {rest : List Arg} (h : Completes untyped rest) :
    Completes announced (.text s :: rest)
  | type (k : FieldKind) {rest : List Arg} (h : Completes between rest) :
    Completes untyped (.text k.type.keyword :: (k.optionArgs ++ rest))

namespace Place.Completes

/-- After a name, a word follows that follows a name. -/
theorem head_mem {args : List Arg} (h : named.Completes args) :
  ∃ a ∈ headArgs, ∃ rest, args = a :: rest
  := by
  cases h with
  | announce h => exact ⟨_, List.mem_cons_self, _, rfl⟩
  | skip h =>
    cases h with
    | type k h => exact ⟨_, keyword_mem_headArgs k.type, _, rfl⟩

/-- No arguments are put before such a word, unless the first of them is one too. -/
theorem eq_nil_of_append {words rest : List Arg} (hwords : ∀ a ∈ words.head?, a ∉ headArgs)
    (h : named.Completes (words ++ rest)) :
  words = []
  := by
  obtain ⟨a, ha, later, hargs⟩ := h.head_mem
  cases words with
  | nil => rfl
  | cons word words =>
    apply (hwords word rfl _).elim
    rw [(List.cons.inj hargs).1]
    apply ha

end Place.Completes

namespace FieldKind

/-- No option is written like a word that follows a name, and neither is its value. -/
theorem not_mem_headArgs {k : FieldKind} (hk : k.algorithm? = none) :
  ∀ a ∈ k.slots.flatMap OptionSlot.args, a ∉ headArgs
  := by
  cases k with
  | text o =>
    simp only [slots, List.flatMap_cons, List.flatMap_nil, List.append_nil,
      List.forall_mem_append]
    refine ⟨?_, ?_, ?_, ?_, ?_⟩
    · apply OptionSlot.not_mem_headArgs_valued (by decide)
      intro a ha
      obtain ⟨w, -, rfl⟩ := Option.map_eq_some_iff.mp ha
      apply weightArg_not_mem_headArgs
    · apply OptionSlot.not_mem_headArgs_flag (by decide)
    · apply OptionSlot.not_mem_headArgs_flag (by decide)
    · apply OptionSlot.not_mem_headArgs_flag (by decide)
    · apply OptionSlot.not_mem_headArgs_valued (by decide)
      intro a ha
      obtain ⟨p, -, rfl⟩ := Option.map_eq_some_iff.mp ha
      cases p <;> decide
  | tag o =>
    simp only [slots, List.flatMap_cons, List.flatMap_nil, List.append_nil,
      List.forall_mem_append]
    refine ⟨?_, ?_, ?_, ?_⟩
    · apply OptionSlot.not_mem_headArgs_valued (by decide)
      intro a ha
      obtain ⟨c, -, rfl⟩ := Option.map_eq_some_iff.mp ha
      have hlength : ∀ a ∈ headArgs, a.display.toList.length ≠ 1 := by
        decide
      intro h
      apply hlength _ h
      rw [Arg.display, String.toList_singleton]
      rfl
    · apply OptionSlot.not_mem_headArgs_flag (by decide)
    · apply OptionSlot.not_mem_headArgs_flag (by decide)
    · apply OptionSlot.not_mem_headArgs_flag (by decide)
  | numeric o =>
    simp only [slots, List.flatMap_cons, List.flatMap_nil, List.append_nil,
      List.forall_mem_append]
    constructor
    · apply OptionSlot.not_mem_headArgs_flag (by decide)
    · apply OptionSlot.not_mem_headArgs_flag (by decide)
  | geo o =>
    simp only [slots, List.flatMap_cons, List.flatMap_nil, List.append_nil]
    apply OptionSlot.not_mem_headArgs_flag (by decide)
  | vector o => cases hk

/-- The first argument of options is no word that follows a name. -/
theorem head_not_mem_headArgs (k : FieldKind) :
  ∀ a ∈ k.optionArgs.head?, a ∉ headArgs
  := by
  intro a ha
  rw [optionArgs_eq, leadArgs] at ha
  cases hk : k.algorithm? with
  | some algorithm =>
    rw [hk] at ha
    rw [← Option.some.inj ha]
    cases algorithm <;> decide
  | none =>
    rw [hk, List.nil_append] at ha
    apply not_mem_headArgs hk a (List.mem_of_mem_head? ha)

end FieldKind

namespace Place.Completes

/-- A reading that is after a name and one that is before a name do not both come to the
end. -/
theorem not_named {args : List Arg}
    (h : between.Completes args ∨ announced.Completes args) :
  ¬ named.Completes args
  := by
  induction hn : args.length using Nat.strongRecOn generalizing args with
  | ind n ih =>
    have hlater {rest : List Arg} {a : Arg} (hrest : args = a :: rest)
        (h : between.Completes rest ∨ announced.Completes rest) :
      ¬ named.Completes rest
      := by
      apply ih rest.length _ h rfl
      rw [← hn, hrest]
      apply Nat.lt_succ_self
    intro hnamed
    cases hnamed with
    | announce hannounced =>
      apply hlater rfl (.inr hannounced)
      rcases h with h | h
      · cases h with
        | name h => apply h
      · cases h with
        | otherName h => apply skip h
    | skip huntyped =>
      cases huntyped with
      | @type k rest hbetween =>
        -- The other reading has taken the type for a name, so options cannot follow.
        have hother : named.Completes (k.optionArgs ++ rest) := by
          rcases h with h | h
          · cases h with
            | name h => apply h
          · cases h with
            | otherName h => apply skip h
        have hnil := hother.eq_nil_of_append k.head_not_mem_headArgs
        rw [hnil, List.nil_append] at hother
        rw [hnil, List.nil_append] at hlater
        apply hlater rfl (.inl hbetween) hother

/-- No options can be put before the name of a field, or before the end. -/
theorem precluded :
  OptionSlot.Precluded (· ∉ headArgs) between.Completes
  := by
  intro words rest hwords hrest h
  cases words with
  | nil => rfl
  | cons word words =>
    cases h with
    | name h =>
      have hhead : ∀ a ∈ words.head?, a ∉ headArgs := fun a ha =>
        hwords a (List.mem_cons_of_mem _ (List.mem_of_mem_head? ha))
      obtain rfl := h.eq_nil_of_append hhead
      apply (not_named (.inl hrest) h).elim

end Place.Completes

/-! ### Fields -/

/-- What can be told of a field. -/
structure FieldView where
  name : String
  otherName : Option String
  kind : KindView
  deriving DecidableEq

namespace Field

/-- The view of a field. -/
def view (f : Field) : FieldView :=
  ⟨f.name, f.otherName, f.kind.view⟩

/-- The clause of a field is told by the view of the field. -/
theorem args_eq_of_view_eq {f g : Field} (h : f.view = g.view) :
  f.args = g.args
  := by
  obtain ⟨hname, hother, hkind⟩ := FieldView.mk.inj h
  obtain ⟨htype, -⟩ := (FieldKind.view_eq_iff _ _).mp hkind
  rw [args, args, hname, hother, htype, FieldKind.optionArgs_eq_of_view_eq hkind]

/-- The name, the alias and the type of a field can be told from its clause. -/
theorem head_eq_of_append {f g : Field} {F G : List Arg} (h : f.args ++ F = g.args ++ G) :
  f.name = g.name ∧ f.otherName = g.otherName ∧ f.kind.type = g.kind.type ∧
    f.kind.optionArgs ++ F = g.kind.optionArgs ++ G
  := by
  have hsplit (f : Field) (F : List Arg) : f.args ++ F = .text f.name ::
    (announcedArgs "AS" (fun s => [.text s]) f.otherName ++
      .text f.kind.type.keyword :: (f.kind.optionArgs ++ F))
    := by
    rw [args, List.cons_append, List.append_assoc, List.cons_append]
    cases f.otherName with
    | none => rfl
    | some other => rfl
  have hannounced (f : Field) (F : List Arg) : .text "AS" ∉
    (.text f.kind.type.keyword :: (f.kind.optionArgs ++ F)).head?
    := by
    intro h
    apply f.kind.type.keyword_ne
    apply Arg.text.inj (Option.some.inj h)
  rw [hsplit, hsplit] at h
  obtain ⟨hname, h⟩ := List.cons.inj h
  obtain ⟨hother, h⟩ := announcedArgs_append_inj
    (fun _ _ _ _ h => ⟨Arg.text.inj (List.cons.inj h).1, (List.cons.inj h).2⟩)
    (hannounced f F) (hannounced g G) h
  obtain ⟨htype, h⟩ := List.cons.inj h
  exact ⟨Arg.text.inj hname, hother, FieldType.keyword_inj.mp (Arg.text.inj htype), h⟩

/-- A clause can be read before clauses. -/
theorem completes_append (f : Field) {rest : List Arg} (h : Place.between.Completes rest) :
  Place.between.Completes (f.args ++ rest)
  := by
  have huntyped := Place.Completes.type f.kind h
  rw [args, List.cons_append]
  apply Place.Completes.name
  cases f.otherName with
  | none => apply Place.Completes.skip huntyped
  | some other =>
    apply Place.Completes.announce
    apply Place.Completes.otherName huntyped

theorem completes_flatMap (fields : List Field) :
  Place.between.Completes (fields.flatMap args)
  := by
  induction fields with
  | nil => apply Place.Completes.finish
  | cons f fields ih =>
    rw [List.flatMap_cons]
    apply f.completes_append ih

/-- The fields can be told from their clauses, up to how a number came to its text. -/
theorem flatMap_args_inj {fields fields' : List Field} :
  fields.flatMap args = fields'.flatMap args ↔ fields.map view = fields'.map view
  := by
  induction fields generalizing fields' with
  | nil =>
    cases fields' with
    | nil => exact ⟨fun _ => rfl, fun _ => rfl⟩
    | cons f' fields' => exact ⟨nofun, nofun⟩
  | cons f fields ih =>
    cases fields' with
    | nil => exact ⟨nofun, nofun⟩
    | cons f' fields' =>
      rw [List.flatMap_cons, List.flatMap_cons, List.map_cons, List.map_cons, List.cons.injEq,
        ← ih]
      constructor
      · intro h
        obtain ⟨hname, hother, htype, hoptions⟩ := head_eq_of_append h
        obtain ⟨hkind, hrest⟩ := FieldKind.view_eq_of_append Place.Completes.precluded
          (fun _ => FieldKind.not_mem_headArgs) htype (completes_flatMap fields)
          (completes_flatMap fields') hoptions
        constructor
        · rw [view, view, hname, hother, hkind]
        · apply hrest
      · rintro ⟨hview, hrest⟩
        rw [args_eq_of_view_eq hview, hrest]

end Field

end FullText
