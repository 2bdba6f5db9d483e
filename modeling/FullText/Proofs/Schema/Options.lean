import FullText.Proofs.Wire.Counted
import FullText.Schema.Field

/-!
# The options in a schema clause

The options of a field stand in a fixed order after its type.  Each has its keyword and
some have a value, and an option that is not given leaves nothing in its place
(`OptionSlot`).

So the options can be told from the arguments if no options can be put in front of what
may follow them (`OptionSlot.eq_of_flatMap_append`).  What they tell is the kind of the
field up to its number, the weight or the epsilon, of which it is the text that can be
told (`FieldKind.view_eq_iff`).
-/

namespace FullText

/-! ### Places of options -/

/-- The place of an option in a clause. -/
@[ext]
structure OptionSlot where
  keyword : String
  /-- The number of operands of the option. -/
  width : Nat
  /-- The operands, if the option is given. -/
  operands : Option (List Arg)
  length_eq : ∀ args ∈ operands, args.length = width

namespace OptionSlot

/-- The place of an option that is a keyword alone. -/
def flag (keyword : String) (set : Bool) : OptionSlot where
  keyword := keyword
  width := 0
  operands := if set then some [] else none
  length_eq := by
    cases set with
    | false => rintro _ ⟨⟩
    | true =>
      rintro _ ⟨⟩
      rfl

/-- The place of an option with a value. -/
def valued (keyword : String) (value : Option Arg) : OptionSlot where
  keyword := keyword
  width := 1
  operands := value.map fun a => [a]
  length_eq := by
    cases value with
    | none => rintro _ ⟨⟩
    | some a =>
      rintro _ ⟨⟩
      rfl

/-- The arguments in the place of an option. -/
def args (x : OptionSlot) : List Arg :=
  match x.operands with
  | some operands => .text x.keyword :: operands
  | none => []

/-- What the place of an option is for, whether it is given or not. -/
def shape (x : OptionSlot) : String × Nat :=
  (x.keyword, x.width)

theorem args_flag (keyword : String) (set : Bool) :
  (flag keyword set).args = Arg.flag set keyword
  := by
  cases set with
  | false => rfl
  | true => rfl

theorem args_valued (keyword : String) (value : Option Arg) :
  (valued keyword value).args = Arg.option keyword value
  := by
  cases value with
  | none => rfl
  | some a => rfl

theorem flag_inj {keyword : String} {set set' : Bool} :
  flag keyword set = flag keyword set' ↔ set = set'
  := by
  constructor
  · intro h
    have hoperands := congrArg (fun x => x.operands.isSome) h
    cases set <;> cases set' <;> first | rfl | cases hoperands
  · rintro rfl
    rfl

theorem valued_inj {keyword : String} {value value' : Option Arg} :
  valued keyword value = valued keyword value' ↔ value = value'
  := by
  constructor
  · intro h
    apply Option.map_injective _ (congrArg operands h)
    intro a a' ha
    apply (List.cons.inj ha).1
  · rintro rfl
    rfl

/-- Options are not given at all, or the first argument is the keyword of one. -/
theorem flatMap_args_eq (xs : List OptionSlot) :
  xs.flatMap args = [] ∨ ∃ x ∈ xs, ∃ rest, xs.flatMap args = .text x.keyword :: rest
  := by
  induction xs with
  | nil => exact .inl rfl
  | cons x xs ih =>
    rw [List.flatMap_cons, args]
    cases x.operands with
    | some operands => exact .inr ⟨x, List.mem_cons_self, _, rfl⟩
    | none =>
      rcases ih with hnil | ⟨y, hy, rest, hcons⟩
      · exact .inl hnil
      · exact .inr ⟨y, List.mem_cons_of_mem x hy, rest, hcons⟩

/-! ### Options and what follows them -/

/-- No arguments of the class `p` can be put in front of what may follow. -/
def Precluded (p : Arg → Prop) (follows : List Arg → Prop) : Prop :=
  ∀ words rest, (∀ a ∈ words, p a) → follows rest → follows (words ++ rest) → words = []

variable {p : Arg → Prop} {follows : List Arg → Prop} {xs ys : List OptionSlot}
  {F G : List Arg}

/-- An option that is given in one reading is given in the other: its keyword is none of
the options after it, and does not begin what follows them. -/
theorem isSome_of_flatMap_append (hfollows : Precluded p follows) {x y : OptionSlot}
    (hkeyword : ∀ s ∈ ys.map shape, x.shape.1 ≠ s.1) (hp : ∀ a ∈ (x :: xs).flatMap args, p a)
    (hF : follows F) (hG : follows G)
    (h : (x :: xs).flatMap args ++ F = (y :: ys).flatMap args ++ G)
    (hgiven : x.operands.isSome = true) :
  y.operands.isSome = true
  := by
  obtain ⟨operands, hoperands⟩ := Option.isSome_iff_exists.mp hgiven
  have hcons : (x :: xs).flatMap args = .text x.keyword :: (operands ++ xs.flatMap args) := by
    rw [List.flatMap_cons, args, hoperands, List.cons_append]
  cases hy : y.operands with
  | some _ => rfl
  | none =>
    have hskip : (y :: ys).flatMap args = ys.flatMap args := by
      rw [List.flatMap_cons, args, hy, List.nil_append]
    rw [hskip] at h
    rcases flatMap_args_eq ys with hys | ⟨z, hz, rest, hys⟩
    · rw [hys, List.nil_append] at h
      have hnil := hfollows _ _ hp hF (h ▸ hG)
      rw [hcons] at hnil
      cases hnil
    · rw [hcons, hys] at h
      apply (hkeyword z.shape (List.mem_map_of_mem hz) _).elim
      apply Arg.text.inj (List.cons.inj h).1

/-- Two places of one option have equally many arguments if it is given in both or in
none. -/
theorem length_args_eq {x y : OptionSlot} (hshape : x.shape = y.shape)
    (hgiven : x.operands.isSome = y.operands.isSome) :
  x.args.length = y.args.length
  := by
  have hwidth : x.width = y.width := congrArg Prod.snd hshape
  cases hx : x.operands with
  | none =>
    rw [hx] at hgiven
    rw [args, args, hx, Option.not_isSome_iff_eq_none.mp (Bool.eq_false_iff.mp hgiven.symm)]
  | some a =>
    rw [hx] at hgiven
    obtain ⟨b, hb⟩ := Option.isSome_iff_exists.mp hgiven.symm
    simp only [args, hx, hb, List.length_cons, x.length_eq a hx, y.length_eq b hb, hwidth]

/-- The place of an option is known from its arguments. -/
theorem eq_of_args_eq {x y : OptionSlot} (hshape : x.shape = y.shape) (h : x.args = y.args) :
  x = y
  := by
  apply OptionSlot.ext (congrArg Prod.fst hshape) (congrArg Prod.snd hshape)
  rw [args, args] at h
  cases hx : x.operands with
  | none =>
    cases hy : y.operands with
    | none => rfl
    | some b =>
      rw [hx, hy] at h
      cases h
  | some a =>
    cases hy : y.operands with
    | none =>
      rw [hx, hy] at h
      cases h
    | some b =>
      rw [hx, hy] at h
      rw [(List.cons.inj h).2]

/-- The options and what follows them can be told from the arguments. -/
theorem eq_of_flatMap_append (hfollows : Precluded p follows)
    (hshape : xs.map shape = ys.map shape) (hdistinct : (xs.map shape).Pairwise (·.1 ≠ ·.1))
    (hxs : ∀ a ∈ xs.flatMap args, p a) (hys : ∀ a ∈ ys.flatMap args, p a)
    (hF : follows F) (hG : follows G) (h : xs.flatMap args ++ F = ys.flatMap args ++ G) :
  xs = ys ∧ F = G
  := by
  induction xs generalizing ys with
  | nil =>
    have hnil : ys = [] := List.map_eq_nil_iff.mp hshape.symm
    rw [hnil] at h ⊢
    exact ⟨rfl, h⟩
  | cons x xs ih =>
    cases ys with
    | nil => cases hshape
    | cons y ys =>
      obtain ⟨hxy, hshapes⟩ := List.cons.inj hshape
      obtain ⟨hx, hdistinct⟩ := List.pairwise_cons.mp hdistinct
      have hgiven : x.operands.isSome = y.operands.isSome := by
        apply Bool.eq_iff_iff.mpr
        constructor
        · apply isSome_of_flatMap_append hfollows (hshapes ▸ hx) hxs hF hG h
        · apply isSome_of_flatMap_append hfollows (hxy ▸ hx) hys hG hF h.symm
      simp only [List.flatMap_cons, List.append_assoc, List.forall_mem_append] at h hxs hys
      obtain ⟨hargs, hrest⟩ := List.append_inj h (length_args_eq hxy hgiven)
      obtain ⟨hoptions, hfollowing⟩ := ih hshapes hdistinct hxs.2 hys.2 hrest
      exact ⟨congrArg₂ List.cons (eq_of_args_eq hxy hargs) hoptions, hfollowing⟩

end OptionSlot

/-! ### The options of a kind -/

/-- The options of a type of field: their keywords, with the numbers of their operands. -/
def FieldType.optionShapes : FieldType → List (String × Nat)
  | .text => [("WEIGHT", 1), ("NOSTEM", 0), ("SORTABLE", 0), ("NOINDEX", 0), ("PHONETIC", 1)]
  | .tag => [("SEPARATOR", 1), ("CASESENSITIVE", 0), ("SORTABLE", 0), ("NOINDEX", 0)]
  | .numeric => [("SORTABLE", 0), ("NOINDEX", 0)]
  | .geo => [("NOINDEX", 0)]
  | .vector =>
    [ ("TYPE", 1), ("DIM", 1), ("DISTANCE_METRIC", 1), ("INITIAL_CAP", 1), ("BLOCK_SIZE", 1),
      ("M", 1), ("EF_CONSTRUCTION", 1), ("EF_RUNTIME", 1), ("EPSILON", 1) ]

/-- No two options of a type have the same keyword. -/
theorem FieldType.pairwise_optionShapes (type : FieldType) :
  type.optionShapes.Pairwise (·.1 ≠ ·.1)
  := by
  cases type <;> decide

namespace VectorOptions

/-- The places of the attributes of a vector field. -/
def slots (o : VectorOptions) : List OptionSlot :=
  [ .valued "TYPE" (some (.text o.elementType.keyword)),
    .valued "DIM" (some (.ofNat o.dim)),
    .valued "DISTANCE_METRIC" (some (.text o.metric.keyword)),
    .valued "INITIAL_CAP" (o.initialCap.map .ofNat),
    .valued "BLOCK_SIZE" (o.blockSize.map .ofNat),
    .valued "M" (o.m.map .ofNat),
    .valued "EF_CONSTRUCTION" (o.efConstruction.map .ofNat),
    .valued "EF_RUNTIME" (o.efRuntime.map .ofNat),
    .valued "EPSILON" (o.epsilon.map fun x => .text x.text) ]

/-- The arguments of an attribute that may be absent are those of its place. -/
theorem attribute_args {α : Type} (attr : VectorAttribute) (text : α → String)
    (x : Option α) :
  ((x.map fun a => (attr, text a)).toList.flatMap fun (attr, value) =>
      [Arg.text attr.keyword, Arg.text value])
    = (OptionSlot.valued attr.keyword (x.map fun a => .text (text a))).args
  := by
  cases x with
  | none => rfl
  | some a => rfl

/-- The attributes of a vector field stand in their places. -/
theorem attributes_args (o : VectorOptions) :
  (o.attributes.flatMap fun (attr, value) => [Arg.text attr.keyword, Arg.text value])
    = o.slots.flatMap OptionSlot.args
  := by
  simp only [attributes, List.flatMap_append, attribute_args]
  simp only [slots, List.flatMap_cons, List.flatMap_nil, List.append_nil, List.append_assoc,
    List.cons_append, List.nil_append]
  rfl

end VectorOptions

namespace FieldKind

/-- The places of the options of a kind. -/
def slots : FieldKind → List OptionSlot
  | .text o =>
    [ .valued "WEIGHT" (o.weight.map weightArg),
      .flag "NOSTEM" o.noStem,
      .flag "SORTABLE" o.sortable,
      .flag "NOINDEX" o.noIndex,
      .valued "PHONETIC" (o.phonetic.map fun p => .text p.code) ]
  | .tag o =>
    [ .valued "SEPARATOR" (o.separator.map fun c => .text (String.singleton c)),
      .flag "CASESENSITIVE" o.caseSensitive,
      .flag "SORTABLE" o.sortable,
      .flag "NOINDEX" o.noIndex ]
  | .numeric o => [.flag "SORTABLE" o.sortable, .flag "NOINDEX" o.noIndex]
  | .geo o => [.flag "NOINDEX" o.noIndex]
  | .vector o => o.slots

theorem shape_slots (k : FieldKind) :
  k.slots.map OptionSlot.shape = k.type.optionShapes
  := by
  cases k with
  | _ => rfl

/-- The algorithm of a vector field. -/
def algorithm? : FieldKind → Option VectorAlgorithm
  | .vector o => some o.algorithm
  | _ => none

theorem isSome_algorithm? (k : FieldKind) :
  k.algorithm?.isSome = (k.type == .vector)
  := by
  cases k with
  | _ => rfl

/-- What stands between the type and the options: for a vector field the algorithm, and
the number of arguments that its attributes take. -/
def leadArgs (k : FieldKind) : List Arg :=
  match k.algorithm? with
  | some algorithm =>
    [.text algorithm.keyword, .ofNat (k.slots.flatMap OptionSlot.args).length]
  | none => []

/-- The options of a kind stand in their places. -/
theorem optionArgs_eq (k : FieldKind) :
  k.optionArgs = k.leadArgs ++ k.slots.flatMap OptionSlot.args
  := by
  cases k with
  | vector o =>
    have hlength : 2 * o.attributes.length = (o.slots.flatMap OptionSlot.args).length := by
      rw [← VectorOptions.attributes_args, length_flatMap_of_width]
      intro _
      rfl
    rw [optionArgs, VectorOptions.attributes_args, hlength]
    rfl
  | _ =>
    simp only [optionArgs, leadArgs, algorithm?, slots, List.flatMap_cons, List.flatMap_nil,
      List.append_nil, List.append_assoc, List.nil_append, OptionSlot.args_flag,
      OptionSlot.args_valued]

end FieldKind

/-! ### What the options of a kind tell -/

/-- What can be told of a kind: all but how its number came to its text. -/
structure KindView where
  /-- The kind without its number. -/
  kind : FieldKind
  /-- The text of the weight of a text field, or the epsilon of a vector field. -/
  number : Option String
  deriving DecidableEq

/-- The view of a kind. -/
def FieldKind.view : FieldKind → KindView
  | .text o =>
    ⟨.text { o with weight := none }, o.weight.map fun w => .ofList (w.chars weightStyle)⟩
  | .vector o => ⟨.vector { o with epsilon := none }, o.epsilon.map Binary64.text⟩
  | k => ⟨k, none⟩

theorem Phonetic.code_inj {p p' : Phonetic} :
  p.code = p'.code ↔ p = p'
  := by
  cases p <;> cases p' <;> decide

theorem VectorAlgorithm.keyword_inj {a a' : VectorAlgorithm} :
  a.keyword = a'.keyword ↔ a = a'
  := by
  cases a <;> cases a' <;> decide

theorem ElementType.keyword_inj {t t' : ElementType} :
  t.keyword = t'.keyword ↔ t = t'
  := by
  cases t <;> cases t' <;> decide

theorem DistanceMetric.keyword_inj {m m' : DistanceMetric} :
  m.keyword = m'.keyword ↔ m = m'
  := by
  cases m <;> cases m' <;> decide

/-- A number that may be absent has the same argument where it has the same text. -/
theorem map_text_eq_iff {α : Type} {text : α → String} {x x' : Option α} :
  x.map (fun a => Arg.text (text a)) = x'.map (fun a => Arg.text (text a))
    ↔ x.map text = x'.map text
  := by
  have hmap (x : Option α) : x.map (fun a => Arg.text (text a)) = (x.map text).map .text := by
    rw [Option.map_map]
    rfl
  rw [hmap, hmap]
  apply Option.map_inj_right
  intro _ _
  apply Arg.text.inj

namespace FieldKind

/-- The view of a kind is what its type, its algorithm and the places of its options
tell. -/
theorem view_eq_iff (k k' : FieldKind) :
  k.view = k'.view ↔ k.type = k'.type ∧ k.algorithm? = k'.algorithm? ∧ k.slots = k'.slots
  := by
  have hcount {x x' : Option Nat} : x.map Arg.ofNat = x'.map .ofNat ↔ x = x' :=
    Option.map_inj_right fun _ _ => Arg.ofNat_inj.mp
  have hphonetic {x x' : Option Phonetic} :
    (x.map fun p => Arg.text p.code) = (x'.map fun p => .text p.code) ↔ x = x' :=
    Option.map_inj_right fun _ _ h => Phonetic.code_inj.mp (Arg.text.inj h)
  have hseparator {x x' : Option Char} :
    (x.map fun c => Arg.text (String.singleton c)) = (x'.map fun c => .text (String.singleton c))
      ↔ x = x' :=
    Option.map_inj_right fun _ _ h => String.singleton_inj.mp (Arg.text.inj h)
  have hweight {x x' : Option Binary64} :
    x.map weightArg = x'.map weightArg ↔
      (x.map fun w => String.ofList (w.chars weightStyle))
        = x'.map fun w => String.ofList (w.chars weightStyle) :=
    map_text_eq_iff
  cases k with
  | text o =>
    cases k' with
    | text o' =>
      simp only [view, type, algorithm?, slots, KindView.mk.injEq, FieldKind.text.injEq,
        TextOptions.mk.injEq, List.cons.injEq, OptionSlot.valued_inj, OptionSlot.flag_inj,
        hphonetic, hweight, true_and, and_true]
      tauto
    | _ => simp only [view, type, KindView.mk.injEq, reduceCtorEq, false_and]
  | tag o =>
    cases k' with
    | tag o' =>
      obtain ⟨⟩ := o
      obtain ⟨⟩ := o'
      simp only [view, type, algorithm?, slots, KindView.mk.injEq, FieldKind.tag.injEq,
        TagOptions.mk.injEq, List.cons.injEq, OptionSlot.valued_inj, OptionSlot.flag_inj,
        hseparator, true_and, and_true]
    | _ => simp only [view, type, KindView.mk.injEq, reduceCtorEq, false_and]
  | numeric o =>
    cases k' with
    | numeric o' =>
      obtain ⟨⟩ := o
      obtain ⟨⟩ := o'
      simp only [view, type, algorithm?, slots, KindView.mk.injEq, FieldKind.numeric.injEq,
        NumericOptions.mk.injEq, List.cons.injEq, OptionSlot.flag_inj, true_and, and_true]
    | _ => simp only [view, type, KindView.mk.injEq, reduceCtorEq, false_and]
  | geo o =>
    cases k' with
    | geo o' =>
      obtain ⟨⟩ := o
      obtain ⟨⟩ := o'
      simp only [view, type, algorithm?, slots, KindView.mk.injEq, FieldKind.geo.injEq,
        GeoOptions.mk.injEq, List.cons.injEq, OptionSlot.flag_inj, true_and, and_true]
    | _ => simp only [view, type, KindView.mk.injEq, reduceCtorEq, false_and]
  | vector o =>
    cases k' with
    | vector o' =>
      simp only [view, type, algorithm?, slots, VectorOptions.slots, KindView.mk.injEq,
        FieldKind.vector.injEq, VectorOptions.mk.injEq, List.cons.injEq, Option.some.injEq,
        OptionSlot.valued_inj, Arg.text.injEq, Arg.ofNat_inj, ElementType.keyword_inj,
        DistanceMetric.keyword_inj, hcount, map_text_eq_iff, true_and, and_true]
      tauto
    | _ => simp only [view, type, KindView.mk.injEq, reduceCtorEq, false_and]

/-- The arguments of the options are told by the view of the kind. -/
theorem optionArgs_eq_of_view_eq {k k' : FieldKind} (h : k.view = k'.view) :
  k.optionArgs = k'.optionArgs
  := by
  obtain ⟨-, halgorithm, hslots⟩ := (view_eq_iff k k').mp h
  rw [optionArgs_eq, optionArgs_eq, leadArgs, leadArgs, halgorithm, hslots]

/-- The options of one type and what follows them can be told from the arguments, if no
options can be put in front of what may follow. -/
theorem slots_eq_of_append {p : Arg → Prop} {follows : List Arg → Prop}
    (hfollows : OptionSlot.Precluded p follows) {k k' : FieldKind} (htype : k.type = k'.type)
    (hk : ∀ a ∈ k.slots.flatMap OptionSlot.args, p a)
    (hk' : ∀ a ∈ k'.slots.flatMap OptionSlot.args, p a) {F G : List Arg} (hF : follows F)
    (hG : follows G)
    (h : k.slots.flatMap OptionSlot.args ++ F = k'.slots.flatMap OptionSlot.args ++ G) :
  k.slots = k'.slots ∧ F = G
  := by
  apply OptionSlot.eq_of_flatMap_append hfollows _ _ hk hk' hF hG h
  · rw [shape_slots, shape_slots, htype]
  · rw [shape_slots]
    apply FieldType.pairwise_optionShapes

/-- Options of one type that take equally many arguments can be told from them, whatever
follows. -/
theorem slots_eq_of_length {k k' : FieldKind} (htype : k.type = k'.type) {F G : List Arg}
    (hlength : (k.slots.flatMap OptionSlot.args).length
      = (k'.slots.flatMap OptionSlot.args).length)
    (h : k.slots.flatMap OptionSlot.args ++ F = k'.slots.flatMap OptionSlot.args ++ G) :
  k.slots = k'.slots ∧ F = G
  := by
  obtain ⟨hslots, hFG⟩ := List.append_inj h hlength
  have hnothing : OptionSlot.Precluded (fun _ => True) (· = []) := by
    rintro words _ - rfl hwords
    rw [← hwords, List.append_nil]
  have halone : k.slots.flatMap OptionSlot.args ++ [] = k'.slots.flatMap OptionSlot.args ++ [] :=
    congrArg (· ++ []) hslots
  obtain ⟨heq, -⟩ := slots_eq_of_append hnothing htype (fun _ _ => trivial)
    (fun _ _ => trivial) rfl rfl halone
  exact ⟨heq, hFG⟩

/-- The kind of a type is told by its options and what follows them, if no options but the
attributes of a vector field can be put in front of what may follow. -/
theorem view_eq_of_append {p : Arg → Prop} {follows : List Arg → Prop}
    (hfollows : OptionSlot.Precluded p follows)
    (hp : ∀ k : FieldKind, k.algorithm? = none → ∀ a ∈ k.slots.flatMap OptionSlot.args, p a)
    {k k' : FieldKind} (htype : k.type = k'.type) {F G : List Arg} (hF : follows F)
    (hG : follows G) (h : k.optionArgs ++ F = k'.optionArgs ++ G) :
  k.view = k'.view ∧ F = G
  := by
  have hvector : k.algorithm?.isSome = k'.algorithm?.isSome := by
    rw [isSome_algorithm?, isSome_algorithm?, htype]
  rw [optionArgs_eq, optionArgs_eq, leadArgs, leadArgs] at h
  cases hk : k.algorithm? with
  | none =>
    rw [hk] at hvector
    have hk' := Option.not_isSome_iff_eq_none.mp (Bool.eq_false_iff.mp hvector.symm)
    rw [hk, hk', List.nil_append, List.nil_append] at h
    obtain ⟨hslots, hFG⟩ := slots_eq_of_append hfollows htype (hp k hk) (hp k' hk') hF hG h
    exact ⟨(view_eq_iff k k').mpr ⟨htype, hk.trans hk'.symm, hslots⟩, hFG⟩
  | some a =>
    rw [hk] at hvector
    obtain ⟨a', hk'⟩ := Option.isSome_iff_exists.mp hvector.symm
    simp only [hk, hk', List.cons_append, List.nil_append, List.cons.injEq, Arg.text.injEq,
      Arg.ofNat_inj, VectorAlgorithm.keyword_inj] at h
    obtain ⟨halgorithm, hlength, h⟩ := h
    obtain ⟨hslots, hFG⟩ := slots_eq_of_length htype hlength h
    rw [halgorithm, ← hk'] at hk
    exact ⟨(view_eq_iff k k').mpr ⟨htype, hk, hslots⟩, hFG⟩

end FieldKind

end FullText
