import FullText.Proofs.Index.Runs
import FullText.Proofs.Pairs

/-!
# Documents that are added

A numeric field takes numbers alone, and the index sees to this itself: a document with a
value that its field does not take is not sent (`Index.add_turn`).  Which field a value
goes to is told by the name that it is given under, and that may be the name or the alias
of a field, or of none.

A run sends documents only when it adds them, and each of them fits the schema that the
index had when it was sent (`Index.documents_performAll`).
-/

namespace FullText

/-! ### Values that are not taken -/

/-- The field is numeric and answers to the name, and the value denotes no number. -/
structure Schema.Bars (s : Schema) (name : String) (value : DocumentValue) (f : Field) :
    Prop where
  mem : f ∈ s.fields
  named : name ∈ f.keys
  numeric : ∃ o, f.kind = .numeric o
  noNumber : value.number? = none

theorem Field.isNumeric_iff (f : Field) :
  f.isNumeric ↔ ∃ o, f.kind = .numeric o
  := by
  rw [isNumeric]
  cases f.kind with
  | numeric o => simp [FieldKind.type]
  | _ => simp [FieldKind.type]

theorem DocumentValue.fault?_eq_some_iff (value : DocumentValue) (f : Field)
    (e : ValidationError) :
  value.fault? f = some e ↔
    (∃ o, f.kind = .numeric o) ∧ value.number? = none ∧ e = .nonNumericValue f.name value.shown
  := by
  rw [fault?, ← f.isNumeric_iff]
  split
  · rename_i h
    rw [Bool.and_eq_true, Option.isNone_iff_eq_none] at h
    simp [h, eq_comm]
  · rename_i h
    rw [Bool.and_eq_true, Option.isNone_iff_eq_none, not_and] at h
    simp only [reduceCtorEq, false_iff, not_and]
    intro hnumeric hnone
    exact absurd hnone (h hnumeric)

namespace Index

/-- The fault of one value. -/
def pairFault? (ix : Index) (pair : String × DocumentValue) : Option ValidationError :=
  (ix.schema.get? pair.1).bind pair.2.fault?

theorem valueFault?_eq_findSome? (ix : Index) (fields : List (String × DocumentValue)) :
  ix.valueFault? fields = fields.findSome? ix.pairFault?
  := by
  rw [valueFault?]
  congr
  funext ⟨name, value⟩
  simp only [pairFault?]
  cases ix.schema.get? name with
  | none => rfl
  | some f => rfl

theorem pairFault?_eq_some_iff (ix : Index) (pair : String × DocumentValue)
    (e : ValidationError) :
  ix.pairFault? pair = some e ↔
    ∃ f, ix.schema.Bars pair.1 pair.2 f ∧ e = .nonNumericValue f.name pair.2.shown
  := by
  rw [pairFault?, Option.bind_eq_some_iff]
  apply exists_congr
  intro f
  rw [Schema.get?_eq_some_iff_mem, DocumentValue.fault?_eq_some_iff]
  constructor
  · rintro ⟨⟨hmem, hnamed⟩, hnumeric, hnone, he⟩
    exact ⟨⟨hmem, hnamed, hnumeric, hnone⟩, he⟩
  · rintro ⟨⟨hmem, hnamed, hnumeric, hnone⟩, he⟩
    exact ⟨⟨hmem, hnamed⟩, hnumeric, hnone, he⟩

theorem pairFault?_eq_none_iff (ix : Index) (pair : String × DocumentValue) :
  ix.pairFault? pair = none ↔ ∀ f, ¬ ix.schema.Bars pair.1 pair.2 f
  := by
  simp only [Option.eq_none_iff_forall_ne_some, ne_eq, pairFault?_eq_some_iff]
  constructor
  · intro h f hbars
    exact h _ ⟨f, hbars, rfl⟩
  · rintro h e ⟨f, hbars, -⟩
    exact h f hbars

/-- A document is sent exactly if none of its values is barred. -/
theorem valueFault?_eq_none_iff (ix : Index) (fields : List (String × DocumentValue)) :
  ix.valueFault? fields = none ↔ ∀ pair ∈ fields, ∀ f, ¬ ix.schema.Bars pair.1 pair.2 f
  := by
  simp only [valueFault?_eq_findSome?, List.findSome?_eq_none_iff, pairFault?_eq_none_iff]

/-- So a document is refused exactly if one of its values is barred. -/
theorem refusal?_add_eq_none_iff (ix : Index) (id : String)
    (fields : List (String × DocumentValue)) :
  (Operation.add id fields).refusal? ix = none ↔
    ∀ pair ∈ fields, ∀ f, ¬ ix.schema.Bars pair.1 pair.2 f
  := by
  rw [Operation.refusal?_eq_none_iff, Operation.Allowed, valueFault?_eq_none_iff]

/-- The fault of a document is that of the first value that is barred. -/
theorem valueFault?_eq_some {ix : Index} {fields : List (String × DocumentValue)}
    {e : ValidationError} (h : ix.valueFault? fields = some e) :
  ∃ before name value after f, fields = before ++ (name, value) :: after ∧
    (∀ pair ∈ before, ∀ g, ¬ ix.schema.Bars pair.1 pair.2 g) ∧
    ix.schema.Bars name value f ∧ e = .nonNumericValue f.name value.shown
  := by
  rw [valueFault?_eq_findSome?, List.findSome?_eq_some_iff] at h
  obtain ⟨before, ⟨name, value⟩, after, hfields, hfault, hbefore⟩ := h
  obtain ⟨f, hbars, he⟩ := (ix.pairFault?_eq_some_iff _ e).mp hfault
  refine ⟨before, name, value, after, f, hfields, ?_, hbars, he⟩
  intro pair hpair
  apply (ix.pairFault?_eq_none_iff pair).mp (hbefore pair hpair)

end Index

/-! ### Documents as they are sent -/

/-- The argument for a value that is given under a name: that of the field that answers
to the name, if there is one. -/
inductive Schema.Encodes (s : Schema) (name : String) (value : DocumentValue) : Arg → Prop where
  | declared {f : Field} (mem : f ∈ s.fields) (named : name ∈ f.keys) :
    s.Encodes name value (value.hashArg (some f))
  | undeclared (h : ¬ s.Has name) : s.Encodes name value (value.hashArg none)

/-- The arguments for values under their names, in the same order. -/
inductive Schema.EncodesAll (s : Schema) : List (String × DocumentValue) → List Arg → Prop where
  | nil : s.EncodesAll [] []
  | cons {name : String} {value : DocumentValue} {arg : Arg}
    {pairs : List (String × DocumentValue)} {args : List Arg}
    (first : s.Encodes name value arg) (rest : s.EncodesAll pairs args) :
    s.EncodesAll ((name, value) :: pairs) (.text name :: arg :: args)

/-- The command that writes a document: a hash of all values in their order, or an object
of the last values. -/
inductive Index.Writes (ix : Index) (id : String) (fields : List (String × DocumentValue)) :
    Call → Prop where
  | hash {args : List Arg} (storage : ix.definition.storage = .hash)
    (encodes : ix.schema.EncodesAll fields args)
    (length : (Arg.text (ix.definition.documentKey id) :: args).length = 1 + 2 * fields.length) :
    ix.Writes id fields ⟨"HSET", .text (ix.definition.documentKey id) :: args⟩
  | json {members : List (String × Json)} (storage : ix.definition.storage = .json)
    (ascending : Json.Ascending members)
    (last : ∀ name json, (name, json) ∈ members ↔
      (lastValue? name fields).map DocumentValue.toJson = some json) :
    ix.Writes id fields ⟨"JSON.SET", [.text (ix.definition.documentKey id), .text "$",
      .text (Json.object members).text]⟩

theorem Schema.encodes_hashArg (s : Schema) (name : String) (value : DocumentValue) :
  s.Encodes name value (value.hashArg (s.get? name))
  := by
  cases hget : s.get? name with
  | some f =>
    obtain ⟨hmem, hnamed⟩ := (s.get?_eq_some_iff_mem name f).mp hget
    apply Encodes.declared hmem hnamed
  | none =>
    apply Encodes.undeclared
    rintro ⟨f, hmem, hnamed⟩
    apply (s.get?_eq_none_iff name).mp hget f hmem hnamed

namespace Index

theorem encodesAll_hashArgs (ix : Index) (fields : List (String × DocumentValue)) :
  ix.schema.EncodesAll fields (ix.hashArgs fields)
  := by
  induction fields with
  | nil => apply Schema.EncodesAll.nil
  | cons pair fields ih => apply Schema.EncodesAll.cons (ix.schema.encodes_hashArg _ _) ih

theorem length_of_encodesAll {s : Schema} {fields : List (String × DocumentValue)}
    {args : List Arg} (h : s.EncodesAll fields args) :
  args.length = 2 * fields.length
  := by
  induction h with
  | nil => rfl
  | cons first rest ih =>
    rw [List.length_cons, List.length_cons, ih, List.length_cons]
    omega

/-- The command of a document writes it. -/
theorem writes_call (ix : Index) (id : String) (fields : List (String × DocumentValue)) :
  ix.Writes id fields ((Operation.add id fields).call ix)
  := by
  rw [Operation.call]
  cases hstorage : ix.definition.storage with
  | hash =>
    have hencodes := ix.encodesAll_hashArgs fields
    apply Writes.hash hstorage hencodes
    rw [List.length_cons, length_of_encodesAll hencodes, Nat.add_comm]
  | json =>
    obtain ⟨members, hmembers, hascending, hmem⟩ :=
      Json.sortedObject_eq (fields.map fun field => (field.1, field.2.toJson))
    have hbody : body fields = .object members := hmembers
    rw [hbody]
    apply Writes.json hstorage hascending
    intro name json
    have hlast := lastValue?_map DocumentValue.toJson name fields
    rw [hmem, ← hlast]

/-! ### Adding a document -/

/-- What can come of adding a document.  Either a value is barred, and the first such is
reported and nothing done.  Or none is, and the document is sent, which may fail. -/
inductive AddTurn (ix : Index) (id : String) (fields : List (String × DocumentValue))
    (s : Session) : Except SearchError Answer × Index × Session → Prop where
  | barred {before after : List (String × DocumentValue)} {name : String}
    {value : DocumentValue} {f : Field} (fields_eq : fields = before ++ (name, value) :: after)
    (first : ∀ pair ∈ before, ∀ g, ¬ ix.schema.Bars pair.1 pair.2 g)
    (bars : ix.schema.Bars name value f) :
    ix.AddTurn id fields s (.error (.validation (.nonNumericValue f.name value.shown)), ix,
      s.record (.validationFailure ix.definition.name))
  | written {call : Call} {r : Reply} {s' : Session}
    (free : ∀ pair ∈ fields, ∀ f, ¬ ix.schema.Bars pair.1 pair.2 f)
    (writes : ix.Writes id fields call) (channel : s'.channel = s.channel.record call)
    (answer : s.channel.nextAnswer = .ok r) :
    ix.AddTurn id fields s (.ok .done, ix, s')
  | failed {call : Call} {e : ChannelError} {s' : Session}
    (free : ∀ pair ∈ fields, ∀ f, ¬ ix.schema.Bars pair.1 pair.2 f)
    (writes : ix.Writes id fields call) (channel : s'.channel = s.channel.record call)
    (answer : s.channel.nextAnswer = .error e) :
    ix.AddTurn id fields s (.error (.channel e), ix, s')

/-- A document is added as its values allow. -/
theorem add_turn (ix : Index) (id : String) (fields : List (String × DocumentValue))
    (s : Session) :
  ix.AddTurn id fields s (ix.perform (.add id fields) s)
  := by
  have hrefusal : (Operation.add id fields).refusal? ix = (ix.valueFault? fields).map .validation :=
    rfl
  cases hfault : ix.valueFault? fields with
  | some e =>
    obtain ⟨before, name, value, after, f, hfields, hbefore, hbars, rfl⟩ :=
      valueFault?_eq_some hfault
    rw [perform, hrefusal, hfault]
    apply AddTurn.barred hfields hbefore hbars
  | none =>
    have hfree := (ix.valueFault?_eq_none_iff fields).mp hfault
    have hwrites := ix.writes_call id fields
    have hstep := ix.step_perform (.add id fields) s
    rw [hfault, Option.map_none] at hrefusal
    generalize ix.perform (.add id fields) s = turn at hstep
    obtain ⟨answer, ix', s'⟩ := turn
    generalize hchannel : s'.channel = channel at hstep
    cases hstep with
    | refused refusal => rw [hrefusal] at refusal; cases refusal
    | failed _ hanswer => apply AddTurn.failed hfree hwrites hchannel hanswer
    | answered _ hanswer => apply AddTurn.written hfree hwrites hchannel hanswer

end Index

/-! ### Documents of a run -/

/-- Whether a command writes a document. -/
def Call.isWrite : Call → Bool
  | ⟨"HSET", _⟩ => true
  | ⟨"JSON.SET", _⟩ => true
  | _ => false

/-- Only documents that are added are written. -/
theorem Operation.eq_add_of_isWrite {ix : Index} {op : Operation} (h : (op.call ix).isWrite) :
  ∃ id fields, op = .add id fields
  := by
  cases op with
  | add id fields => exact ⟨id, fields, rfl⟩
  | get id =>
    rw [call] at h
    cases hstorage : ix.definition.storage with
    | hash => rw [hstorage] at h; exact absurd h Bool.false_ne_true
    | json => rw [hstorage] at h; exact absurd h Bool.false_ne_true
  | _ => exact absurd h Bool.false_ne_true

namespace Index

/-- At every moment of a run a document is added as its values allow.  And whatever the run
has written to the server is a document that it added, without a value that was barred at
the time. -/
theorem documents_performAll (ix : Index) (s : Session) (ops : List Operation) :
  (∀ id fields,
    let (_, ix', s') := ix.performAll s ops
    ix'.AddTurn id fields s' (ix'.perform (.add id fields) s')) ∧
  ∃ sent, (ix.performAll s ops).2.2.channel = s.channel.recordAll sent ∧
    ∀ call ∈ sent, call.isWrite → ∃ before id fields after,
      ops = before ++ .add id fields :: after ∧
        let ix' := (ix.performAll s before).2.1
        ix'.Writes id fields call ∧ ∀ pair ∈ fields, ∀ f, ¬ ix'.schema.Bars pair.1 pair.2 f
  := by
  constructor
  · intro id fields
    apply add_turn
  · obtain ⟨sent, hchannel, hsent⟩ := ix.exists_of_sent s ops
    use sent, hchannel
    intro call hcall hwrite
    obtain ⟨before, op, after, hops, hrefusal, rfl⟩ := hsent call hcall
    obtain ⟨id, fields, rfl⟩ := Operation.eq_add_of_isWrite hwrite
    rw [refusal?_add_eq_none_iff] at hrefusal
    exact ⟨before, id, fields, after, hops, writes_call _ id fields, hrefusal⟩

end Index

end FullText
