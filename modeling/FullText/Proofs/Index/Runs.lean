import FullText.Proofs.Index.Commands
import FullText.Proofs.Schema.Names

/-!
# Runs of operations

Each operation of a run takes the index and the channel one step further, and there are
three kinds of steps (`Index.Step`): the operation is refused, its command fails, or its
command is answered.

The index changes in one case alone, which is that the server has accepted a new field.
So what a handle knows can be told from the run: its fields are those that it was opened
with and after them those of the alterations that succeeded, and its schema clause is the
one that it was opened with and after it what the accepted commands have added
(`Index.Tracks`).  Whatever is done next sends its command and no other one if it is
allowed, and none if it is not (`Index.Restrained`).  `Index.performAll_follows` says so
of every run.
-/

namespace FullText

/-! ### What is allowed -/

namespace Operation

/-- The values of a document are taken by their fields, and the names of a new field are
free.  Any other operation is allowed in any case. -/
def Allowed (ix : Index) : Operation → Prop
  | .add _ fields => ix.valueFault? fields = none
  | .alter f => ∀ key ∈ f.keys, ¬ ix.schema.Has key
  | _ => True

/-- The operations that are allowed are those that are not refused. -/
theorem refusal?_eq_none_iff (ix : Index) (op : Operation) :
  op.refusal? ix = none ↔ op.Allowed ix
  := by
  cases op with
  | add id fields => rw [refusal?, Option.map_eq_none_iff, Allowed]
  | alter f =>
    simp only [refusal?, Option.map_eq_none_iff, Schema.clash?, List.find?_eq_none,
      Schema.isTaken_iff, Allowed]
  | _ => exact iff_of_true rfl trivial

end Operation

/-! ### Steps -/

/-- What an operation can come to: its answer, and the index and the channel after it. -/
inductive Index.Step (ix : Index) (op : Operation) (channel : Recorder) :
    Except SearchError Answer → Index → Recorder → Prop where
  | refused {e : SearchError} (refusal : op.refusal? ix = some e) :
    ix.Step op channel (.error e) ix channel
  | failed {e : ChannelError} (refusal : op.refusal? ix = none)
    (answer : channel.nextAnswer = .error e) :
    ix.Step op channel (.error (.channel e)) ix (channel.record (op.call ix))
  | answered {r : Reply} (refusal : op.refusal? ix = none)
    (answer : channel.nextAnswer = .ok r) :
    ix.Step op channel (op.read ix r) (ix.after op) (channel.record (op.call ix))

namespace Index

/-- Only an answered command changes the index. -/
theorem index_perform (ix : Index) (op : Operation) (s : Session) :
  (ix.perform op s).2.1
    = if (op.refusal? ix).isNone ∧ s.channel.nextAnswer.isOk then ix.after op else ix
  := by
  rw [perform]
  cases op.refusal? ix with
  | some e => rfl
  | none =>
    rw [Session.send]
    cases s.channel.nextAnswer with
    | error e => rfl
    | ok r =>
      simp only
      cases op.read ix r with
      | error e => rfl
      | ok a => rfl

/-- An operation is a step. -/
theorem step_perform (ix : Index) (op : Operation) (s : Session) :
  ix.Step op s.channel (ix.perform op s).1 (ix.perform op s).2.1 (ix.perform op s).2.2.channel
  := by
  rw [answer_perform, index_perform, channel_perform]
  cases hrefusal : op.refusal? ix with
  | some e => apply Step.refused hrefusal
  | none =>
    cases hanswer : s.channel.nextAnswer with
    | error e => apply Step.failed hrefusal hanswer
    | ok r => apply Step.answered hrefusal hanswer

end Index

/-! ### Traffic -/

/-- The commands that a channel is sent one after another, each with its answer. -/
def Recorder.exchanges (channel : Recorder) : List Call → List (Call × Answered)
  | [] => []
  | c :: cs => (c, channel.nextAnswer) :: (channel.record c).exchanges cs

/-- The channel after it was sent commands one after another. -/
def Recorder.recordAll (channel : Recorder) (calls : List Call) : Recorder :=
  calls.foldl .record channel

namespace Recorder

theorem exchanges_singleton (channel : Recorder) (c : Call) :
  channel.exchanges [c] = [(c, channel.nextAnswer)]
  := rfl

theorem exchanges_append (channel : Recorder) (cs cs' : List Call) :
  channel.exchanges (cs ++ cs') = channel.exchanges cs ++ (channel.recordAll cs).exchanges cs'
  := by
  induction cs generalizing channel with
  | nil => rfl
  | cons c cs ih => rw [List.cons_append, exchanges, ih]; rfl

theorem recordAll_append (channel : Recorder) (cs cs' : List Call) :
  channel.recordAll (cs ++ cs') = (channel.recordAll cs).recordAll cs'
  := List.foldl_append

end Recorder

/-- What an exchange adds to the schema clause: the arguments after `ADD` of an alteration
that was answered without error. -/
def addedArgs : Call × Answered → List Arg
  | (⟨"FT.ALTER", _ :: _ :: .text "ADD" :: args⟩, .ok _) => args
  | _ => []

/-- The field of an alteration that succeeded. -/
def addedField? : Operation × Except SearchError Answer → Option Field
  | (.alter f, .ok _) => some f
  | _ => none

/-! ### What a handle knows -/

/-- An index and a channel, before and after operations that gave answers and sent
commands: the definition stays, and the schema grows by what was accepted. -/
structure Index.Tracks (ix : Index) (channel : Recorder)
    (answered : List (Operation × Except SearchError Answer)) (sent : List Call)
    (ix' : Index) (channel' : Recorder) : Prop where
  channel_eq : channel' = channel.recordAll sent
  definition_eq : ix'.definition = ix.definition
  fields_eq : ix'.schema.fields = ix.schema.fields ++ answered.filterMap addedField?
  args_eq : ix'.schema.args = ix.schema.args ++ (channel.exchanges sent).flatMap addedArgs

namespace Index

/-- Nothing happens. -/
theorem Tracks.nil (ix : Index) (channel : Recorder) :
  ix.Tracks channel [] [] ix channel
  := by
  constructor
  · rfl
  · rfl
  · rw [List.filterMap_nil, List.append_nil]
  · rw [Recorder.exchanges, List.flatMap_nil, List.append_nil]

/-- One thing happens after another. -/
theorem Tracks.append {ix ix₁ ix₂ : Index} {channel channel₁ channel₂ : Recorder}
    {answered answered' : List (Operation × Except SearchError Answer)} {sent sent' : List Call}
    (h : ix.Tracks channel answered sent ix₁ channel₁)
    (h' : ix₁.Tracks channel₁ answered' sent' ix₂ channel₂) :
  ix.Tracks channel (answered ++ answered') (sent ++ sent') ix₂ channel₂
  := by
  constructor
  · rw [h'.channel_eq, h.channel_eq, Recorder.recordAll_append]
  · rw [h'.definition_eq, h.definition_eq]
  · rw [h'.fields_eq, h.fields_eq, List.filterMap_append, List.append_assoc]
  · rw [h'.args_eq, h.args_eq, h.channel_eq, Recorder.exchanges_append, List.flatMap_append,
      List.append_assoc]

end Index

namespace Operation

/-- Only an alteration adds to the schema clause. -/
theorem addedArgs_call {ix : Index} {op : Operation} (h : ∀ f, op ≠ .alter f) (a : Answered) :
  addedArgs (op.call ix, a) = []
  := by
  cases op with
  | alter f => exact absurd rfl (h f)
  | add id fields =>
    rw [call]
    cases ix.definition.storage with
    | hash => rfl
    | json => rfl
  | get id =>
    rw [call]
    cases ix.definition.storage with
    | hash => rfl
    | json => rfl
  | _ => rfl

theorem addedField?_error (op : Operation) (e : SearchError) :
  addedField? (op, .error e) = none
  := by
  cases op <;> rfl

theorem addedField?_of_ne {op : Operation} (h : ∀ f, op ≠ .alter f)
    (answer : Except SearchError Answer) :
  addedField? (op, answer) = none
  := by
  cases op with
  | alter f => exact absurd rfl (h f)
  | _ => rfl

end Operation

namespace Index

theorem after_of_ne {ix : Index} {op : Operation} (h : ∀ f, op ≠ .alter f) :
  ix.after op = ix
  := by
  cases op with
  | alter f => exact absurd rfl (h f)
  | _ => rfl

/-- An alteration that is not refused puts its field at the end. -/
theorem after_alter {ix : Index} {f : Field} (h : (Operation.alter f).refusal? ix = none) :
  ∃ schema, ix.schema.add f = .ok schema ∧ schema.fields = ix.schema.fields ++ [f] ∧
    ix.after (.alter f) = { ix with schema }
  := by
  rw [Operation.refusal?, Option.map_eq_none_iff] at h
  obtain ⟨schema, hadd, hfields⟩ := Schema.add_of_no_clash h
  use schema, hadd, hfields
  rw [after, hadd]

/-- An index is kept if nothing was accepted. -/
theorem Tracks.of_kept {ix : Index} {channel : Recorder} {op : Operation}
    {answer : Except SearchError Answer} {sent : List Call}
    (hfield : addedField? (op, answer) = none)
    (hargs : (channel.exchanges sent).flatMap addedArgs = []) :
  ix.Tracks channel [(op, answer)] sent ix (channel.recordAll sent)
  := by
  constructor
  · rfl
  · rfl
  · rw [List.filterMap_cons_none hfield, List.filterMap_nil, List.append_nil]
  · rw [hargs, List.append_nil]

/-- What each step sends, and what it adds. -/
theorem Step.tracks {ix ix' : Index} {op : Operation} {channel channel' : Recorder}
    {answer : Except SearchError Answer} (h : ix.Step op channel answer ix' channel') :
  ∃ sent, sent.length ≤ 1 ∧ ix.Tracks channel [(op, answer)] sent ix' channel'
  := by
  cases h with
  | @refused e refusal =>
    use [], Nat.zero_le 1
    apply Tracks.of_kept (Operation.addedField?_error op _)
    rw [Recorder.exchanges, List.flatMap_nil]
  | @failed e refusal hanswer =>
    use [op.call ix], Nat.le_refl 1
    apply Tracks.of_kept (Operation.addedField?_error op _)
    rw [Recorder.exchanges_singleton, List.flatMap_singleton, hanswer, addedArgs]
    simp
  | @answered r refusal hanswer =>
    use [op.call ix], Nat.le_refl 1
    by_cases halter : ∃ f, op = .alter f
    · obtain ⟨f, rfl⟩ := halter
      obtain ⟨schema, -, hfields, hafter⟩ := after_alter refusal
      rw [hafter]
      constructor
      · rfl
      · rfl
      · exact hfields
      · rw [Recorder.exchanges_singleton, List.flatMap_singleton, hanswer, Schema.args,
          Schema.args, hfields, List.flatMap_append, List.flatMap_singleton]
        rfl
    · have hne : ∀ f, op ≠ .alter f := not_exists.mp halter
      rw [after_of_ne hne]
      apply Tracks.of_kept (Operation.addedField?_of_ne hne _)
      rw [Recorder.exchanges_singleton, List.flatMap_singleton, Operation.addedArgs_call hne]

theorem length_answers_performAll (ix : Index) (s : Session) (ops : List Operation) :
  (ix.performAll s ops).1.length = ops.length
  := by
  induction ops generalizing ix s with
  | nil => rfl
  | cons op ops ih =>
    rw [performAll, List.length_cons, List.length_cons, ih]

/-- A handle knows the same of a run as the channel. -/
theorem tracks_performAll (ix : Index) (s : Session) (ops : List Operation) :
  ∃ sent, ix.Tracks s.channel (ops.zip (ix.performAll s ops).1) sent (ix.performAll s ops).2.1
    (ix.performAll s ops).2.2.channel
  := by
  induction ops generalizing ix s with
  | nil => exact ⟨[], .nil ix s.channel⟩
  | cons op ops ih =>
    obtain ⟨sent, -, hstep⟩ := (ix.step_perform op s).tracks
    obtain ⟨sent', hrun⟩ := ih (ix.perform op s).2.1 (ix.perform op s).2.2
    exact ⟨sent ++ sent', hstep.append hrun⟩

/-- Every command of a run is that of an operation that was not refused. -/
theorem exists_of_sent (ix : Index) (s : Session) (ops : List Operation) :
  ∃ sent, (ix.performAll s ops).2.2.channel = s.channel.recordAll sent ∧
    ∀ call ∈ sent, ∃ before op after, ops = before ++ op :: after ∧
      op.refusal? (ix.performAll s before).2.1 = none ∧
      call = op.call (ix.performAll s before).2.1
  := by
  induction ops generalizing ix s with
  | nil => exact ⟨[], rfl, List.forall_mem_nil _⟩
  | cons op ops ih =>
    obtain ⟨sent, hchannel, hsent⟩ := ih (ix.perform op s).2.1 (ix.perform op s).2.2
    -- What comes before an operation in the rest of the run comes after `op` in the whole.
    have hlater : ∀ call ∈ sent, ∃ before op' after, op :: ops = before ++ op' :: after ∧
      op'.refusal? (ix.performAll s before).2.1 = none ∧
      call = op'.call (ix.performAll s before).2.1
      := by
      intro call hcall
      obtain ⟨before, op', after, hops, hrefusal, hcall⟩ := hsent call hcall
      exact ⟨op :: before, op', after, by rw [hops, List.cons_append], hrefusal, hcall⟩
    rw [channel_perform] at hchannel
    cases hrefusal : op.refusal? ix with
    | some e =>
      rw [hrefusal] at hchannel
      exact ⟨sent, hchannel, hlater⟩
    | none =>
      rw [hrefusal] at hchannel
      refine ⟨op.call ix :: sent, hchannel, ?_⟩
      intro call hcall
      rcases List.mem_cons.mp hcall with rfl | hcall
      · exact ⟨[], op, ops, rfl, hrefusal, rfl⟩
      · exact hlater call hcall

/-! ### Handles -/

/-- The ways to come by a handle on an index, and the session after each. -/
inductive Opened (d : IndexDefinition) (schema : Schema) : Index → Session → Prop where
  | bound (s : Session) : Opened d schema ⟨d, schema⟩ s
  | created {ix : Index} {s s' : Session} (h : create d schema s = (.ok ix, s')) :
    Opened d schema ix s'

/-- A handle begins with the definition and the schema that it was opened with. -/
theorem Opened.eq {d : IndexDefinition} {schema : Schema} {ix : Index} {s : Session}
    (h : Opened d schema ix s) :
  ix = ⟨d, schema⟩
  := by
  cases h with
  | bound s => rfl
  | created h =>
    rw [create] at h
    split at h
    · cases h
    · split at h
      · cases h
        rfl
      · cases h

/-- The restraint of an operation: it sends its command and no other one if it is allowed.
If not, such as an alteration that clashes, it sends none and is an error that leaves the
index alone.  If a command fails its error is the answer and the index stays. -/
structure Restrained (ix : Index) (op : Operation) (channel : Recorder)
    (answer : Except SearchError Answer) (ix' : Index) (channel' : Recorder) : Prop where
  sent : ∃ sent, sent.length ≤ 1 ∧ channel' = channel.recordAll sent
  called : op.Allowed ix → channel' = channel.record (op.call ix)
  refused : ¬ op.Allowed ix → (∃ e, answer = .error e) ∧ ix' = ix ∧ channel' = channel
  clash : ∀ f, op = .alter f → (∃ key ∈ f.keys, ix.schema.Has key) → channel' = channel
  failed : ∀ e, channel'.calls ≠ channel.calls → channel.nextAnswer = .error e →
    answer = .error (.channel e) ∧ ix' = ix

theorem Step.restrained {ix ix' : Index} {op : Operation} {channel channel' : Recorder}
    {answer : Except SearchError Answer} (h : ix.Step op channel answer ix' channel') :
  ix.Restrained op channel answer ix' channel'
  := by
  obtain ⟨sent, hlength, htracks⟩ := h.tracks
  have hrefused (hop : ¬ op.Allowed ix) :
    (∃ e, answer = .error e) ∧ ix' = ix ∧ channel' = channel
    := by
    rw [← op.refusal?_eq_none_iff] at hop
    cases h with
    | @refused e refusal => exact ⟨⟨e, rfl⟩, rfl, rfl⟩
    | failed refusal => exact absurd refusal hop
    | answered refusal => exact absurd refusal hop
  constructor
  · use sent, hlength, htracks.channel_eq
  · intro hop
    rw [← op.refusal?_eq_none_iff] at hop
    cases h with
    | refused refusal =>
      rw [hop] at refusal
      cases refusal
    | failed refusal => rfl
    | answered refusal => rfl
  · exact hrefused
  · rintro f rfl ⟨key, hmem, htaken⟩
    obtain ⟨-, -, hchannel⟩ := hrefused fun hfree => hfree key hmem htaken
    exact hchannel
  · intro e hcalls hfails
    cases h with
    | refused refusal => exact absurd rfl hcalls
    | failed refusal hanswer =>
      rw [hanswer] at hfails
      obtain rfl := Except.error.inj hfails
      exact ⟨rfl, rfl⟩
    | answered refusal hanswer =>
      rw [hanswer] at hfails
      cases hfails

/-- The index after a run of operations is the one that the run tells of, and whatever is
done to it next is done with restraint. -/
structure Follows (d : IndexDefinition) (schema : Schema) (ix : Index) (s : Session)
    (ops : List Operation) : Prop where
  answers : (ix.performAll s ops).1.length = ops.length
  tracks : ∃ sent, Tracks ⟨d, schema⟩ s.channel (ops.zip (ix.performAll s ops).1) sent
    (ix.performAll s ops).2.1 (ix.performAll s ops).2.2.channel
  restrained : ∀ op,
    let (_, ix', s') := ix.performAll s ops
    ix'.Restrained op s'.channel (ix'.perform op s').1 (ix'.perform op s').2.1
      (ix'.perform op s').2.2.channel

/-- A handle follows what the server has accepted, however it was opened and whatever the
channel answers. -/
theorem performAll_follows {d : IndexDefinition} {schema : Schema} {ix : Index} {s : Session}
    (h : Opened d schema ix s) (ops : List Operation) :
  Follows d schema ix s ops
  := by
  rw [h.eq]
  constructor
  · apply length_answers_performAll
  · apply tracks_performAll
  · intro op
    apply (step_perform _ op _).restrained

/-- An index that was created gets a field, is refused another one of that name, and loses
its connection. -/
theorem created_follows :
  let title : Field := ⟨"title", none, .text {}, by decide, rfl⟩
  let price : Field := ⟨"price", none, .numeric {}, by decide, rfl⟩
  let d : IndexDefinition := { name := "idx" }
  let schema : Schema := ⟨[title], List.pairwise_singleton _ _⟩
  let accepted : Answered := .ok (.status "OK")
  let lost : Answered := .error (.connection "lost")
  let start : Session := { channel := { answers := [accepted, accepted, lost] } }
  let s : Session := (create d schema start).2
  Opened d schema ⟨d, schema⟩ s ∧
    Follows d schema ⟨d, schema⟩ s [.alter price, .alter price, .delete "1"]
  := by
  intro title price d schema accepted lost start s
  have hcreated : create d schema start = (.ok ⟨d, schema⟩, s) := rfl
  use .created hcreated
  apply performAll_follows (.created hcreated)

end Index

end FullText
