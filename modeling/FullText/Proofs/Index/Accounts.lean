import FullText.Proofs.Index.Documents
import FullText.Proofs.Index.Serving

/-!
# What the metrics account for

The metrics of a run are compared with what its channel saw, which is each command that was sent
and the answer to it, and with what the tasks of the run came to.  A run may create several
indexes and go on with any of them; one that stays with an index is a run of this kind
(`Index.runAll_tasks`).

Each task records by itself what there is to account for (`Task.accounted_run`).  The accounts of
tasks add up, and so those of a whole run are in order (`Session.accounts_runAll`): commands are
counted by their answers, pages of results by the replies that could be read, input that is
refused by what it was for, and operations on an index as a whole by the commands that were sent
for them.
-/

namespace FullText

/-! ### Tasks -/

/-- What is asked of a client: an index to create, or an operation on an index.  The handle on the
index is given in whatever state the tasks before have left it. -/
inductive Task where
  | create (d : IndexDefinition) (schema : Schema)
  | perform (ix : Index) (op : Operation)

/-- What a task comes to: a handle on a new index, the answer of an operation, or an error. -/
abbrev Outcome := Except SearchError (Index ⊕ Answer)

/-- What a task comes to, and the session after it. -/
def Task.run : Task → Session → Outcome × Session
  | .create d schema, s => ((Index.create d schema s).1.map .inl, (Index.create d schema s).2)
  | .perform ix op, s => ((ix.perform op s).1.map .inr, (ix.perform op s).2.2)

/-- What tasks come to one after another, and the session after the last. -/
def Session.runAll (s : Session) : List Task → List Outcome × Session
  | [] => ([], s)
  | task :: tasks =>
    let (outcome, s) := task.run s
    let (outcomes, s) := s.runAll tasks
    (outcome :: outcomes, s)

/-! ### What there is to account for -/

/-- The number of documents in the answer to a search, if it can be read with the options that the
search asks for. -/
def pageSize? : Call × Answered → Option Nat
  | (c, .ok r) =>
    if c.command = "FT.SEARCH" then
      c.options?.bind fun view =>
        (SearchResults.ofReply view.others r).toOption.map SearchResults.size
    else none
  | (_, .error _) => none

/-- The number of documents that a task gives, if it gives results. -/
def Outcome.size? : Outcome → Option Nat
  | .ok (.inr (.results r)) => some r.size
  | _ => none

/-- The name of the index for which a task has input that is refused: a schema without fields, or a
document with a value that is not a number where one is called for. -/
def Task.refusedFor? : Task × Outcome → Option String
  | (.create d schema, _) => if schema.fields = [] then some d.name else none
  | (.perform ix (.add ..), .error (.validation (.nonNumericValue ..))) => some ix.definition.name
  | _ => none

/-- The commands that are sent for an index as a whole, and the names that they are counted by. -/
def Call.countedAs? (c : Call) : Option String :=
  match c.command with
  | "FT.CREATE" => some "create"
  | "FT.DROPINDEX" => some "drop"
  | "FT.ALTER" => some "alter"
  | _ => none

namespace Metric

/-- The command that is counted, and its status. -/
def command? : Metric → Option (String × String)
  | .command name status => some (name, status)
  | _ => none

/-- The size of a page of results. -/
def pageSize? : Metric → Option Nat
  | .results count => some count
  | _ => none

/-- The index for which input was refused. -/
def refusedFor? : Metric → Option String
  | .validationFailure index => some index
  | _ => none

/-- The operation that is counted, and whether it succeeded. -/
def operation? : Metric → Option (String × Bool)
  | .operation name success => some (name, success)
  | _ => none

end Metric

/-- Metrics tally with tasks and what they came to, and with commands and their answers: they
record the same things in the same order. -/
structure Tallies (done : List (Task × Outcome)) (traffic : List (Call × Answered))
    (metrics : List Metric) : Prop where
  commands : metrics.filterMap Metric.command?
    = traffic.map fun e => (e.1.command, Session.status e.2)
  pages : metrics.filterMap Metric.pageSize? = traffic.filterMap pageSize?
  sizes : metrics.filterMap Metric.pageSize? = done.filterMap fun d => d.2.size?
  refused : metrics.filterMap Metric.refusedFor? = done.filterMap Task.refusedFor?
  operations : metrics.filterMap Metric.operation?
    = traffic.filterMap fun e => e.1.countedAs?.map fun name => (name, e.2.isOk)

theorem Tallies.nil :
  Tallies [] [] []
  := ⟨rfl, rfl, rfl, rfl, rfl⟩

/-- Tallies add up. -/
theorem Tallies.append {done done' : List (Task × Outcome)}
    {traffic traffic' : List (Call × Answered)} {metrics metrics' : List Metric}
    (h : Tallies done traffic metrics) (h' : Tallies done' traffic' metrics') :
  Tallies (done ++ done') (traffic ++ traffic') (metrics ++ metrics')
  where
  commands := by rw [List.filterMap_append, List.map_append, h.commands, h'.commands]
  pages := by rw [List.filterMap_append, List.filterMap_append, h.pages, h'.pages]
  sizes := by rw [List.filterMap_append, List.filterMap_append, h.sizes, h'.sizes]
  refused := by rw [List.filterMap_append, List.filterMap_append, h.refused, h'.refused]
  operations := by rw [List.filterMap_append, List.filterMap_append, h.operations, h'.operations]

/-! ### One task -/

theorem Session.metrics_foldl_record (metrics : List Metric) (s : Session) :
  (metrics.foldl .record s).metrics = s.metrics ++ metrics
  := by
  induction metrics generalizing s with
  | nil => exact (List.append_nil _).symm
  | cons m metrics ih =>
    rw [List.foldl_cons, ih, Session.record, List.append_assoc, List.singleton_append]

/-- The metrics of a command. -/
def Session.sendMetrics (c : Call) (a : Answered) : List Metric :=
  [.command c.command (status a), .latency c.command]

/-- The metrics of an operation that was not refused. -/
def Operation.metrics (ix : Index) (op : Operation) (a : Answered) : List Metric :=
  Session.sendMetrics (op.call ix) a ++ op.answeredMetrics a.isOk ++
    match op.outcome ix a with
    | .ok answer => answerMetrics answer
    | .error _ => []

theorem Session.metrics_send (s : Session) (c : Call) :
  (s.send c).2.metrics = s.metrics ++ sendMetrics c s.channel.nextAnswer
  := by
  rw [send, sendMetrics]
  simp only [record, List.append_assoc]
  rfl

/-- What an operation records. -/
theorem Index.metrics_perform (ix : Index) (op : Operation) (s : Session) :
  (ix.perform op s).2.2.metrics
    = s.metrics ++ (op.refusal? ix).elim (op.metrics ix s.channel.nextAnswer)
        (Operation.refusalMetrics ix)
  := by
  have hsend := s.metrics_send (op.call ix)
  have hanswer : (s.send (op.call ix)).1 = s.channel.nextAnswer := rfl
  rw [perform]
  cases op.refusal? ix with
  | some e => apply Session.metrics_foldl_record
  | none =>
    rw [Option.elim_none, Operation.metrics]
    rw [← hanswer] at hsend ⊢
    generalize s.send (op.call ix) = sent at hsend ⊢
    obtain ⟨a, s'⟩ := sent
    change s'.metrics = s.metrics ++ Session.sendMetrics (op.call ix) a at hsend
    rw [List.append_assoc, ← List.append_assoc, ← hsend]
    cases a with
    | error e =>
      rw [Operation.outcome, List.append_nil]
      apply Session.metrics_foldl_record
    | ok r =>
      simp only [Operation.outcome]
      cases op.read ix r with
      | error e =>
        rw [List.append_nil]
        apply Session.metrics_foldl_record
      | ok answer =>
        simp only [Session.metrics_foldl_record, List.append_assoc]
        rfl

/-! ### Pages of results -/

/-- What the other side knows of the options of a search is enough to read the reply. -/
theorem readRows_view (o : SearchOptions) (items : List Reply) :
  readRows o.view.others items = readRows o items
  := by
  induction hn : items.length using Nat.strong_induction_on generalizing items with
  | _ n ih =>
    cases items with
    | nil => rw [readRows, readRows]
    | cons r items =>
      have hrow : readRow o.view.others r items = readRow o r items := rfl
      rw [readRows_cons, readRows_cons, hrow]
      cases hread : readRow o r items with
      | error e => rfl
      | ok row =>
        have hrest := ih row.2.length (by have := length_readRow_le hread; simp at hn; omega)
          row.2 rfl
        simp only [Except.bind, hrest]

theorem SearchResults.ofReply_view (o : SearchOptions) (r : Reply) :
  ofReply o.view.others r = ofReply o r
  := by
  unfold ofReply
  simp only [readRows_view]

theorem pageSize?_of_options {c : Call} {o : SearchOptions} (hcommand : c.command = "FT.SEARCH")
    (hoptions : c.options? = some o.view) (r : Reply) :
  pageSize? (c, .ok r) = (SearchResults.ofReply o r).toOption.map SearchResults.size
  := by
  rw [pageSize?, if_pos hcommand, hoptions, Option.bind_some, SearchResults.ofReply_view]

theorem IndexDefinition.size_stripIds (d : IndexDefinition) (r : SearchResults) :
  (d.stripIds r).size = r.size
  := by
  rw [stripIds]
  cases d.keyPrefix with
  | none => rfl
  | some p => apply List.length_map

theorem Operation.size?_readResults (ix : Index) (o : SearchOptions) (r : Reply) :
  Outcome.size? ((readResults ix o r).map .inr)
    = (SearchResults.ofReply o r).toOption.map SearchResults.size
  := by
  rw [readResults]
  cases SearchResults.ofReply o r with
  | error e => rfl
  | ok results => exact congrArg some (ix.definition.size_stripIds results)

/-- An operation that gives results has sent a search, and there are as many documents in them as
in the answer. -/
theorem Operation.pageSize?_call (ix : Index) (op : Operation) (a : Answered) :
  pageSize? (op.call ix, a) = Outcome.size? ((op.outcome ix a).map .inr)
  := by
  cases a with
  | error e => rfl
  | ok r =>
    cases op with
    | search q =>
      rw [pageSize?_of_options rfl (options?_search ix q)]
      exact (size?_readResults ix _ r).symm
    | searchText text o =>
      rw [pageSize?_of_options rfl (Call.options?_of_args rfl)]
      exact (size?_readResults ix _ r).symm
    | add id fields =>
      rw [call]
      cases ix.definition.storage with
      | hash => rfl
      | json => rfl
    | delete id =>
      rw [outcome, read]
      cases r.integer? with
      | none => rfl
      | some n => rfl
    | get id =>
      rw [outcome, read, call]
      cases ix.definition.storage <;> cases readDocument _ id r <;> rfl
    | explain q =>
      rw [outcome, read]
      cases readText .string r with
      | error e => rfl
      | ok text => rfl
    | info =>
      rw [outcome, read]
      cases readItems .infoArray r with
      | error e => rfl
      | ok items =>
        cases hpairs : readPairs (readText .string) .ok items with
        | error e => simp only [bind, Except.bind, hpairs]; rfl
        | ok pairs => simp only [bind, Except.bind, hpairs]; rfl
    | tagValues field =>
      rw [outcome, read]
      cases readItems .tagArray r with
      | error e => rfl
      | ok items =>
        cases htexts : items.mapM (readText .string) with
        | error e => simp only [bind, Except.bind, htexts]; rfl
        | ok texts => simp only [bind, Except.bind, htexts]; rfl
    | _ => rfl

/-! ### Operations -/

/-- An operation is counted as its command is. -/
theorem Operation.countedAs?_call (ix : Index) (op : Operation) :
  (op.call ix).countedAs? = op.countedAs?
  := by
  cases op with
  | add id fields =>
    rw [call]
    cases ix.definition.storage with
    | hash => rfl
    | json => rfl
  | get id =>
    rw [call]
    cases ix.definition.storage with
    | hash => rfl
    | json => rfl
  | _ => rfl

/-! ### One task -/

theorem filterMap_singleton {α β : Type} (f : α → Option β) (x : α) :
  [x].filterMap f = (f x).toList
  := by
  rw [List.filterMap_eq_flatMap_toList, List.flatMap_singleton]

/-- A task that is refused records for which index, if this is to be counted. -/
theorem Tallies.of_refusal {d : Task × Outcome} (hsize : d.2.size? = none) :
  Tallies [d] [] ((Task.refusedFor? d).map .validationFailure).toList
  := by
  constructor
  · cases Task.refusedFor? d <;> rfl
  · cases Task.refusedFor? d <;> rfl
  · rw [filterMap_singleton, hsize]
    cases Task.refusedFor? d <;> rfl
  · rw [filterMap_singleton _ d]
    cases Task.refusedFor? d <;> rfl
  · cases Task.refusedFor? d <;> rfl

/-- A task that sends a command records the command and its answer, under which name it is counted
and how many documents it has found. -/
theorem Tallies.of_call {d : Task × Outcome} {c : Call} {a : Answered}
    (hsize : pageSize? (c, a) = d.2.size?) (hrefused : Task.refusedFor? d = none) :
  Tallies [d] [(c, a)] (Session.sendMetrics c a ++
    (c.countedAs?.map fun name => Metric.operation name a.isOk).toList ++
    (d.2.size?.map .results).toList)
  := by
  constructor
  · cases c.countedAs? <;> cases d.2.size? <;> rfl
  · rw [filterMap_singleton, hsize]
    cases c.countedAs? <;> cases d.2.size? <;> rfl
  · rw [filterMap_singleton]
    cases c.countedAs? <;> cases d.2.size? <;> rfl
  · rw [filterMap_singleton, hrefused]
    cases c.countedAs? <;> cases d.2.size? <;> rfl
  · rw [filterMap_singleton]
    cases c.countedAs? <;> cases d.2.size? <;> rfl

theorem Operation.answerMetrics_eq (answer : Answer) :
  answerMetrics answer = ((Outcome.size? (.ok (.inr answer))).map .results).toList
  := by
  cases answer <;> rfl

/-- What is recorded of an operation is told by its command and the number of documents. -/
theorem Operation.metrics_eq (ix : Index) (op : Operation) (a : Answered) :
  op.metrics ix a = Session.sendMetrics (op.call ix) a ++
    ((op.call ix).countedAs?.map fun name => Metric.operation name a.isOk).toList ++
    ((Outcome.size? ((op.outcome ix a).map .inr)).map .results).toList
  := by
  rw [metrics, answeredMetrics, countedAs?_call]
  cases op.outcome ix a with
  | error e => rfl
  | ok answer =>
    simp only [answerMetrics_eq]
    rfl

/-- The input of an operation that sent its command was not refused. -/
theorem Operation.refusedFor?_outcome (ix : Index) (op : Operation) (a : Answered) :
  Task.refusedFor? (.perform ix op, (op.outcome ix a).map .inr) = none
  := by
  cases op with
  | add id fields =>
    cases a with
    | error e => rfl
    | ok r => rfl
  | _ => rfl

theorem Operation.tallies_refused {ix : Index} {op : Operation} {e : SearchError}
    (h : op.refusal? ix = some e) :
  Tallies [(.perform ix op, .error e)] [] (refusalMetrics ix e)
  := by
  cases op with
  | add id fields =>
    obtain ⟨fault, hfault, rfl⟩ := Option.map_eq_some_iff.mp h
    obtain ⟨_, name, value, _, f, -, -, -, rfl⟩ := Index.valueFault?_eq_some hfault
    exact .of_refusal rfl
  | alter f =>
    obtain ⟨clash, -, rfl⟩ := Option.map_eq_some_iff.mp h
    exact .of_refusal rfl
  | _ => cases h

theorem Operation.tallies_sent (ix : Index) (op : Operation) (a : Answered) :
  Tallies [(.perform ix op, (op.outcome ix a).map .inr)] [(op.call ix, a)] (op.metrics ix a)
  := by
  rw [metrics_eq]
  exact .of_call (op.pageSize?_call ix a) (op.refusedFor?_outcome ix a)

theorem Task.refusedFor?_create {schema : Schema} (h : schema.isEmpty = false)
    (d : IndexDefinition) (outcome : Outcome) :
  refusedFor? (.create d schema, outcome) = none
  := by
  rw [Schema.isEmpty, List.isEmpty_eq_false_iff] at h
  apply if_neg h

/-- The outcome of a creation that sends its command. -/
def Index.creation (d : IndexDefinition) (schema : Schema) : Answered → Except SearchError Index
  | .ok _ => .ok ⟨d, schema⟩
  | .error e => .error (createError d.name e)

theorem Index.create_of_fields {schema : Schema} (h : schema.isEmpty = false)
    (d : IndexDefinition) (s : Session) :
  create d schema s = (creation d schema s.channel.nextAnswer,
    (s.send ⟨"FT.CREATE", d.createArgs schema⟩).2.record
      (.operation "create" s.channel.nextAnswer.isOk))
  := by
  rw [create, if_neg (Bool.eq_false_iff.mp h), Session.send]
  cases s.channel.nextAnswer with
  | error e => rfl
  | ok r => rfl

theorem Index.tallies_created {schema : Schema} (h : schema.isEmpty = false)
    (d : IndexDefinition) (a : Answered) :
  Tallies [(.create d schema, (creation d schema a).map .inl)]
    [(⟨"FT.CREATE", d.createArgs schema⟩, a)]
    (Session.sendMetrics ⟨"FT.CREATE", d.createArgs schema⟩ a ++ [.operation "create" a.isOk])
  := by
  have hrefused := Task.refusedFor?_create h d ((creation d schema a).map .inl)
  cases a with
  | error e => exact .of_call rfl hrefused
  | ok r => exact .of_call rfl hrefused

/-- A session before and after tasks that came to something and sent commands: their answers are
used up, and the metrics are those there were and others that tally. -/
structure Session.Accounted (s : Session) (done : List (Task × Outcome)) (sent : List Call)
    (s' : Session) : Prop where
  channel_eq : s'.channel = s.channel.recordAll sent
  metrics_eq : ∃ metrics, s'.metrics = s.metrics ++ metrics ∧
    Tallies done (s.channel.exchanges sent) metrics

/-- Each task is accounted for. -/
theorem Task.accounted_run (task : Task) (s : Session) :
  ∃ sent, sent.length ≤ 1 ∧ s.Accounted [(task, (task.run s).1)] sent (task.run s).2
  := by
  cases task with
  | create d schema =>
    rw [run]
    cases hempty : schema.isEmpty with
    | true =>
      have hfields : schema.fields = [] := List.isEmpty_iff.mp hempty
      have htallies := Tallies.of_refusal (d := (Task.create d schema,
        .error (.validation .emptySchema))) rfl
      rw [refusedFor?, if_pos hfields] at htallies
      rw [Index.create, if_pos hempty]
      exact ⟨[], Nat.zero_le 1, rfl, _, rfl, htallies⟩
    | false =>
      rw [Index.create_of_fields hempty]
      refine ⟨[⟨"FT.CREATE", d.createArgs schema⟩], Nat.le_refl 1, rfl, _, ?_,
        Index.tallies_created hempty d s.channel.nextAnswer⟩
      rw [Session.record, s.metrics_send, List.append_assoc]
  | perform ix op =>
    have hmetrics := ix.metrics_perform op s
    rw [run, ix.answer_perform]
    cases hrefusal : op.refusal? ix with
    | some e =>
      rw [hrefusal] at hmetrics
      refine ⟨[], Nat.zero_le 1, ?_, _, hmetrics, Operation.tallies_refused hrefusal⟩
      rw [ix.channel_perform, hrefusal]
      rfl
    | none =>
      rw [hrefusal] at hmetrics
      refine ⟨[op.call ix], Nat.le_refl 1, ?_, _, hmetrics, ?_⟩
      · rw [ix.channel_perform, hrefusal]
        rfl
      · rw [Recorder.exchanges_singleton]
        apply op.tallies_sent ix

/-! ### Runs -/

namespace Session

theorem Accounted.nil (s : Session) :
  s.Accounted [] [] s
  := ⟨rfl, [], (List.append_nil _).symm, .nil⟩

/-- What is done one after another is accounted for together. -/
theorem Accounted.append {s s₁ s₂ : Session} {done done' : List (Task × Outcome)}
    {sent sent' : List Call} (h : s.Accounted done sent s₁) (h' : s₁.Accounted done' sent' s₂) :
  s.Accounted (done ++ done') (sent ++ sent') s₂
  := by
  obtain ⟨metrics, hmetrics, htallies⟩ := h.metrics_eq
  obtain ⟨metrics', hmetrics', htallies'⟩ := h'.metrics_eq
  constructor
  · rw [h'.channel_eq, h.channel_eq, Recorder.recordAll_append]
  · use metrics ++ metrics'
    constructor
    · rw [hmetrics', hmetrics, List.append_assoc]
    · rw [Recorder.exchanges_append, ← h.channel_eq]
      exact htallies.append htallies'

theorem length_runAll (s : Session) (tasks : List Task) :
  (s.runAll tasks).1.length = tasks.length
  := by
  induction tasks generalizing s with
  | nil => rfl
  | cons task tasks ih => rw [runAll, List.length_cons, List.length_cons, ih]

theorem accounted_runAll (s : Session) (tasks : List Task) :
  ∃ sent, s.Accounted (tasks.zip (s.runAll tasks).1) sent (s.runAll tasks).2
  := by
  induction tasks generalizing s with
  | nil => exact ⟨[], .nil s⟩
  | cons task tasks ih =>
    obtain ⟨sent, -, htask⟩ := task.accounted_run s
    obtain ⟨sent', hrun⟩ := ih (task.run s).2
    exact ⟨sent ++ sent', htask.append hrun⟩

end Session

/-- The operations on one index as tasks, each with the handle in the state that it has by then. -/
def Index.tasks (ix : Index) (s : Session) : List Operation → List Task
  | [] => []
  | op :: ops => .perform ix op :: tasks (ix.perform op s).2.1 (ix.perform op s).2.2 ops

/-- A run of operations on one index is a run of tasks. -/
theorem Index.runAll_tasks (ix : Index) (s : Session) (ops : List Operation) :
  s.runAll (ix.tasks s ops)
    = ((ix.performAll s ops).1.map fun answer => answer.map .inr, (ix.performAll s ops).2.2)
  := by
  induction ops generalizing ix s with
  | nil => rfl
  | cons op ops ih =>
    simp only [tasks, Session.runAll, Task.run, ih]
    rfl

/-! ### Accounts -/

/-- The operations on an index as a whole, each with its command. -/
def lifecycle : List (String × String) :=
  [("create", "FT.CREATE"), ("drop", "FT.DROPINDEX"), ("alter", "FT.ALTER")]

/-- The accounts of metrics are in order: each kind of metrics agrees with what was done and what
it came to, and with the commands that were sent and their answers. -/
structure Accounts (done : List (Task × Outcome)) (traffic : List (Call × Answered))
    (metrics : List Metric) : Prop where
  /-- Commands are counted by whether the answer was a reply. -/
  succeeded : ∀ name, metrics.count (.command name "success")
    = traffic.countP fun e => e.1.command = name ∧ e.2.isOk
  failed : ∀ name, metrics.count (.command name "error")
    = traffic.countP fun e => e.1.command = name ∧ ¬ e.2.isOk
  /-- There is a page for each search with an answer that can be read, in their order. -/
  read : metrics.filterMap Metric.pageSize? = traffic.filterMap pageSize?
  /-- The size of a page is the number of documents that are given. -/
  given : metrics.filterMap Metric.pageSize? = done.filterMap fun d => d.2.size?
  refused : ∀ index, metrics.count (.validationFailure index)
    = done.countP fun d => Task.refusedFor? d = some index
  /-- An operation on an index as a whole is counted by the answer to its command. -/
  operations : ∀ name command, (name, command) ∈ lifecycle → ∀ success,
    metrics.count (.operation name success)
      = traffic.countP fun e => e.1.command = command ∧ e.2.isOk = success

theorem Call.countedAs?_eq_some_iff {name command : String} (h : (name, command) ∈ lifecycle)
    (c : Call) :
  c.countedAs? = some name ↔ c.command = command
  := by
  simp only [lifecycle, List.mem_cons, Prod.mk.injEq, List.not_mem_nil, or_false] at h
  rw [countedAs?]
  rcases h with ⟨rfl, rfl⟩ | ⟨rfl, rfl⟩ | ⟨rfl, rfl⟩ <;> split <;> simp_all

theorem Session.status_eq_success_iff (a : Answered) :
  status a = "success" ↔ a.isOk
  := by
  have hne : "error" ≠ "success" := by decide
  cases a with
  | ok r => exact iff_of_true rfl rfl
  | error e => exact iff_of_false hne Bool.false_ne_true

theorem Session.status_eq_error_iff (a : Answered) :
  status a = "error" ↔ ¬ a.isOk
  := by
  have hne : "success" ≠ "error" := by decide
  cases a with
  | ok r => exact iff_of_false hne (not_not_intro rfl)
  | error e => exact iff_of_true rfl Bool.false_ne_true

/-- What is picked out of the metrics in one way is counted by what it is picked out as. -/
theorem count_eq_of_filterMap {α β : Type} [DecidableEq β] {pick : Metric → Option β}
    {m : Metric} {b : β} (hpick : ∀ m', pick m' = some b ↔ m' = m) {metrics : List Metric}
    {entries : List α} {entry : α → Option β}
    (h : metrics.filterMap pick = entries.filterMap entry) {p : α → Bool}
    (hentry : ∀ e, entry e = some b ↔ p e) :
  metrics.count m = entries.countP p
  := by
  calc metrics.count m
    _ = (metrics.filterMap pick).count b := by
      rw [List.count_filterMap, List.count_eq_countP]
      apply List.countP_congr
      intro m' _
      rw [beq_iff_eq, beq_iff_eq, hpick]
    _ = (entries.filterMap entry).count b := by rw [h]
    _ = entries.countP p := by
      rw [List.count_filterMap]
      apply List.countP_congr
      intro e _
      rw [beq_iff_eq, hentry]

/-- The accounts of metrics that tally are in order. -/
theorem Tallies.accounts {done : List (Task × Outcome)} {traffic : List (Call × Answered)}
    {metrics : List Metric} (h : Tallies done traffic metrics) :
  Accounts done traffic metrics
  := by
  have hcommand (name status : String) (m : Metric) :
    m.command? = some (name, status) ↔ m = .command name status
    := by
    cases m <;> simp [Metric.command?]
  have hrefused (index : String) (m : Metric) :
    m.refusedFor? = some index ↔ m = .validationFailure index
    := by
    cases m <;> simp [Metric.refusedFor?]
  have hoperation (name : String) (success : Bool) (m : Metric) :
    m.operation? = some (name, success) ↔ m = .operation name success
    := by
    cases m <;> simp [Metric.operation?]
  have hcommands := h.commands
  rw [← List.filterMap_eq_map'] at hcommands
  constructor
  · intro name
    apply count_eq_of_filterMap (hcommand name "success") hcommands
    intro e
    simp [Session.status_eq_success_iff]
  · intro name
    apply count_eq_of_filterMap (hcommand name "error") hcommands
    intro e
    simp [Session.status_eq_error_iff]
  · exact h.pages
  · exact h.sizes
  · intro index
    apply count_eq_of_filterMap (hrefused index) h.refused
    intro d
    rw [decide_eq_true_iff]
  · intro name command hmem success
    apply count_eq_of_filterMap (hoperation name success) h.operations
    intro e
    rw [decide_eq_true_iff, ← Call.countedAs?_eq_some_iff hmem]
    simp

/-- A field with a name that is taken leaves no trace. -/
theorem Index.session_perform_alter {ix : Index} {f : Field}
    (h : ∃ key ∈ f.keys, ix.schema.Has key) (s : Session) :
  (ix.perform (.alter f) s).2.2 = s
  := by
  obtain ⟨key, hmem, htaken⟩ := h
  have hclash : (ix.schema.clash? f).isSome
    := by
    rw [Schema.clash?, List.find?_isSome]
    use key, hmem, (ix.schema.isTaken_iff key).mpr htaken
  obtain ⟨clash, hclash⟩ := Option.isSome_iff_exists.mp hclash
  rw [perform, Operation.refusal?, hclash]
  rfl

/-- The metrics of a run are in order from the beginning: its channel sent some commands and gave
their answers, and the metrics agree with these and with what the tasks came to.  A field with a
name that is taken and a schema without fields are refused, and not counted as operations. -/
theorem Session.accounts_runAll (channel : Recorder) (tasks : List Task) :
  let (outcomes, s) := Session.runAll { channel } tasks
  outcomes.length = tasks.length ∧
    (∃ sent, s.channel = channel.recordAll sent ∧
      Accounts (tasks.zip outcomes) (channel.exchanges sent) s.metrics) ∧
    (∀ ix : Index, ∀ f : Field, (∃ key ∈ f.keys, ix.schema.Has key) →
      ((Task.perform ix (.alter f)).run s).2 = s) ∧
    ∀ d : IndexDefinition, ∀ schema : Schema, schema.fields = [] →
      ((Task.create d schema).run s).2 = s.record (.validationFailure d.name)
  := by
  constructor
  · apply length_runAll
  constructor
  · obtain ⟨sent, hchannel, metrics, hmetrics, htallies⟩ := accounted_runAll { channel } tasks
    use sent, hchannel
    rw [hmetrics]
    exact htallies.accounts
  constructor
  · intro ix f htaken
    apply Index.session_perform_alter htaken
  · intro d schema hfields
    have hempty : schema.isEmpty := List.isEmpty_iff.mpr hfields
    rw [Task.run, Index.create, if_pos hempty]

/-- After the creation of an index and an attempt to remove it, a second field of the same name and
a schema without fields are refused. -/
theorem Session.accounts_refusals :
  let title : Field := ⟨"title", none, .text {}, by decide, rfl⟩
  let d : IndexDefinition := { name := "idx" }
  let schema : Schema := ⟨[title], List.pairwise_singleton _ _⟩
  let channel : Recorder := { answers := [.ok (.status "OK"), .error (.connection "lost")] }
  let tasks : List Task :=
    [.create d .empty, .create d schema, .perform ⟨d, schema⟩ (.drop false)]
  let s : Session := (Session.runAll { channel } tasks).2
  s.metrics.count (.operation "create" true) = 1 ∧ s.metrics.count (.operation "drop" false) = 1 ∧
    ((Task.perform ⟨d, schema⟩ (.alter title)).run s).2 = s ∧
    ((Task.create d .empty).run s).2 = s.record (.validationFailure "idx")
  := by
  intro title d schema channel tasks s
  obtain ⟨-, -, halter, hcreate⟩ := accounts_runAll channel tasks
  constructor
  · decide
  constructor
  · decide
  constructor
  · exact halter ⟨d, schema⟩ title ⟨"title", List.mem_cons_self, title, List.mem_cons_self,
      List.mem_cons_self⟩
  · exact hcreate d .empty rfl

end FullText
