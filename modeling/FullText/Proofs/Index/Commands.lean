import FullText.Index.Operation
import FullText.Proofs.Query.Decoding

/-!
# The commands of operations

An operation that is not refused sends its command, and what it gives is decided by the
answer to the command (`Index.calls_perform` and `Index.answer_perform`).  The metrics
that it records are of no account for either.

The commands that carry a query have its options after the query string.
`Call.options?` looks them up there, knowing only how each command is laid out, and so
tells what the other side of the channel is asked for.
-/

namespace FullText

/-! ### One operation -/

/-- The session with an answer put in front of those to come. -/
def Session.answering (s : Session) (a : Answered) : Session :=
  { s with channel := { s.channel with answers := a :: s.channel.answers } }

/-- What an operation gives, from the answer to its command. -/
def Operation.outcome (ix : Index) (op : Operation) : Answered → Except SearchError Answer
  | .ok r => op.read ix r
  | .error e => .error (.channel e)

/-- Metrics are no commands. -/
theorem Session.channel_foldl_record (metrics : List Metric) (s : Session) :
  (metrics.foldl .record s).channel = s.channel
  := by
  induction metrics generalizing s with
  | nil => rfl
  | cons m metrics ih => apply ih

namespace Index

/-- A refused operation leaves the channel alone, and any other one sends its command. -/
theorem channel_perform (ix : Index) (op : Operation) (s : Session) :
  (ix.perform op s).2.2.channel
    = if (op.refusal? ix).isSome then s.channel else s.channel.record (op.call ix)
  := by
  rw [perform]
  cases op.refusal? ix with
  | some e => apply Session.channel_foldl_record
  | none =>
    rw [Session.send]
    cases s.channel.nextAnswer with
    | error e => apply Session.channel_foldl_record
    | ok r =>
      simp only
      cases op.read ix r with
      | error e => apply Session.channel_foldl_record
      | ok a =>
        simp only [Session.channel_foldl_record]
        rfl

/-- The commands of a session grow by the one of the operation, unless it is refused. -/
theorem calls_perform (ix : Index) (op : Operation) (s : Session) :
  (ix.perform op s).2.2.channel.calls
    = s.channel.calls ++ if (op.refusal? ix).isSome then [] else [op.call ix]
  := by
  rw [channel_perform]
  split
  · rw [List.append_nil]
  · rfl

/-- An operation gives the reason of its refusal, or what comes out of the answer to its
command. -/
theorem answer_perform (ix : Index) (op : Operation) (s : Session) :
  (ix.perform op s).1 = (op.refusal? ix).elim (op.outcome ix s.channel.nextAnswer) .error
  := by
  rw [perform]
  cases op.refusal? ix with
  | some e => rfl
  | none =>
    rw [Session.send]
    cases s.channel.nextAnswer with
    | error e => rfl
    | ok r =>
      simp only [Option.elim_none, Operation.outcome]
      cases op.read ix r with
      | error e => rfl
      | ok a => rfl

/-- An operation that is not refused uses up the first answer. -/
theorem answer_perform_answering {ix : Index} {op : Operation} (h : op.refusal? ix = none)
    (s : Session) (a : Answered) :
  (ix.perform op (s.answering a)).1 = op.outcome ix a
  := by
  rw [answer_perform, h]
  rfl

end Index

/-! ### The options in a command -/

/-- The arguments of a profiled search after its query string, which the keyword `QUERY`
announces. -/
def profiledArgs? : List Arg → Option (List Arg)
  | .text "LIMITED" :: .text "QUERY" :: _ :: args => some args
  | .text "QUERY" :: _ :: args => some args
  | _ => none

namespace Call

/-- The arguments after the query string. -/
def optionArgs? : Call → Option (List Arg)
  | ⟨"FT.SEARCH", _ :: _ :: args⟩ => some args
  | ⟨"FT.EXPLAIN", _ :: _ :: args⟩ => some args
  | ⟨"FT.PROFILE", _ :: _ :: args⟩ => profiledArgs? args
  | _ => none

/-- The options that a command asks for, up to how the ends of a filter came to their
texts. -/
def options? (c : Call) : Option OptionsView :=
  c.optionArgs?.bind OptionsView.ofArgs?

theorem options?_of_args {c : Call} {o : SearchOptions} (h : c.optionArgs? = some o.args) :
  c.options? = some o.view
  := by
  rw [options?, h, Option.bind_some, OptionsView.ofArgs?, o.readClauses_args, Option.map_some,
    o.ofClauses_clauses]

end Call

/-- The arguments of a dialect on its own. -/
theorem SearchOptions.args_dialect (d : Option Nat) :
  args { dialect := d } = Arg.option "DIALECT" (d.map .ofNat)
  := by
  simp [args, Arg.flag, returnArgs, optionalArgs, Arg.option, paramsArgs]

namespace Operation

/-- A search asks for the options of its query. -/
theorem options?_search (ix : Index) (q : Query) :
  ((search q).call ix).options? = some (ix.queryOptions q).view
  := Call.options?_of_args rfl

/-- A profiled search asks for the same options. -/
theorem options?_profile (ix : Index) (q : Query) (limited : Bool) :
  ((profile q limited).call ix).options? = some (ix.queryOptions q).view
  := by
  apply Call.options?_of_args
  cases limited with
  | false => rfl
  | true => rfl

/-- An explanation asks for the dialect alone. -/
theorem options?_explain (ix : Index) (q : Query) :
  ((explain q).call ix).options?
    = some (SearchOptions.view { dialect := (ix.queryOptions q).dialect })
  := by
  apply Call.options?_of_args
  rw [SearchOptions.args_dialect]
  rfl

end Operation

end FullText
