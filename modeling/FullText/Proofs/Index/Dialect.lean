import FullText.Proofs.Index.Commands

/-!
# The dialect of a query

Three commands carry a query, and each of them a dialect.  A query may set its own, an
index may have one for the queries that set none, and nearest neighbours call for a
dialect of at least two.  `Index.dueDialect?` puts these together as they are meant.

What is sent is worked out in another order: nearest neighbours get their dialect before
the index is looked at.  `Index.dialect_perform` says what that comes to, for all three
commands alike: the dialect is the due one unless the index asks for a dialect above two
on behalf of a query for nearest neighbours, which then goes with dialect two.
-/

namespace FullText

/-- The commands that carry a query. -/
inductive QueryCommand where
  | search
  | explain
  | profile (limited : Bool)

/-- The operation that sends a query with a command. -/
def QueryCommand.operation (q : Query) : QueryCommand → Operation
  | .search => .search q
  | .explain => .explain q
  | .profile limited => .profile q limited

/-- The dialect in a command that carries a query, if there is one. -/
def Call.dialect? (c : Call) : Option (Option Nat) :=
  c.options?.map fun view => view.others.dialect

namespace Index

/-- The dialect that a query is due to be sent with: its own or else that of the index,
and one that knows nearest neighbours if it asks for these. -/
def dueDialect? (ix : Index) (q : Query) : Option Nat :=
  let base := q.options.dialect.or ix.definition.dialect
  match q.neighbours with
  | none => base
  | some _ => some (max (base.getD Query.neighboursDialect) Query.neighboursDialect)

/-- The dialect of the index is above two and due to a query for nearest neighbours. -/
def PassesOver (ix : Index) (q : Query) : Prop :=
  q.neighbours.isSome ∧ q.options.dialect = none ∧
    ∃ d ∈ ix.definition.dialect, Query.neighboursDialect < d

/-- Nearest neighbours never go with the dialect of the index. -/
theorem dialect_queryOptions (ix : Index) (q : Query) :
  (ix.queryOptions q).dialect =
    match q.neighbours with
    | none => q.options.dialect.or ix.definition.dialect
    | some _ =>
      some (max (q.options.dialect.getD Query.neighboursDialect) Query.neighboursDialect)
  := by
  rw [queryOptions, Query.effectiveOptions]
  cases q.neighbours with
  | none => rfl
  | some n => rfl

/-- All commands that carry a query say the same dialect. -/
theorem dialect?_call (ix : Index) (q : Query) (command : QueryCommand) :
  ((command.operation q).call ix).dialect? = some (ix.queryOptions q).dialect
  := by
  rw [Call.dialect?]
  cases command with
  | search =>
    rw [QueryCommand.operation, Operation.options?_search]
    rfl
  | explain =>
    rw [QueryCommand.operation, Operation.options?_explain]
    rfl
  | profile limited =>
    rw [QueryCommand.operation, Operation.options?_profile]
    rfl

/-- A command that carries a query is never refused. -/
theorem calls_perform_query (ix : Index) (q : Query) (command : QueryCommand) (s : Session) :
  (ix.perform (command.operation q) s).2.2.channel.calls
    = s.channel.calls ++ [(command.operation q).call ix]
  := by
  rw [calls_perform]
  cases command with
  | _ => rfl

/-- The dialect is the due one unless that of the index is passed over. -/
theorem dialect_queryOptions_eq_iff (ix : Index) (q : Query) :
  (ix.queryOptions q).dialect = ix.dueDialect? q ↔ ¬ ix.PassesOver q
  := by
  rw [dialect_queryOptions, dueDialect?, PassesOver, Query.neighboursDialect]
  cases q.neighbours with
  | none => simp
  | some n =>
    cases q.options.dialect with
    | some d => simp
    | none =>
      cases ix.definition.dialect with
      | none => simp
      | some d =>
        simp only [Option.getD_none, Option.none_or, Option.getD_some, Option.some_inj,
          Option.isSome_some, Option.mem_def, exists_eq_left', true_and]
        omega

/-- A query goes as one command, and of the three it can go as each says the same
dialect.  Without nearest neighbours that is the one of the query, or else the one of the
index.  With nearest neighbours it is at least two and otherwise up to the query alone,
so it is the due one unless that of the index is passed over. -/
theorem dialect_perform (ix : Index) (q : Query) (command : QueryCommand) (s : Session) :
  ∃ call : Call,
    (ix.perform (command.operation q) s).2.2.channel.calls = s.channel.calls ++ [call] ∧
    call.dialect? = some
      (match q.neighbours with
      | none => q.options.dialect.or ix.definition.dialect
      | some _ => some (max (q.options.dialect.getD 2) 2)) ∧
    (call.dialect? = some (ix.dueDialect? q) ↔ ¬ ix.PassesOver q)
  := by
  use (command.operation q).call ix, ix.calls_perform_query q command s
  rw [dialect?_call]
  constructor
  · rw [dialect_queryOptions]
    rfl
  · rw [Option.some_inj]
    apply dialect_queryOptions_eq_iff

/-- The due dialect is not always the one that is sent: an index with dialect three sends
a query for nearest neighbours with dialect two. -/
theorem not_dialect_due :
  ¬ ∀ (ix : Index) (q : Query) (command : QueryCommand) (s : Session), ∃ call : Call,
    (ix.perform (command.operation q) s).2.2.channel.calls = s.channel.calls ++ [call] ∧
    call.dialect? = some (ix.dueDialect? q)
  := by
  intro h
  let ix : Index := ⟨{ name := "idx", dialect := some 3 }, .empty⟩
  let q : Query := { neighbours := some ⟨"v", 1, []⟩ }
  obtain ⟨call, hcalls, hdue⟩ := h ix q .search {}
  rw [calls_perform_query] at hcalls
  obtain rfl := (List.cons.inj hcalls).1
  rw [dialect?_call] at hdue
  cases hdue

end Index

end FullText
