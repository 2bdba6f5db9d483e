import FullText.Query.Text

/-!
# Building predicate trees

A `Builder` holds the members of the root conjunction and the groups that are open
inside it.  Predicates go into the innermost open group.  A `Block` is a program for
a builder: it adds predicates, opens nested groups, may fail, and may replace the
builder by a new one or by a copy saved before.

A group is attached to the group around it when its block ends, unless it is empty.
When its block fails, nothing is attached, and the groups opened since are closed.
-/

namespace FullText

/-- A predicate tree under construction. -/
structure Builder where
  /-- The members of the root, which is a conjunction. -/
  root : List Node := []
  /-- The open groups, the innermost first. -/
  opened : List Group := []

namespace Builder

/-- The builder of an empty tree. -/
def new : Builder := {}

/-- The number of groups that are open, counting the root. -/
def depth (b : Builder) : Nat :=
  b.opened.length + 1

/-- The group that predicates are added to. -/
def current (b : Builder) : Group :=
  b.opened.headD ⟨.and, b.root⟩

/-- The builder with a tree added to its current group. -/
def push (b : Builder) (n : Node) : Builder :=
  match b.opened with
  | [] => { b with root := b.root ++ [n] }
  | g :: gs => { b with opened := g.push n :: gs }

/-- The builder with only its `d` outermost open groups. -/
def truncate (b : Builder) (d : Nat) : Builder :=
  { b with opened := b.opened.drop (b.opened.length - d) }

/-- The builder with an empty group opened inside its current one. -/
def enter (b : Builder) (c : Connective) : Builder :=
  { b with opened := .empty c :: b.opened }

/-- The builder with its innermost open group closed and attached, if it is not
empty, to the one around it. -/
def attach (b : Builder) : Builder :=
  match b.opened with
  | [] => b
  | g :: gs =>
    let rest := { b with opened := gs }
    if g.members.isEmpty then rest else rest.push g.toNode

/-- The end of a group entered at `d` open groups: what is open inside it is
dropped, and the group itself attached. -/
def leave (b : Builder) (d : Nat) : Builder :=
  ((b.truncate (d + 1)).attach).truncate d

end Builder

/-! ### Programs -/

/-- A condition on one field, by the word it is asked with. -/
inductive Condition where
  | phrase (field value : String)
  | pattern (field text : String)
  | leading (field value : String)
  | fuzzy (field value : String)
  | tag (field value : String)
  | anyTag (field : String) (values : List String)
  | equal (field : String) (value : Binary64)
  | between (field : String) (low high : Binary64)
  | above (field : String) (value : Binary64)
  | atLeast (field : String) (value : Binary64)
  | below (field : String) (value : Binary64)
  | atMost (field : String) (value : Binary64)

/-- The predicate of a condition. -/
def Condition.predicate : Condition → Predicate
  | .phrase field value => .phrase field value
  | .pattern field text => .pattern field text
  | .leading field value => .pattern field (leadingPattern value)
  | .fuzzy field value => .pattern field (fuzzyPattern value)
  | .tag field value => .tag field value
  | .anyTag field values => .tags field values
  | .equal field value => .number field value
  | .between field low high => .between field low high
  | .above field value => .range field (.exclusive value) .unbounded
  | .atLeast field value => .range field (.inclusive value) .unbounded
  | .below field value => .range field .unbounded (.exclusive value)
  | .atMost field value => .range field .unbounded (.inclusive value)

/-- A step of a block that opens no group. -/
inductive Action where
  | condition (asked : Condition)
  | predicate (asked : Predicate)
  | node (tree : Node)
  | fail (message : String)
  /-- Replace the builder by a new one. -/
  | reset
  /-- Remember a copy of the builder. -/
  | save
  /-- Replace the builder by the copy remembered last. -/
  | restore

/-- A program for a builder.  A step that fails ends the block unless its failure is
caught. -/
inductive Block where
  | done
  | step (action : Action) (caught : Bool) (rest : Block)
  /-- A nested group; `fallible` tells whether its block was announced as one that
  may fail. -/
  | group (connective : Connective) (fallible : Bool) (body : Block) (caught : Bool)
      (rest : Block)

/-- A builder and the copy of one that was saved. -/
structure Workspace where
  builder : Builder := {}
  saved : Option Builder := none

namespace Workspace

/-- Change the builder. -/
def update (w : Workspace) (f : Builder → Builder) : Workspace :=
  { w with builder := f w.builder }

end Workspace

/-- How a step or a block ends: the message of its failure, if it fails. -/
abbrev Failure := Option String

/-- The effect of a step. -/
def Action.run (a : Action) (w : Workspace) : Failure × Workspace :=
  match a with
  | .condition c => (none, w.update (·.push (.leaf c.predicate)))
  | .predicate p => (none, w.update (·.push (.leaf p)))
  | .node n => (none, w.update (·.push n))
  | .fail message => (some message, w)
  | .reset => (none, { w with builder := .new })
  | .save => (none, { w with saved := some w.builder })
  | .restore => (none, { w with builder := w.saved.getD w.builder })

/-- The end of a group entered at `d` open groups, whose block ended as given. -/
def Workspace.close (d : Nat) : Failure × Workspace → Failure × Workspace
  | (none, w) => (none, w.update (·.leave d))
  | (some message, w) => (some message, w.update (·.truncate d))

namespace Block

/-- The effect of a block. -/
def run : Block → Workspace → Failure × Workspace
  | .done, w => (none, w)
  | .step action caught rest, w =>
    match action.run w with
    | (none, w) => rest.run w
    | (some message, w) => if caught then rest.run w else (some message, w)
  | .group connective _ body caught rest, w =>
    match Workspace.close w.builder.opened.length (body.run (w.update (·.enter connective))) with
    | (none, w) => rest.run w
    | (some message, w) => if caught then rest.run w else (some message, w)

/-- What was executed. -/
inductive Executed where
  | action (step : Action)
  | group (connective : Connective) (fallible : Bool)

/-- A step that was executed, how it ended, and the builder after it. -/
structure Event where
  executed : Executed
  failure : Failure
  builder : Builder

/-- The steps that a block executes, in the order in which they end. -/
def trace : Block → Workspace → List Event
  | .done, _ => []
  | .step action caught rest, w =>
    let (failure, w) := action.run w
    ⟨.action action, failure, w.builder⟩ ::
      (if failure.isNone || caught then rest.trace w else [])
  | .group connective fallible body caught rest, w =>
    let inner := w.update (·.enter connective)
    let (failure, after) := Workspace.close w.builder.opened.length (body.run inner)
    body.trace inner ++ ⟨.group connective fallible, failure, after.builder⟩ ::
      (if failure.isNone || caught then rest.trace after else [])

end Block

end FullText
