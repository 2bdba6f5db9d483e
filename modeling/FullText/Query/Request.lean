import FullText.Query.Builder
import FullText.Query.Options

/-!
# Queries

A `Query` is a search without the name of the index: a predicate tree or a literal
query string, the options, and possibly a clause that asks for the nearest
neighbours of a vector.

The vector goes as a query parameter, and the clause needs a query dialect of at
least two; `Query.effectiveOptions` adds both to the options that were set.
-/

namespace FullText

/-- Ask for the `count` documents whose vector in `field` is nearest to `vector`. -/
structure Neighbours where
  field : String
  count : Nat
  vector : List Binary32
  deriving DecidableEq

/-- A search without the name of the index. -/
structure Query where
  /-- The conjunction that documents have to meet. -/
  root : List Node := []
  /-- The query string while the conjunction is empty. -/
  literal : Option String := none
  options : SearchOptions := {}
  neighbours : Option Neighbours := none

namespace Query

/-- The name of the parameter that holds the vector. -/
def vectorParam : String := "BLOB"

/-- The least dialect that knows nearest neighbours. -/
def neighboursDialect : Nat := 2

/-- The query that every document matches. -/
def all : Query := {}

/-- The query with the given query string. -/
def ofLiteral (s : String) : Query :=
  { literal := some s }

/-- The query of a predicate tree.  The members of a conjunction become the root;
any other tree is the single member of the root. -/
def ofNode : Node → Query
  | .group .and members => { root := members }
  | n => { root := [n] }

/-- The query of the tree that a builder holds; groups still open are left out. -/
def ofBuilder (b : Builder) : Query :=
  { root := b.root }

/-- The query that a block builds, or the message of its failure. -/
def build (block : Block) : Except String Query :=
  match block.run {} with
  | (some message, _) => .error message
  | (none, w) => .ok (ofBuilder w.builder)

/-- The root as a group. -/
def rootGroup (q : Query) : Group :=
  ⟨.and, q.root⟩

/-! ### Modifiers -/

/-- A change to a query. -/
inductive Modifier where
  | noContent
  | verbatim
  | noStopwords
  | withScores
  | withPayloads
  | inOrder
  | filter (field : String) (low high : Bound)
  | returnFields (fields : List String)
  | summarize (summary : Summary)
  | highlight (highlight : Highlight)
  | slop (value : Nat)
  | language (value : String)
  | scorer (value : String)
  | dialect (value : Nat)
  | sortBy (sorting : Sorting)
  | page (paging : Paging)
  | param (name : String) (value : Arg)
  | nearest (neighbours : Neighbours)

/-- The effect of a change on the options. -/
def Modifier.onOptions (m : Modifier) (o : SearchOptions) : SearchOptions :=
  match m with
  | .noContent => { o with noContent := true }
  | .verbatim => { o with verbatim := true }
  | .noStopwords => { o with noStopwords := true }
  | .withScores => { o with withScores := true }
  | .withPayloads => { o with withPayloads := true }
  | .inOrder => { o with inOrder := true }
  | .filter field low high => o.addFilter field low high
  | .returnFields fields => { o with returnFields := fields }
  | .summarize s => { o with summary := some s }
  | .highlight h => { o with highlight := some h }
  | .slop value => { o with slop := some value }
  | .language value => { o with language := some value }
  | .scorer value => { o with scorer := some value }
  | .dialect value => { o with dialect := some value }
  | .sortBy s => { o with sorting := some s }
  | .page p => { o with paging := some p }
  | .param name value => o.setParam name value
  | .nearest _ => o

/-- The query with a change made; a new value replaces the one before, filters add
up, and so do parameters of different names. -/
def modify (q : Query) (m : Modifier) : Query :=
  match m with
  | .nearest n => { q with neighbours := some n }
  | m => { q with options := m.onOptions q.options }

/-! ### The request -/

/-- The query string without the clause of the nearest neighbours. -/
def baseChars (q : Query) : List Char :=
  if q.root.isEmpty then
    match q.literal with
    | some s => s.toList
    | none => ['*']
  else q.rootGroup.toNode.chars

/-- The clause of the nearest neighbours. -/
def neighboursChars (n : Neighbours) : List Char :=
  "=>[KNN ".toList ++ (toString n.count).toList ++ " @".toList ++ n.field.toList ++
    " $".toList ++ vectorParam.toList ++ [']']

/-- The query string. -/
def text (q : Query) : String :=
  match q.neighbours with
  | none => String.ofList q.baseChars
  | some n =>
    let filter := if q.baseChars = ['*'] then ['*'] else '(' :: (q.baseChars ++ [')'])
    String.ofList (filter ++ neighboursChars n)

/-- The options as they are sent. -/
def effectiveOptions (q : Query) : SearchOptions :=
  match q.neighbours with
  | none => q.options
  | some n =>
    let o := q.options.setParam vectorParam (.blob (vectorBlob n.vector))
    { o with dialect := some (max (o.dialect.getD neighboursDialect) neighboursDialect) }

/-- The query string and the arguments after it. -/
def args (q : Query) : List Arg :=
  .text q.text :: q.effectiveOptions.args

end Query

end FullText
