import FullText.Number.Binary

/-!
# Predicate trees

The condition that a document has to meet: conditions on single fields, joined by
conjunction, disjunction and negation.
-/

namespace FullText

/-- How the members of a group are joined. -/
inductive Connective where
  /-- All members must match. -/
  | and
  /-- Any member may match. -/
  | or
  deriving DecidableEq

/-- One end of a numeric range. -/
inductive Bound where
  | unbounded
  | inclusive (value : Binary64)
  | exclusive (value : Binary64)
  deriving DecidableEq

/-- An inclusive end, or none. -/
def Bound.ofOption : Option Binary64 → Bound
  | some value => .inclusive value
  | none => .unbounded

/-- What an equality compares with. -/
inductive Term where
  /-- An exact phrase of a text field. -/
  | text (phrase : String)
  /-- Any of the tags of a tag field. -/
  | tags (values : List String)
  /-- A number. -/
  | number (value : Binary64)
  deriving DecidableEq

/-- A condition on a single field. -/
inductive Predicate where
  | equality (field : String) (term : Term)
  /-- A match of a pattern, which goes into the query as it is. -/
  | pattern (field text : String)
  | range (field : String) (low high : Bound)
  deriving DecidableEq

/-- The field that a condition is on. -/
def Predicate.field : Predicate → String
  | .equality field _ => field
  | .pattern field _ => field
  | .range field _ _ => field

namespace Predicate

/-- The field has the tag. -/
def tag (field value : String) : Predicate :=
  .equality field (.tags [value])

/-- The field has any of the tags. -/
def tags (field : String) (values : List String) : Predicate :=
  .equality field (.tags values)

/-- The field holds the phrase. -/
def phrase (field value : String) : Predicate :=
  .equality field (.text value)

/-- The field is the number. -/
def number (field : String) (value : Binary64) : Predicate :=
  .equality field (.number value)

/-- The field lies between two numbers, or is one of them. -/
def between (field : String) (low high : Binary64) : Predicate :=
  .range field (.inclusive low) (.inclusive high)

end Predicate

/-- A predicate tree. -/
inductive Node where
  | leaf (condition : Predicate)
  | group (connective : Connective) (members : List Node)
  | negation (node : Node)

/-- A group of predicate trees. -/
structure Group where
  connective : Connective
  members : List Node

namespace Group

/-- The group without members. -/
def empty (connective : Connective) : Group :=
  ⟨connective, []⟩

/-- The group with one more member at its end. -/
def push (g : Group) (n : Node) : Group :=
  { g with members := g.members ++ [n] }

/-- The number of members. -/
def size (g : Group) : Nat :=
  g.members.length

/-- The group as a tree. -/
def toNode (g : Group) : Node :=
  .group g.connective g.members

end Group

namespace Node

/-- `n` wrapped `depth` times by `wrap`. -/
def nest (wrap : Node → Node) : Nat → Node → Node
  | 0, n => n
  | depth + 1, n => wrap (nest wrap depth n)

end Node

end FullText
