import FullText.Number.Style
import FullText.Query.Predicate
import FullText.Text.Escape

/-!
# Query strings

The text of a predicate tree in the query language:

* `@field:{a | b}` for any of the tags, `@field:"phrase"` for a phrase;
* `(@field:pattern)` for a pattern;
* `@field:[low high]` for a range, `(` before an excluded end, `-inf` and `+inf` for
  the open ones; a number is the range from it to itself;
* `(p q)` and `(p | q)` for groups, `*` for the empty one, and `-p` for a negation.
-/

namespace FullText

/-- What stands between the members of a group. -/
def Connective.separator : Connective → List Char
  | .and => [' ']
  | .or => [' ', '|', ' ']

/-- The text of one end of a range; `unbounded` is that of an open end. -/
def Bound.chars (b : Bound) (unbounded : List Char) : List Char :=
  match b with
  | .unbounded => unbounded
  | .inclusive value => value.chars .plain
  | .exclusive value => '(' :: value.chars .plain

/-- The text of an open lower end. -/
def Bound.leastText : List Char := ['-', 'i', 'n', 'f']

/-- The text of an open upper end. -/
def Bound.greatestText : List Char := ['+', 'i', 'n', 'f']

/-- The text of what a condition asks of its field. -/
def Term.chars : Term → List Char
  | .tags values =>
    '\x7b' :: (List.intercalate [' ', '|', ' '] (values.map escapeToken) ++ ['\x7d'])
  | .text phrase => '"' :: (escapePhrase phrase ++ ['"'])
  | .number value =>
    '[' :: (value.chars .plain ++ ' ' :: (value.chars .plain ++ [']']))

/-- The text of a condition. -/
def Predicate.chars : Predicate → List Char
  | .equality field term => '@' :: (escapeField field ++ ':' :: term.chars)
  | .pattern field text =>
    '(' :: '@' :: (escapeField field ++ ':' :: (text.toList ++ [')']))
  | .range field low high =>
    '@' :: (escapeField field ++ ':' :: '[' ::
      (low.chars Bound.leastText ++ ' ' :: (high.chars Bound.greatestText ++ [']'])))

/-- The text of a group whose members have the given texts. -/
def Connective.groupChars (c : Connective) (members : List (List Char)) : List Char :=
  if members.isEmpty then ['*']
  else '(' :: (List.intercalate c.separator members ++ [')'])

mutual

/-- The text of a predicate tree. -/
def Node.chars : Node → List Char
  | .leaf predicate => predicate.chars
  | .group connective members => connective.groupChars (Node.memberChars members)
  | .negation node => '-' :: node.chars

/-- The texts of the members of a group. -/
def Node.memberChars : List Node → List (List Char)
  | [] => []
  | node :: nodes => node.chars :: Node.memberChars nodes

end

/-- The query string of a predicate tree. -/
def Node.text (n : Node) : String :=
  String.ofList n.chars

/-- The query string of a group. -/
def Group.text (g : Group) : String :=
  g.toNode.text

/-! ### Patterns -/

/-- The pattern of the terms that begin with `value`. -/
def leadingPattern (value : String) : String :=
  String.ofList (escapeToken value ++ ['*'])

/-- The pattern of the terms at most one edit away from `value`. -/
def fuzzyPattern (value : String) : String :=
  String.ofList ('%' :: (escapeToken value ++ ['%']))

end FullText
