import FullText.Json.Text
import FullText.Query.Request

/-!
# Queries as JSON values

The JSON form of predicate trees, options and queries.  Parameters are left out of
the options.
-/

namespace FullText

/-- The name of a connective. -/
def Connective.name : Connective → String
  | .and => "And"
  | .or => "Or"

/-- An end of a range. -/
def Bound.toJson : Bound → Json
  | .unbounded => .string "Unbounded"
  | .inclusive value => .tagged "Inclusive" (.double value)
  | .exclusive value => .tagged "Exclusive" (.double value)

/-- What an equality compares with. -/
def Term.toJson : Term → Json
  | .text phrase => .tagged "Text" (.string phrase)
  | .tags values => .tagged "Tags" (.texts values)
  | .number value => .tagged "Number" (.double value)

/-- A condition on a field. -/
def Predicate.toJson : Predicate → Json
  | .equality field term =>
    .tagged "Equality" (.object [("field", .string field), ("value", term.toJson)])
  | .pattern field text =>
    .tagged "Match" (.object [("field", .string field), ("pattern", .string text)])
  | .range field low high =>
    .tagged "Range"
      (.object [("field", .string field), ("min", low.toJson), ("max", high.toJson)])

/-- A group whose members have the given JSON forms. -/
def Connective.groupJson (c : Connective) (members : List Json) : Json :=
  .object [("op", .string c.name), ("children", .array members)]

mutual

/-- A predicate tree. -/
def Node.toJson : Node → Json
  | .leaf condition => .tagged "Predicate" condition.toJson
  | .group connective members =>
    .tagged "Group" (connective.groupJson (Node.membersJson members))
  | .negation node => .tagged "Not" node.toJson

/-- The members of a group. -/
def Node.membersJson : List Node → List Json
  | [] => []
  | node :: nodes => node.toJson :: Node.membersJson nodes

end

/-- A group. -/
def Group.toJson (g : Group) : Json :=
  g.connective.groupJson (Node.membersJson g.members)

/-- A filter. -/
def NumericFilter.toJson (f : NumericFilter) : Json :=
  .object [("field", .string f.field), ("min", f.low.toJson), ("max", f.high.toJson)]

/-- A summary. -/
def Summary.toJson (s : Summary) : Json :=
  .object
    [ ("fields", .texts s.fields), ("frags", .count s.fragments), ("len", .count s.length),
      ("separator", .string s.separator) ]

/-- A highlight. -/
def Highlight.toJson (h : Highlight) : Json :=
  .object
    [("fields", .texts h.fields), ("open", .string h.opening), ("close", .string h.closing)]

/-- The name of a sort order. -/
def SortOrder.name : SortOrder → String
  | .ascending => "Asc"
  | .descending => "Desc"

/-- A sort. -/
def Sorting.toJson (s : Sorting) : Json :=
  .object [("field", .string s.field), ("order", .string s.order.name)]

/-- A page. -/
def Paging.toJson (p : Paging) : Json :=
  .object [("offset", .count p.offset), ("num", .count p.size)]

/-- The options of a search. -/
def SearchOptions.toJson (o : SearchOptions) : Json :=
  .object
    [ ("no_content", .bool o.noContent),
      ("verbatim", .bool o.verbatim),
      ("no_stopwords", .bool o.noStopwords),
      ("with_scores", .bool o.withScores),
      ("with_payloads", .bool o.withPayloads),
      ("filters", .ofList NumericFilter.toJson o.filters),
      ("return_fields", .texts o.returnFields),
      ("summarize", .ofOption Summary.toJson o.summary),
      ("highlight", .ofOption Highlight.toJson o.highlight),
      ("slop", .ofOption .count o.slop),
      ("language", .ofOption .string o.language),
      ("in_order", .bool o.inOrder),
      ("sort_by", .ofOption Sorting.toJson o.sorting),
      ("limit", .ofOption Paging.toJson o.paging),
      ("scorer", .ofOption .string o.scorer),
      ("dialect", .ofOption .count o.dialect) ]

/-- A nearest-neighbours clause. -/
def Neighbours.toJson (n : Neighbours) : Json :=
  .object
    [("field", .string n.field), ("k", .count n.count), ("vector", .ofList .single n.vector)]

/-- A query. -/
def Query.toJson (q : Query) : Json :=
  .object
    [ ("root", q.rootGroup.toJson),
      ("base", .ofOption .string q.literal),
      ("options", q.options.toJson),
      ("knn", .ofOption Neighbours.toJson q.neighbours) ]

end FullText
