import FullText.Query.Text
import FullText.Wire.Arg

/-!
# Search options

What a search asks for besides its query string, and the arguments that say so.
Every option has its own clause, and the clauses stand in one fixed order, whatever
the order in which the options were set.
-/

namespace FullText

/-- A numeric condition that is put beside the query string. -/
structure NumericFilter where
  field : String
  low : Bound
  high : Bound
  deriving DecidableEq

/-- Show fragments of the matching texts.  Without fields, of all that are returned. -/
structure Summary where
  fields : List String := []
  fragments : Nat := 3
  length : Nat := 20
  separator : String := "..."
  deriving DecidableEq

/-- Mark the matching terms.  Without fields, in all that are returned. -/
structure Highlight where
  fields : List String := []
  opening : String := "<b>"
  closing : String := "</b>"
  deriving DecidableEq

/-- The direction of a sort. -/
inductive SortOrder where
  | ascending
  | descending
  deriving DecidableEq

/-- A sort by one field. -/
structure Sorting where
  field : String
  order : SortOrder
  deriving DecidableEq

/-- A page of the results. -/
structure Paging where
  offset : Nat
  size : Nat
  deriving DecidableEq

/-- The options of a search.  Filters and parameters stand in the order in which they
were added. -/
structure SearchOptions where
  noContent : Bool := false
  verbatim : Bool := false
  noStopwords : Bool := false
  withScores : Bool := false
  withPayloads : Bool := false
  filters : List NumericFilter := []
  returnFields : List String := []
  summary : Option Summary := none
  highlight : Option Highlight := none
  slop : Option Nat := none
  language : Option String := none
  inOrder : Bool := false
  sorting : Option Sorting := none
  paging : Option Paging := none
  scorer : Option String := none
  /-- Values for the names that the query string refers to. -/
  params : List (String × Arg) := []
  dialect : Option Nat := none
  deriving DecidableEq

/-- Give a name a value: in its place if it has one, else at the end. -/
def setParam (name : String) (value : Arg) : List (String × Arg) → List (String × Arg)
  | [] => [(name, value)]
  | (k, v) :: params =>
    if k = name then (k, value) :: params else (k, v) :: setParam name value params

namespace SearchOptions

/-- The options with one more filter. -/
def addFilter (o : SearchOptions) (field : String) (low high : Bound) : SearchOptions :=
  { o with filters := o.filters ++ [⟨field, low, high⟩] }

/-- The options with a parameter set or replaced. -/
def setParam (o : SearchOptions) (name : String) (value : Arg) : SearchOptions :=
  { o with params := FullText.setParam name value o.params }

end SearchOptions

/-! ### Arguments -/

/-- The keyword of a sort order. -/
def SortOrder.keyword : SortOrder → String
  | .ascending => "ASC"
  | .descending => "DESC"

/-- One end of a range as an argument. -/
def Bound.arg (b : Bound) (unbounded : List Char) : Arg :=
  .text (String.ofList (b.chars unbounded))

/-- The clause of a filter. -/
def NumericFilter.args (f : NumericFilter) : List Arg :=
  [.text "FILTER", .text f.field, f.low.arg Bound.leastText, f.high.arg Bound.greatestText]

/-- The fields that a clause is restricted to, if it is. -/
def fieldsArgs (fields : List String) : List Arg :=
  if fields.isEmpty then [] else .text "FIELDS" :: Arg.counted fields

/-- The clause of a summary. -/
def Summary.args (s : Summary) : List Arg :=
  .text "SUMMARIZE" :: fieldsArgs s.fields ++
    [.text "FRAGS", .ofNat s.fragments, .text "LEN", .ofNat s.length, .text "SEPARATOR",
      .text s.separator]

/-- The clause of a highlight. -/
def Highlight.args (h : Highlight) : List Arg :=
  .text "HIGHLIGHT" :: fieldsArgs h.fields ++
    [.text "TAGS", .text h.opening, .text h.closing]

/-- The clause of a sort. -/
def Sorting.args (s : Sorting) : List Arg :=
  [.text "SORTBY", .text s.field, .text s.order.keyword]

/-- The clause of a page. -/
def Paging.args (p : Paging) : List Arg :=
  [.text "LIMIT", .ofNat p.offset, .ofNat p.size]

/-- The clause of the parameters; its count is that of names and values together. -/
def paramsArgs (params : List (String × Arg)) : List Arg :=
  if params.isEmpty then []
  else
    .text "PARAMS" :: .ofNat (2 * params.length) ::
      params.flatMap fun (name, value) => [.text name, value]

/-- The clause of an option that may be absent. -/
def optionalArgs {α : Type} (args : α → List Arg) (x : Option α) : List Arg :=
  match x with
  | some a => args a
  | none => []

namespace SearchOptions

/-- The clause of the returned fields. -/
def returnArgs (o : SearchOptions) : List Arg :=
  if o.returnFields.isEmpty then [] else .text "RETURN" :: Arg.counted o.returnFields

/-- The arguments that follow the query string. -/
def args (o : SearchOptions) : List Arg :=
  Arg.flag o.noContent "NOCONTENT" ++
  Arg.flag o.verbatim "VERBATIM" ++
  Arg.flag o.noStopwords "NOSTOPWORDS" ++
  Arg.flag o.withScores "WITHSCORES" ++
  Arg.flag o.withPayloads "WITHPAYLOADS" ++
  o.filters.flatMap NumericFilter.args ++
  o.returnArgs ++
  optionalArgs Summary.args o.summary ++
  optionalArgs Highlight.args o.highlight ++
  Arg.option "SLOP" (o.slop.map .ofNat) ++
  Arg.option "LANGUAGE" (o.language.map .text) ++
  Arg.flag o.inOrder "INORDER" ++
  optionalArgs Sorting.args o.sorting ++
  optionalArgs Paging.args o.paging ++
  Arg.option "SCORER" (o.scorer.map .text) ++
  paramsArgs o.params ++
  Arg.option "DIALECT" (o.dialect.map .ofNat)

end SearchOptions

end FullText
