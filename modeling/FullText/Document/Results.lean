import FullText.Error
import FullText.Json.Reader
import FullText.Number.Numeral
import FullText.Query.Options

/-!
# Search results

The reply to a search is a flat array: the total number of matches, and then a row
for each document of the page.  A row has the id, the score and the payload if they
were asked for, and the fields unless the search was for ids alone.
-/

namespace FullText

/-- A document as a server gives it. -/
structure Document where
  id : String
  score : Option Binary64
  payload : Option String
  /-- The names and values of the fields, in the order of the reply. -/
  fields : List (String × String)
  deriving DecidableEq

/-- One page of search results. -/
structure SearchResults where
  /-- The number of all matches, not of those on the page. -/
  total : Nat
  documents : List Document
  deriving DecidableEq

namespace Document

/-- The value of the first field of a name. -/
def get? (d : Document) (name : String) : Option String :=
  (d.fields.find? fun (k, _) => k == name).map Prod.snd

/-- What the field `$` of a document is read as, which has a document that is stored as
JSON. -/
def json? (d : Document) : Option (Except JsonError Json) :=
  (d.get? "$").map Json.read

end Document

/-! ### Reading a reply -/

/-- The text that a place of a reply holds. -/
def readText (expected : Expected) (r : Reply) : Except SearchError String :=
  match r.asText? with
  | some s => .ok s
  | none => .error (.unexpectedReply expected (.reply r))

/-- The pairs of a list, each half read in its own way.  A single item at the end is
left out. -/
def readPairs {α β : Type} (first : Reply → Except SearchError α)
    (second : Reply → Except SearchError β) : List Reply → Except SearchError (List (α × β))
  | r₁ :: r₂ :: rest => do
    let a ← first r₁
    let b ← second r₂
    let pairs ← readPairs first second rest
    return (a, b) :: pairs
  | _ => .ok []

/-- The fields of a document, in an array of names and values. -/
def readFields (items : List Reply) : Except SearchError (List (String × String)) :=
  if items.length % 2 = 0 then readPairs (readText .fieldName) (readText .fieldValue) items
  else .error (.unexpectedReply .evenFields (.length items.length))

/-- The score of a document: an integer, or a text that denotes a number. -/
def readScore (r : Reply) : Except SearchError Binary64 :=
  match r with
  | .integer n => .ok (.ofInt n)
  | .bulk s | .status s =>
    match Binary64.read? s with
    | some x => .ok x
    | none => .error (.unexpectedReply .numericScore (.reply r))
  | _ => .error (.unexpectedReply .numericScore (.reply r))

/-- The payload of a document, if it has one. -/
def readPayload (r : Reply) : Except SearchError (Option String) :=
  match r with
  | .nil => .ok none
  | _ => (readText .documentPayload r).map some

/-- The place of the fields.  It is nil for a document that is gone since it was
matched. -/
def readContent (r : Reply) : Except SearchError (List (String × String)) :=
  match r with
  | .array items => readFields items
  | .nil => .ok []
  | _ => .error (.unexpectedReply .fieldArray (.reply r))

/-- The next place of a row, if the row has it, and the places after it. -/
def readCell {α : Type} (wanted : Bool) (absent : α) (expected : Expected)
    (read : Reply → Except SearchError α) (items : List Reply) :
    Except SearchError (α × List Reply) :=
  if wanted then
    match items with
    | [] => .error (.unexpectedReply expected .endOfReply)
    | r :: rest => (read r).map fun a => (a, rest)
  else .ok (absent, items)

/-- A cell takes at most one place. -/
theorem length_readCell_le {α : Type} {wanted : Bool} {absent a : α} {expected : Expected}
    {read : Reply → Except SearchError α} {items rest : List Reply}
    (h : readCell wanted absent expected read items = .ok (a, rest)) :
  rest.length ≤ items.length
  := by
  unfold readCell at h
  split at h
  · split at h
    · cases h
    · rename_i r later
      cases hr : read r with
      | error e => rw [hr] at h; cases h
      | ok b =>
        rw [hr] at h
        cases h
        simp
  · cases h
    apply Nat.le_refl

/-- The row of a document whose id stands first, and the rows after it. -/
def readRow (o : SearchOptions) (id : Reply) (items : List Reply) :
    Except SearchError (Document × List Reply) :=
  match readText .documentId id with
  | .error e => .error e
  | .ok id =>
    match readCell o.withScores none .documentScore (fun r => (readScore r).map some) items with
    | .error e => .error e
    | .ok (score, items) =>
      match readCell o.withPayloads none .documentPayload readPayload items with
      | .error e => .error e
      | .ok (payload, items) =>
        match readCell (!o.noContent) [] .fieldArray readContent items with
        | .error e => .error e
        | .ok (fields, items) => .ok (⟨id, score, payload, fields⟩, items)

/-- A row leaves no more places than there were after its id. -/
theorem length_readRow_le {o : SearchOptions} {id : Reply} {items rest : List Reply}
    {d : Document} (h : readRow o id items = .ok (d, rest)) :
  rest.length ≤ items.length
  := by
  unfold readRow at h
  split at h
  · cases h
  · split at h
    · cases h
    · rename_i hscore
      split at h
      · cases h
      · rename_i hpayload
        split at h
        · cases h
        · rename_i hfields
          cases h
          have h₁ := length_readCell_le hscore
          have h₂ := length_readCell_le hpayload
          have h₃ := length_readCell_le hfields
          omega

/-- The rows of a page. -/
def readRows (o : SearchOptions) : List Reply → Except SearchError (List Document)
  | [] => .ok []
  | id :: items =>
    match _hrow : readRow o id items with
    | .error e => .error e
    | .ok (d, rest) => (readRows o rest).map (d :: ·)
termination_by items => items.length
decreasing_by
  have := length_readRow_le _hrow
  simp only [List.length_cons]
  omega

/-- The results that a reply to a search with the given options holds. -/
def SearchResults.ofReply (o : SearchOptions) : Reply → Except SearchError SearchResults
  | .array (.integer n :: rows) =>
    if 0 ≤ n then (readRows o rows).map fun documents => ⟨n.toNat, documents⟩
    else .error (.unexpectedReply .resultCount (.reply (.integer n)))
  | .array (r :: _) => .error (.unexpectedReply .resultCount (.reply r))
  | .array [] => .error (.unexpectedReply .resultCount .emptyArray)
  | r => .error (.unexpectedReply .resultArray (.reply r))

/-! ### Keys and ids -/

/-- What every key of an index begins with. -/
def keyStem (keyPrefix : String) : String :=
  keyPrefix ++ ":"

/-- A key without the stem of the index, if it has it. -/
def stripStem (keyPrefix key : String) : String :=
  let stem := (keyStem keyPrefix).toList
  if stem.isPrefixOf key.toList then String.ofList (key.toList.drop stem.length) else key

namespace SearchResults

/-- The results with the stem of the index taken off the ids. -/
def stripIds (r : SearchResults) (keyPrefix : String) : SearchResults :=
  { r with documents := r.documents.map fun d => { d with id := stripStem keyPrefix d.id } }

/-- The ids on the page. -/
def ids (r : SearchResults) : List String :=
  r.documents.map Document.id

/-- The number of documents on the page. -/
def size (r : SearchResults) : Nat :=
  r.documents.length

/-- Whether the page is empty. -/
def isEmpty (r : SearchResults) : Bool :=
  r.documents.isEmpty

end SearchResults

/-! ### JSON form -/

/-- A document. -/
def Document.toJson (d : Document) : Json :=
  .object
    [ ("id", .string d.id),
      ("score", .ofOption .double d.score),
      ("payload", .ofOption .string d.payload),
      ("fields", .ofList (fun (k, v) => .texts [k, v]) d.fields) ]

/-- A page of results. -/
def SearchResults.toJson (r : SearchResults) : Json :=
  .object [("total", .count r.total), ("documents", .ofList Document.toJson r.documents)]

end FullText
