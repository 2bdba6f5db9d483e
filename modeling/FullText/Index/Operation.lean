import FullText.Document.Value
import FullText.Index.Definition
import FullText.Index.Session
import FullText.Query.Request

/-!
# Operations on an index

An operation is either refused before anything is sent, or sends exactly one command
and reads its reply.  `Operation.refusal?`, `Operation.call` and `Operation.read`
say which, and `Index.perform` puts them together.

The schema of an `Index` follows the server: a field is added to it when the server
has accepted the field.
-/

namespace FullText

/-- A handle on an index. -/
structure Index where
  definition : IndexDefinition
  schema : Schema

/-- An operation on an index. -/
inductive Operation where
  | add (id : String) (fields : List (String × DocumentValue))
  | delete (id : String)
  | get (id : String)
  | search (query : Query)
  /-- A search with a query string and options that are sent as given. -/
  | searchText (text : String) (options : SearchOptions)
  | info
  | drop (documents : Bool)
  | aggregate (text : String) (pipeline : List Arg)
  | explain (query : Query)
  | alter (field : Field)
  | spellcheck (text : String) (distance : Option Nat)
  | synonyms
  | addSynonyms (group : String) (terms : List String)
  | tagValues (field : String)
  | profile (query : Query) (limited : Bool)

/-- What an operation gives when it succeeds. -/
inductive Answer where
  | done
  /-- Whether there was something to delete. -/
  | existed (value : Bool)
  | document (value : Option Document)
  | results (value : SearchResults)
  | info (pairs : List (String × Reply))
  | text (value : String)
  | texts (values : List String)
  | reply (value : Reply)

namespace Index

/-- The options of a query as the index sends them: its own dialect where the query
asks for none. -/
def queryOptions (ix : Index) (q : Query) : SearchOptions :=
  let o := q.effectiveOptions
  { o with dialect := o.dialect.or ix.definition.dialect }

/-- The first value that may not be written to its field. -/
def valueFault? (ix : Index) (fields : List (String × DocumentValue)) : Option ValidationError :=
  fields.findSome? fun (name, value) =>
    match ix.schema.get? name with
    | some f => value.fault? f
    | none => none

/-- A document as arguments of a hash. -/
def hashArgs (ix : Index) (fields : List (String × DocumentValue)) : List Arg :=
  fields.flatMap fun (name, value) => [.text name, value.hashArg (ix.schema.get? name)]

/-- A document as a JSON object. -/
def body (fields : List (String × DocumentValue)) : Json :=
  .sortedObject (fields.map fun (name, value) => (name, value.toJson))

end Index

namespace Operation

/-- Why an operation is refused before anything is sent. -/
def refusal? (ix : Index) : Operation → Option SearchError
  | .add _ fields => (ix.valueFault? fields).map .validation
  | .alter f => (ix.schema.clash? f).map fun clash => .schema (.duplicateField clash)
  | _ => none

/-- The command of an operation. -/
def call (ix : Index) : Operation → Call
  | .add id fields =>
    let key := Arg.text (ix.definition.documentKey id)
    match ix.definition.storage with
    | .hash => ⟨"HSET", key :: ix.hashArgs fields⟩
    | .json => ⟨"JSON.SET", [key, .text "$", .text (Index.body fields).text]⟩
  | .delete id => ⟨"DEL", [.text (ix.definition.documentKey id)]⟩
  | .get id =>
    let key := Arg.text (ix.definition.documentKey id)
    match ix.definition.storage with
    | .hash => ⟨"HGETALL", [key]⟩
    | .json => ⟨"JSON.GET", [key]⟩
  | .search q =>
    ⟨"FT.SEARCH", .text ix.definition.name :: .text q.text :: (ix.queryOptions q).args⟩
  | .searchText text o => ⟨"FT.SEARCH", .text ix.definition.name :: .text text :: o.args⟩
  | .info => ⟨"FT.INFO", [.text ix.definition.name]⟩
  | .drop documents =>
    ⟨"FT.DROPINDEX", .text ix.definition.name :: Arg.flag documents "DD"⟩
  | .aggregate text pipeline =>
    ⟨"FT.AGGREGATE", .text ix.definition.name :: .text text :: pipeline⟩
  | .explain q =>
    ⟨"FT.EXPLAIN", .text ix.definition.name :: .text q.text ::
      Arg.option "DIALECT" ((ix.queryOptions q).dialect.map .ofNat)⟩
  | .alter f =>
    ⟨"FT.ALTER", .text ix.definition.name :: .text "SCHEMA" :: .text "ADD" :: f.args⟩
  | .spellcheck text distance =>
    ⟨"FT.SPELLCHECK", .text ix.definition.name :: .text text ::
      Arg.option "DISTANCE" (distance.map .ofNat)⟩
  | .synonyms => ⟨"FT.SYNDUMP", [.text ix.definition.name]⟩
  | .addSynonyms group terms =>
    ⟨"FT.SYNUPDATE", .text ix.definition.name :: .text group :: Arg.ofTexts terms⟩
  | .tagValues field => ⟨"FT.TAGVALS", [.text ix.definition.name, .text field]⟩
  | .profile q limited =>
    ⟨"FT.PROFILE", .text ix.definition.name :: .text "SEARCH" ::
      (Arg.flag limited "LIMITED" ++
        .text "QUERY" :: .text q.text :: (ix.queryOptions q).args)⟩

/-- The items of a reply that has to be an array. -/
def readItems (expected : Expected) (r : Reply) : Except SearchError (List Reply) :=
  match r.items? with
  | some items => .ok items
  | none => .error (.unexpectedReply expected .notAnArray)

/-- The document of an id, from the reply with its fields. -/
def readDocument (storage : StorageType) (id : String) (r : Reply) :
    Except SearchError (Option Document) :=
  match storage with
  | .hash => do
    let items ← readItems .fieldArray r
    if items.isEmpty then return none
    else
      let fields ← readPairs (readText .string) (readText .string) items
      return some ⟨id, none, none, fields⟩
  | .json =>
    match r with
    | .nil => .ok none
    | r => (readText .string r).map fun s => some ⟨id, none, none, [("$", s)]⟩

/-- The results of a search, with ids in place of keys. -/
def readResults (ix : Index) (o : SearchOptions) (r : Reply) : Except SearchError Answer :=
  (SearchResults.ofReply o r).map fun results => .results (ix.definition.stripIds results)

/-- What an operation gives, from the reply to its command. -/
def read (ix : Index) (op : Operation) (r : Reply) : Except SearchError Answer :=
  match op with
  | .add .. | .drop _ | .alter _ | .addSynonyms .. => .ok .done
  | .delete _ =>
    match r.integer? with
    | some n => .ok (.existed (decide (0 < n)))
    | none => .error (.unexpectedReply .integer (.reply r))
  | .get id => (readDocument ix.definition.storage id r).map .document
  | .search q => readResults ix (ix.queryOptions q) r
  | .searchText _ o => readResults ix o r
  | .info => do
    let items ← readItems .infoArray r
    let pairs ← readPairs (readText .string) .ok items
    return .info pairs
  | .explain _ => (readText .string r).map .text
  | .tagValues _ => do
    let items ← readItems .tagArray r
    let texts ← items.mapM (readText .string)
    return .texts texts
  | .aggregate .. | .spellcheck .. | .synonyms | .profile .. => .ok (.reply r)

/-- The name under which an operation on the index as a whole is counted. -/
def countedAs? : Operation → Option String
  | .drop _ => some "drop"
  | .alter _ => some "alter"
  | _ => none

/-- The metrics of a refused operation. -/
def refusalMetrics (ix : Index) : SearchError → List Metric
  | .validation _ => [.validationFailure ix.definition.name]
  | _ => []

/-- The metrics of an operation after its command was answered, besides those of the
command. -/
def answeredMetrics (op : Operation) (success : Bool) : List Metric :=
  (op.countedAs?.map fun name => .operation name success).toList

/-- The metrics of what an operation gives. -/
def answerMetrics : Answer → List Metric
  | .results r => [.results r.size]
  | _ => []

end Operation

namespace Index

/-- The index after the server has accepted an operation. -/
def after (ix : Index) : Operation → Index
  | .alter f =>
    match ix.schema.add f with
    | .ok schema => { ix with schema }
    | .error _ => ix
  | _ => ix

/-- What an operation gives, and the index and the session after it. -/
def perform (ix : Index) (op : Operation) (s : Session) :
    Except SearchError Answer × Index × Session :=
  match op.refusal? ix with
  | some e => (.error e, ix, (Operation.refusalMetrics ix e).foldl .record s)
  | none =>
    match s.send (op.call ix) with
    | (.error e, s) => (.error (.channel e), ix, (op.answeredMetrics false).foldl .record s)
    | (.ok r, s) =>
      let s := (op.answeredMetrics true).foldl .record s
      match op.read ix r with
      | .error e => (.error e, ix.after op, s)
      | .ok a => (.ok a, ix.after op, (Operation.answerMetrics a).foldl .record s)

/-- The operations of a run one after another: what each gives, and the index and the
session after the last. -/
def performAll (ix : Index) (s : Session) :
    List Operation → List (Except SearchError Answer) × Index × Session
  | [] => ([], ix, s)
  | op :: ops =>
    let (answer, ix, s) := ix.perform op s
    let (answers, ix, s) := performAll ix s ops
    (answer :: answers, ix, s)

/-! ### Creation -/

/-- The words of a server message that blame the schema. -/
def schemaWords : List String :=
  ["schema", "field", "argument"]

/-- Whether a text occurs in another one. -/
def occursIn (part : List Char) : List Char → Bool
  | [] => part.isEmpty
  | c :: cs => part.isPrefixOf (c :: cs) || occursIn part cs

/-- Whether a server message blames the schema, in any letter case.  Only ASCII
letters matter: no other character has a lower case that could stand inside one of
the words. -/
def blamesSchema (message : String) : Bool :=
  let text := message.toList.map Char.toLower
  schemaWords.any fun word => occursIn word.toList text

/-- The error of a failed creation. -/
def createError (name : String) : ChannelError → SearchError
  | .server message =>
    if blamesSchema message then .validation (.invalidSchema name message)
    else .channel (.server message)
  | e => .channel e

/-- The handle on a new index, and the session after its creation.  A schema without
fields is refused before anything is sent. -/
def create (d : IndexDefinition) (schema : Schema) (s : Session) :
    Except SearchError Index × Session :=
  if schema.isEmpty then
    (.error (.validation .emptySchema), s.record (.validationFailure d.name))
  else
    match s.send ⟨"FT.CREATE", d.createArgs schema⟩ with
    | (.ok _, s) => (.ok ⟨d, schema⟩, s.record (.operation "create" true))
    | (.error e, s) => (.error (createError d.name e), s.record (.operation "create" false))

end Index

end FullText
