import FullText.Proofs.Document.Grammar
import FullText.Proofs.Index.Keys

/-!
# Searching a server

A server is a function from commands to answers.  `serve` is one that holds documents
under their keys.  It knows nothing of the query that a search was made from: which
places the rows of its reply have, it reads off the arguments that it is sent.

`Index.ask_search` says that a search and such a server understand each other: the
search finds the documents that the server has, under their ids, and of each the parts
that the query asks for.
-/

namespace FullText

/-! ### A server -/

/-- What a server has of a document besides its key. -/
structure StoredDocument where
  /-- The text that the score is sent as. -/
  scoreText : String
  score : Binary64
  payload : Option String
  fields : List (String × String)
  isScore : Binary64.read? scoreText = some score

namespace StoredDocument

/-- The array of the fields, each name before its value. -/
def fieldsReply (x : StoredDocument) : Reply :=
  .array (x.fields.flatMap fun (name, value) => [.bulk name, .bulk value])

/-- The row of a document in the reply to a search with the given options. -/
def row (o : SearchOptions) (key : String) (x : StoredDocument) : List Reply :=
  .bulk key ::
    ((if o.withScores then [.bulk x.scoreText] else []) ++
      ((if o.withPayloads then [x.payload.elim .nil .bulk] else []) ++
        if o.noContent then [] else [x.fieldsReply]))

/-- The document that a search with the given options finds. -/
def found (o : SearchOptions) (id : String) (x : StoredDocument) : Document where
  id := id
  score := if o.withScores then some x.score else none
  payload := if o.withPayloads then x.payload else none
  fields := if o.noContent then [] else x.fields

end StoredDocument

/-- A server with documents under their keys, `total` of which match whatever is searched
for.  It knows no other command than the search. -/
def serve (total : Nat) (stored : List (String × StoredDocument)) (c : Call) : Answered :=
  if c.command = "FT.SEARCH" then
    match c.options? with
    | some view =>
      .ok (.array (.integer total :: stored.flatMap fun (key, x) => x.row view.others key))
    | none => .error (.server "syntax error")
  else .error (.server "unknown command")

/-- An operation, with the answer of a server to its command. -/
def Index.ask (ix : Index) (server : Call → Answered) (op : Operation) (s : Session) :
    Except SearchError Answer × Index × Session :=
  ix.perform op (s.answering (server (op.call ix)))

/-! ### What its rows hold -/

/-- Names and values in turn are pairs of them. -/
theorem Reply.arePairs_flatMap (fields : List (String × String)) :
  ArePairs Spells Spells (fields.flatMap fun (name, value) => [.bulk name, .bulk value]) fields
  := by
  induction fields with
  | nil => apply ArePairs.nil
  | cons field fields ih => apply ArePairs.cons (Spells.bulk _) (Spells.bulk _) ih

namespace StoredDocument

theorem isPayload_elim (payload : Option String) :
  Reply.IsPayload (payload.elim .nil .bulk) payload
  := by
  cases payload with
  | none => apply Reply.IsPayload.nil
  | some p => apply Reply.IsPayload.text (Reply.Spells.bulk p)

/-- The row of a document holds the parts of it that are asked for. -/
theorem isRow_row (o : SearchOptions) (key : String) (x : StoredDocument) :
  IsRow o (x.row o key) (x.found o key)
  := by
  apply IsRow.mk (Reply.Spells.bulk key)
  · cases o.withScores with
    | false => apply Reply.IsCell.absent
    | true => exact .present ⟨x.score, .bulk x.isScore, rfl⟩
  · cases o.withPayloads with
    | false => apply Reply.IsCell.absent
    | true => exact .present (isPayload_elim x.payload)
  · cases o.noContent with
    | false => exact .present (.array (Reply.arePairs_flatMap x.fields))
    | true => apply Reply.IsCell.absent

/-- Documents are found in the reply that has their rows. -/
theorem ofReply_rows (o : SearchOptions) (total : Nat) (stored : List (String × StoredDocument)) :
  SearchResults.ofReply o
      (.array (.integer total :: stored.flatMap fun (key, x) => x.row o key))
    = .ok ⟨total, stored.map fun (key, x) => x.found o key⟩
  := by
  apply ((verdict_ofReply o _).eq_ok_iff _).mpr
  use total, stored.map fun (key, x) => x.row o key
  constructor
  · rw [List.flatMap_def]
  constructor
  · apply Int.natCast_nonneg
  constructor
  · rfl
  · rw [List.forall₂_map_left_iff, List.forall₂_map_right_iff, List.forall₂_same]
    rintro ⟨key, x⟩ _
    apply isRow_row

/-- Nearest neighbours and the dialect of the index change nothing about what is found. -/
theorem found_queryOptions (ix : Index) (q : Query) (id : String) (x : StoredDocument) :
  x.found (ix.queryOptions q) id = x.found q.options id
  := by
  rw [Index.queryOptions, Query.effectiveOptions]
  cases q.neighbours with
  | none => rfl
  | some n => rfl

end StoredDocument

/-! ### Search and server -/

/-- The server answers a search as its query asks for. -/
theorem serve_search (ix : Index) (q : Query) (total : Nat)
    (stored : List (String × StoredDocument)) :
  serve total stored ((Operation.search q).call ix)
    = .ok (.array (.integer total ::
        stored.flatMap fun (key, x) => x.row (ix.queryOptions q) key))
  := by
  rw [serve, if_pos (by rw [Operation.call]), Operation.options?_search]
  rfl

/-- A search sends its command, and from a server that has documents under the keys of
the index gives the total and these documents, in their order and under their ids.  They
have a score or a payload only if the query asks for these, and no fields if it asks for
ids alone. -/
theorem Index.ask_search (ix : Index) (q : Query) (total : Nat)
    (documents : List (String × StoredDocument)) (s : Session) :
  let stored := documents.map fun (id, x) => (ix.definition.documentKey id, x)
  (ix.ask (serve total stored) (.search q) s).2.2.channel.calls
      = s.channel.calls ++ [(Operation.search q).call ix] ∧
    (ix.ask (serve total stored) (.search q) s).1
      = .ok (.results ⟨total, documents.map fun (id, x) => x.found q.options id⟩)
  := by
  intro stored
  constructor
  · apply calls_perform
  · have hkeyed :
      stored.map (fun (key, x) => x.found (ix.queryOptions q) key)
        = (documents.map fun (id, x) => x.found q.options id).map ix.definition.keyed
      := by
      rw [List.map_map, List.map_map]
      apply List.map_congr_left
      rintro ⟨id, x⟩ _
      apply StoredDocument.found_queryOptions
    have hread : (Operation.search q).read ix (.array (.integer total ::
          stored.flatMap fun (key, x) => x.row (ix.queryOptions q) key))
        = .ok (.results ⟨total, documents.map fun (id, x) => x.found q.options id⟩)
      := by
      rw [Operation.read, Operation.readResults, StoredDocument.ofReply_rows, hkeyed, Except.map,
        IndexDefinition.stripIds_keyed]
    rw [ask, answer_perform_answering rfl, serve_search]
    apply hread

/-! ### Nearest neighbours with scores and payloads -/

namespace StoredDocument

/-- A document with a score between two integers, and a payload. -/
def lamp : StoredDocument where
  scoreText := "1.5"
  score := ⟨0x3FF8000000000000⟩
  payload := some "bright"
  fields := [("title", "lamp"), ("price", "5")]
  isScore := by decide +kernel

/-- A document with a score that is not finite, and without a payload. -/
def shade : StoredDocument where
  scoreText := "inf"
  score := ⟨0x7FF0000000000000⟩
  payload := none
  fields := [("title", "shade")]
  isScore := by decide +kernel

end StoredDocument

/-- The nearest neighbours in an index with a key prefix are found with their scores and
payloads, the second under an id that begins like a key. -/
theorem Index.neighbours_found :
  let ix : Index := ⟨{ name := "idx", keyPrefix := some "doc", dialect := some 3 }, .empty⟩
  let near : Neighbours := ⟨"v", 2, [⟨0x3F800000⟩]⟩
  let o : SearchOptions := { withScores := true, withPayloads := true }
  let q : Query := { literal := some "lamp", options := o, neighbours := some near }
  let server := serve 7 [("doc:1", .lamp), ("doc:doc:2", .shade)]
  (ix.ask server (.search q) {}).2.2.channel.calls = [⟨"FT.SEARCH",
    [.text "idx", .text "(lamp)=>[KNN 2 @v $BLOB]", .text "WITHSCORES", .text "WITHPAYLOADS",
      .text "PARAMS", .ofNat 2, .text "BLOB", .blob [0x00, 0x00, 0x80, 0x3F],
      .text "DIALECT", .ofNat 2]⟩] ∧
  (ix.ask server (.search q) {}).1 = .ok (.results ⟨7,
    [⟨"1", some ⟨0x3FF8000000000000⟩, some "bright", [("title", "lamp"), ("price", "5")]⟩,
      ⟨"doc:2", some ⟨0x7FF0000000000000⟩, none, [("title", "shade")]⟩]⟩)
  := by
  intro ix near o q server
  have hfirst : ix.definition.documentKey "1" = "doc:1" := by decide
  have hsecond : ix.definition.documentKey "doc:2" = "doc:doc:2" := by decide
  have hsearch := ix.ask_search q 7 [("1", .lamp), ("doc:2", .shade)] {}
  simp only [List.map_cons, List.map_nil, hfirst, hsecond] at hsearch
  obtain ⟨hcalls, hanswer⟩ := hsearch
  constructor
  · rw [hcalls]
    decide +kernel
  · rw [hanswer]
    rfl

end FullText
