import FullText.Proofs.Index.Commands
import Mathlib.Data.List.Forall2
import Mathlib.Logic.Function.Basic

/-!
# Ids and keys

Outside an index a document goes by its id, and on the server by its key, which is the
id after the stem of the index.  The stem is written out in three places: when the index
is created, when a document is addressed, and when the keys of a page of results are
turned into ids.  `Index.keys_match` says that the three agree, and that nothing else
is lost or changed on the way.

The stem comes off at most once, so ids may begin with it, or repeat it.
-/

namespace FullText

namespace IndexDefinition

/-- What every key of the index begins with. -/
def stem (d : IndexDefinition) : String :=
  (d.keyPrefix.map keyStem).getD ""

/-- The id of a key. -/
def stripId (d : IndexDefinition) (key : String) : String :=
  d.keyPrefix.elim key fun p => stripStem p key

/-- A document with its key in place of the id. -/
def keyed (d : IndexDefinition) (x : Document) : Document :=
  { x with id := d.documentKey x.id }

/-- A document of a reply, and the document that it is turned into: the one of which it
has the key, or the same if it does not carry the stem. -/
inductive StripsTo (d : IndexDefinition) : Document → Document → Prop where
  | carried (x : Document) : d.StripsTo (d.keyed x) x
  | bare {x : Document} (h : ¬ d.stem.toList <+: x.id.toList) : d.StripsTo x x

/-- The stem that the arguments of a creation announce. -/
def announcedStem? : List Arg → Option String
  | _ :: _ :: _ :: .text "PREFIX" :: _ :: .text stem :: _ => some stem
  | _ => none

end IndexDefinition

/-! ### The stem of a key -/

theorem stripStem_append (p id : String) :
  stripStem p (keyStem p ++ id) = id
  := by
  have hstem : (keyStem p).toList.isPrefixOf (keyStem p ++ id).toList := by
    apply List.isPrefixOf_iff_prefix.mpr
    rw [String.toList_append]
    apply List.prefix_append
  rw [stripStem, if_pos hstem, String.toList_append, List.drop_left, String.ofList_toList]

example : stripStem "doc" "doc:doc:1" = "doc:1" := by decide

theorem stripStem_of_bare {p key : String} (h : ¬ (keyStem p).toList <+: key.toList) :
  stripStem p key = key
  := by
  rw [stripStem, if_neg]
  intro hcarried
  apply h
  apply List.isPrefixOf_iff_prefix.mp hcarried

namespace IndexDefinition

variable (d : IndexDefinition)

theorem documentKey_eq (id : String) :
  d.documentKey id = d.stem ++ id
  := by
  rw [documentKey, stem]
  cases d.keyPrefix with
  | none => rw [Option.map_none, Option.getD_none, String.empty_append]
  | some p => rfl

/-- A creation announces the stem if the index has a key prefix. -/
theorem announcedStem?_createArgs (s : Schema) :
  announcedStem? (d.createArgs s) = d.keyPrefix.map fun _ => d.stem
  := by
  rw [createArgs, prefixArgs, stopwordsArgs, stem]
  cases d.keyPrefix with
  | some p => rfl
  | none =>
    cases d.stopwords with
    | none => rfl
    | some words => rfl

/-- Keys of different ids are different. -/
theorem documentKey_injective :
  Function.Injective d.documentKey
  := by
  intro id id' h
  rw [documentKey_eq, documentKey_eq] at h
  apply (String.append_right_inj d.stem).mp h

theorem stripId_documentKey (id : String) :
  d.stripId (d.documentKey id) = id
  := by
  rw [stripId, documentKey]
  cases d.keyPrefix with
  | none => rfl
  | some p => apply stripStem_append

/-- A key that does not carry the stem is an id already. -/
theorem stripId_of_bare {key : String} (h : ¬ d.stem.toList <+: key.toList) :
  d.stripId key = key
  := by
  rw [stem] at h
  rw [stripId]
  cases hp : d.keyPrefix with
  | none => rfl
  | some p =>
    rw [hp] at h
    apply stripStem_of_bare h

/-! ### The keys of a page -/

/-- Only the ids of a page are changed, each on its own. -/
theorem stripIds_eq (r : SearchResults) :
  d.stripIds r = ⟨r.total, r.documents.map fun x => { x with id := d.stripId x.id }⟩
  := by
  rw [stripIds]
  cases hp : d.keyPrefix with
  | none =>
    have hid (key : String) : d.stripId key = key := by rw [stripId, hp]; rfl
    simp only [hid, List.map_id']
  | some p =>
    have hid (key : String) : d.stripId key = stripStem p key := by rw [stripId, hp]; rfl
    simp only [hid]
    rfl

theorem stripsTo_stripId (x : Document) :
  d.StripsTo x { x with id := d.stripId x.id }
  := by
  by_cases h : d.stem.toList <+: x.id.toList
  · obtain ⟨id, hid⟩ := h
    have hkey : x.id = d.documentKey (String.ofList id) := by
      rw [documentKey_eq, ← String.toList_inj, String.toList_append, String.toList_ofList, hid]
    have hx : x = d.keyed { x with id := String.ofList id } := by
      rw [keyed, ← hkey]
    rw [hkey, stripId_documentKey]
    nth_rewrite 1 [hx]
    apply StripsTo.carried
  · rw [stripId_of_bare d h]
    apply StripsTo.bare h

/-- Every document of a page is turned into the one of which it has the key. -/
theorem stripsTo_stripIds (r : SearchResults) :
  List.Forall₂ d.StripsTo r.documents (d.stripIds r).documents
  := by
  rw [stripIds_eq, List.forall₂_map_right_iff, List.forall₂_same]
  intro x _
  apply stripsTo_stripId

/-- A page of keys is turned into the page of their ids. -/
theorem stripIds_keyed (total : Nat) (documents : List Document) :
  d.stripIds ⟨total, documents.map d.keyed⟩ = ⟨total, documents⟩
  := by
  have hkeyed (x : Document) : { d.keyed x with id := d.stripId (d.keyed x).id } = x := by
    rw [keyed, stripId_documentKey]
  rw [stripIds_eq, List.map_map]
  simp only [Function.comp_def, hkeyed, List.map_id']

end IndexDefinition

/-! ### The keys of commands -/

/-- The keys that a command is about. -/
def Call.keys : Call → List Arg
  | ⟨"DEL", keys⟩ => keys
  | ⟨"HSET", key :: _⟩ => [key]
  | ⟨"HGETALL", key :: _⟩ => [key]
  | ⟨"JSON.SET", key :: _⟩ => [key]
  | ⟨"JSON.GET", key :: _⟩ => [key]
  | _ => []

/-- The operations on a single document. -/
inductive DocumentCommand where
  | add (fields : List (String × DocumentValue))
  | get
  | delete

/-- The operation on the document of an id. -/
def DocumentCommand.operation (id : String) : DocumentCommand → Operation
  | .add fields => .add id fields
  | .get => .get id
  | .delete => .delete id

/-- An operation on a document is about its key alone. -/
theorem DocumentCommand.keys_call (ix : Index) (id : String) (command : DocumentCommand) :
  ((command.operation id).call ix).keys = [.text (ix.definition.documentKey id)]
  := by
  cases command with
  | delete => rfl
  | add fields =>
    rw [operation, Operation.call]
    cases ix.definition.storage with
    | hash => rfl
    | json => rfl
  | get =>
    rw [operation, Operation.call]
    cases ix.definition.storage with
    | hash => rfl
    | json => rfl

namespace Index

/-- The keys of an index match the ids of its documents. -/
structure KeysMatch (ix : Index) : Prop where
  /-- The creation announces the stem, if the index has a key prefix. -/
  announced (s : Schema) :
    IndexDefinition.announcedStem? (ix.definition.createArgs s)
      = ix.definition.keyPrefix.map fun _ => ix.definition.stem
  /-- A key is the stem and the id. -/
  key_eq (id : String) : ix.definition.documentKey id = ix.definition.stem ++ id
  /-- No two documents have the same key. -/
  injective : Function.Injective ix.definition.documentKey
  /-- The operations on a document send one command, about its key alone, unless they are
  refused. -/
  addressed (id : String) (command : DocumentCommand) (s : Session) :
    ∃ call : Call, call.keys = [.text (ix.definition.documentKey id)] ∧
      (ix.perform (command.operation id) s).2.2.channel.calls
        = s.channel.calls ++ if ((command.operation id).refusal? ix).isSome then [] else [call]
  /-- A search gives the page that the reply holds, with the stem taken off. -/
  searched (q : Query) (r : Reply) (s : Session) :
    (ix.perform (.search q) (s.answering (.ok r))).1
      = (SearchResults.ofReply (ix.queryOptions q) r).map
        fun results => .results (ix.definition.stripIds results)
  /-- So does a search with options of its own. -/
  searchedText (text : String) (o : SearchOptions) (r : Reply) (s : Session) :
    (ix.perform (.searchText text o) (s.answering (.ok r))).1
      = (SearchResults.ofReply o r).map
        fun results => .results (ix.definition.stripIds results)
  /-- A page of keys becomes the page of their ids. -/
  recovered (total : Nat) (documents : List Document) :
    ix.definition.stripIds ⟨total, documents.map ix.definition.keyed⟩ = ⟨total, documents⟩
  /-- The total stays, and each document is turned into the one of which it has the key,
  or stays too if it does not carry the stem. -/
  stripped (r : SearchResults) :
    (ix.definition.stripIds r).total = r.total ∧
      List.Forall₂ ix.definition.StripsTo r.documents (ix.definition.stripIds r).documents

/-- Keys match ids in every index, whatever its key prefix. -/
theorem keys_match (ix : Index) :
  ix.KeysMatch
  where
  announced := ix.definition.announcedStem?_createArgs
  key_eq := ix.definition.documentKey_eq
  injective := ix.definition.documentKey_injective
  addressed id command s :=
    ⟨(command.operation id).call ix, command.keys_call ix id,
      ix.calls_perform (command.operation id) s⟩
  searched _ r s := answer_perform_answering rfl s (.ok r)
  searchedText _ _ r s := answer_perform_answering rfl s (.ok r)
  recovered := ix.definition.stripIds_keyed
  stripped r := ⟨by rw [IndexDefinition.stripIds_eq], ix.definition.stripsTo_stripIds r⟩

end Index

end FullText
