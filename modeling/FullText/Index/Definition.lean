import FullText.Config.Basic
import FullText.Document.Results
import FullText.Schema.Basic

/-!
# Index definitions

Everything about an index except its schema: its name, what the keys of its
documents begin with, how they are stored, and the defaults of its searches.
-/

namespace FullText

/-- Everything about an index except its schema. -/
structure IndexDefinition where
  name : String
  /-- What keys begin with, without the colon after it. -/
  keyPrefix : Option String := none
  storage : StorageType := .hash
  /-- `none` keeps the stopwords of the server, the empty list disables them. -/
  stopwords : Option (List String) := none
  /-- The dialect of searches that set none. -/
  dialect : Option Nat := none
  deriving DecidableEq

namespace IndexDefinition

/-- The definition that takes over the settings of a client. -/
def ofConfig (name : String) (c : Config) : IndexDefinition where
  name := name
  storage := c.storage
  stopwords := c.stopwords
  dialect := c.dialect

/-- The clause of the key prefix. -/
def prefixArgs (d : IndexDefinition) : List Arg :=
  match d.keyPrefix with
  | some p => [.text "PREFIX", .ofNat 1, .text (keyStem p)]
  | none => []

/-- The clause of the stopwords. -/
def stopwordsArgs (d : IndexDefinition) : List Arg :=
  match d.stopwords with
  | some words => .text "STOPWORDS" :: Arg.counted words
  | none => []

/-- The arguments of the command that creates the index. -/
def createArgs (d : IndexDefinition) (s : Schema) : List Arg :=
  [.text d.name, .text "ON", .text d.storage.keyword] ++ d.prefixArgs ++ d.stopwordsArgs ++
    s.args

/-- The key of a document. -/
def documentKey (d : IndexDefinition) (id : String) : String :=
  match d.keyPrefix with
  | some p => keyStem p ++ id
  | none => id

/-- The results with ids in place of keys. -/
def stripIds (d : IndexDefinition) (r : SearchResults) : SearchResults :=
  match d.keyPrefix with
  | some p => r.stripIds p
  | none => r

/-- The JSON form of a definition. -/
def toJson (d : IndexDefinition) : Json :=
  .object
    [ ("name", .string d.name),
      ("prefix", .ofOption .string d.keyPrefix),
      ("storage_type", .string d.storage.keyword),
      ("stopwords", .ofOption .texts d.stopwords),
      ("dialect", .ofOption .count d.dialect) ]

end IndexDefinition

end FullText
