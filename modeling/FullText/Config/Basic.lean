/-!
# Configuration

The settings that a client starts from: the address of the server, and what the
definitions of new indexes take over.
-/

namespace FullText

/-- How the documents of an index are stored. -/
inductive StorageType where
  /-- A hash for each document. -/
  | hash
  /-- A JSON document under each key. -/
  | json
  deriving DecidableEq

/-- The keyword of a storage type. -/
def StorageType.keyword : StorageType → String
  | .hash => "HASH"
  | .json => "JSON"

/-- The settings of a client. -/
structure Config where
  url : String := "redis://127.0.0.1:6379"
  storage : StorageType := .hash
  /-- `none` keeps the stopwords of the server, the empty list disables them. -/
  stopwords : Option (List String) := none
  /-- `none` keeps the query dialect of the server. -/
  dialect : Option Nat := none
  deriving DecidableEq

end FullText
