import FullText.Config.Basic
import FullText.Json.Skip

/-!
# Reading a configuration

A configuration is a JSON object whose members are all optional, or an array of its
settings in their order.  Unknown members are skipped; a setting given twice is an
error.
-/

namespace FullText

namespace Config

/-- What is read at the beginning of a text, and the text after it. -/
abbrev Step (α : Type) := List Char → Except JsonError (α × List Char)

/-- The error of a value that stands where something else is expected.  A value whose
form is wrong has the error of its form. -/
def wrongType (expected : String) (cs : List Char) : JsonError :=
  match cs with
  | '[' :: _ => .invalidType .sequence expected
  | '\x7b' :: _ => .invalidType .map expected
  | cs =>
    match Json.readScalar cs with
    | .error e => e
    | .ok (.null, _) => .invalidType .null expected
    | .ok (.bool b, _) => .invalidType (.bool b) expected
    | .ok (.integer n, _) => .invalidType (.integer n) expected
    | .ok (.double x, _) => .invalidType (.float x) expected
    | .ok (.string s, _) => .invalidType (.string s) expected
    | .ok _ => .expectedValue

/-- A string. -/
def readText : Step String := fun cs =>
  match Json.skipSpace cs with
  | '"' :: cs => (Json.readString cs).map fun (s, rest) => (String.ofList s, rest)
  | cs => .error (wrongType "a string" cs)

/-- A natural number below 2^32. -/
def readSmall : Step Nat := fun cs =>
  match Json.skipSpace cs with
  | [] => .error .endInValue
  | c :: cs =>
    if c = '-' ∨ c.isDigit then
      match (if c = '-' then Json.readNumber true cs else Json.readNumber false (c :: cs)) with
      | .error e => .error e
      | .ok (.integer n, rest) =>
        if 0 ≤ n ∧ n < 4294967296 then .ok (n.toNat, rest)
        else .error (.invalidValue (.integer n) "u32")
      | .ok (.float x, _) => .error (.invalidType (.float x) "u32")
    else .error (wrongType "u32" (c :: cs))

/-- `null`, or a value. -/
def readOption {α : Type} (read : Step α) : Step (Option α) := fun cs =>
  match Json.skipSpace cs with
  | 'n' :: cs => (Json.readWord ['u', 'l', 'l'] cs).map (none, ·)
  | cs => (read cs).map fun (a, rest) => (some a, rest)

/-- The strings of an array up to its end. -/
def readTextItems : Nat → Bool → Step (List String)
  | 0, _, _ => .error .endInList
  | steps + 1, first, cs => do
    match ← Json.nextItem first cs with
    | none => return ([], cs)
    | some cs =>
      let (s, cs) ← readText cs
      let (rest, cs) ← readTextItems steps false cs
      return (s :: rest, cs)

/-- An array of strings. -/
def readTexts : Step (List String) := fun cs =>
  match Json.skipSpace cs with
  | [] => .error .endInValue
  | '[' :: cs => do
    let (texts, cs) ← readTextItems (Json.stepBound cs) true cs
    let cs ← Json.endList cs
    return (texts, cs)
  | cs => .error (wrongType "a sequence" cs)

/-- The storage type of a keyword. -/
def storageOf (name : String) : Except JsonError StorageType :=
  if name = "HASH" then .ok .hash
  else if name = "JSON" then .ok .json
  else .error (.unknownVariant name ("HASH", "JSON"))

/-- A storage type: its keyword, or an object that has the keyword as its only name
and `null` as its value. -/
def readStorage : Step StorageType := fun cs =>
  match Json.skipSpace cs with
  | [] => .error .endInValue
  | '"' :: cs => do
    let (s, cs) ← Json.readString cs
    let t ← storageOf (String.ofList s)
    return (t, cs)
  | '\x7b' :: cs => do
    match ← Json.nextName true cs with
    | none => .error .expectedValue
    | some (name, cs) =>
      let t ← storageOf name
      let cs ← Json.readColon cs
      match Json.skipSpace cs with
      | 'n' :: cs =>
        let cs ← Json.readWord ['u', 'l', 'l'] cs
        match Json.skipSpace cs with
        | [] => .error .endInObject
        | '\x7d' :: cs => return (t, cs)
        | _ => .error .expectedValue
      | cs => .error (wrongType "unit" cs)
  | _ => .error .expectedValue

/-- A configuration while it is read: the settings that were given. -/
structure Given where
  url : Option String := none
  storage : Option StorageType := none
  stopwords : Option (Option (List String)) := none
  dialect : Option (Option Nat) := none

/-- The configuration of the settings that were given, the others at their defaults. -/
def Given.config (g : Given) : Config :=
  let start : Config := {}
  { url := g.url.getD start.url
    storage := g.storage.getD start.storage
    stopwords := g.stopwords.getD start.stopwords
    dialect := g.dialect.getD start.dialect }

/-- A setting that may be given once. -/
def once {α : Type} (name : String) (given : Option α) (read : Step α)
    (set : Option α → Given) : Step Given := fun cs =>
  if given.isSome then .error (.duplicateField name)
  else do
    let cs ← Json.readColon cs
    let (a, cs) ← read cs
    return (set (some a), cs)

/-- The member of a name, at the text after the name. -/
def readMember (g : Given) (name : String) : Step Given :=
  if name = "redis_url" then
    once name g.url readText fun url => { g with url }
  else if name = "storage_type" then
    once name g.storage readStorage fun storage => { g with storage }
  else if name = "stopwords" then
    once name g.stopwords (readOption readTexts) fun stopwords => { g with stopwords }
  else if name = "dialect" then
    once name g.dialect (readOption readSmall) fun dialect => { g with dialect }
  else fun cs => do
    let cs ← Json.readColon cs
    let cs ← Json.skipValue (Json.stepBound cs) cs
    return (g, cs)

/-- The members of an object up to its end. -/
def readMembers : Nat → Bool → Given → Step Given
  | 0, _, _, _ => .error .endInObject
  | steps + 1, first, g, cs => do
    match ← Json.nextName first cs with
    | none => return (g, cs)
    | some (name, cs) =>
      let (g, cs) ← readMember g name cs
      readMembers steps false g cs

/-- The next setting of an array, if the array goes on. -/
def readNext {α : Type} (first : Bool) (read : Step α) : Step (Option α) := fun cs => do
  match ← Json.nextItem first cs with
  | none => return (none, cs)
  | some cs =>
    let (a, cs) ← read cs
    return (some a, cs)

/-- The settings of an array in their order. -/
def readItems : Step Given := fun cs => do
  let (url, cs) ← readNext true readText cs
  let (storage, cs) ← readNext url.isNone readStorage cs
  let (stopwords, cs) ← readNext url.isNone (readOption readTexts) cs
  let (dialect, cs) ← readNext url.isNone (readOption readSmall) cs
  return ({ url, storage, stopwords, dialect }, cs)

/-- A configuration at the beginning of a text. -/
def readPart : Step Config := fun cs =>
  match Json.skipSpace cs with
  | [] => .error .endInValue
  | '[' :: cs => do
    let (g, cs) ← readItems cs
    let cs ← Json.endList cs
    return (g.config, cs)
  | '\x7b' :: cs => do
    let (g, cs) ← readMembers (Json.stepBound cs) true {} cs
    let cs ← Json.endObject cs
    return (g.config, cs)
  | cs => .error (wrongType "struct SearchClientConfig" cs)

/-- The configuration that a text is. -/
def read (s : String) : Except JsonError Config := do
  let (c, rest) ← readPart s.toList
  Json.endText rest
  return c

end Config

end FullText
