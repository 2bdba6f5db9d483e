import FullText.Number.Binary

/-!
# JSON values

Numbers keep the kind that they were made of: an integer, or a binary value of one
of the two formats, since the kind decides how a number is written.
-/

namespace FullText

/-- A JSON value.  The members of an object stand in the order in which they are
written. -/
inductive Json where
  | null
  | bool (value : Bool)
  | integer (value : Int)
  | double (value : Binary64)
  | single (value : Binary32)
  | string (value : String)
  | array (items : List Json)
  | object (members : List (String × Json))

namespace Json

/-- A value or `null`. -/
def ofOption {α : Type} (f : α → Json) (x : Option α) : Json :=
  (x.map f).getD .null

/-- An array of the images of a list. -/
def ofList {α : Type} (f : α → Json) (xs : List α) : Json :=
  .array (xs.map f)

/-- A count. -/
def count (n : Nat) : Json :=
  .integer n

/-- An array of texts. -/
def texts (xs : List String) : Json :=
  ofList .string xs

/-- A value tagged with the name of its kind. -/
def tagged (tag : String) (value : Json) : Json :=
  .object [(tag, value)]

/-- Put a member into an object kept in ascending order of its names; a member of
the same name is replaced. -/
def insertMember (name : String) (value : Json) : List (String × Json) → List (String × Json)
  | [] => [(name, value)]
  | (k, v) :: members =>
    if name < k then (name, value) :: (k, v) :: members
    else if name = k then (name, value) :: members
    else (k, v) :: insertMember name value members

/-- The object with the given members in ascending order of their names, the last
of several members of one name. -/
def sortedObject (members : List (String × Json)) : Json :=
  .object (members.foldl (fun acc (name, value) => insertMember name value acc) [])

end Json

end FullText
