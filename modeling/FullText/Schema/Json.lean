import FullText.Json.Text
import FullText.Schema.Basic

/-!
# Schemas as JSON values

The JSON form of fields and schemas.
-/

namespace FullText

/-- The name of a matcher. -/
def Phonetic.name : Phonetic → String
  | .english => "English"
  | .french => "French"
  | .portuguese => "Portuguese"
  | .spanish => "Spanish"

/-- The options of a text field. -/
def TextOptions.toJson (o : TextOptions) : Json :=
  .object
    [ ("weight", .ofOption .double o.weight),
      ("no_stem", .bool o.noStem),
      ("sortable", .bool o.sortable),
      ("no_index", .bool o.noIndex),
      ("phonetic", .ofOption (fun p => .string p.name) o.phonetic) ]

/-- The options of a tag field. -/
def TagOptions.toJson (o : TagOptions) : Json :=
  .object
    [ ("separator", .ofOption (fun c => .string (String.singleton c)) o.separator),
      ("case_sensitive", .bool o.caseSensitive),
      ("sortable", .bool o.sortable),
      ("no_index", .bool o.noIndex) ]

/-- The options of a numeric field. -/
def NumericOptions.toJson (o : NumericOptions) : Json :=
  .object [("sortable", .bool o.sortable), ("no_index", .bool o.noIndex)]

/-- The options of a geographic field. -/
def GeoOptions.toJson (o : GeoOptions) : Json :=
  .object [("no_index", .bool o.noIndex)]

/-- The options of a vector field. -/
def VectorOptions.toJson (o : VectorOptions) : Json :=
  .object
    [ ("algorithm", .string o.algorithm.keyword),
      ("vector_type", .string o.elementType.keyword),
      ("dim", .count o.dim),
      ("distance_metric", .string o.metric.keyword),
      ("initial_cap", .ofOption .count o.initialCap),
      ("block_size", .ofOption .count o.blockSize),
      ("m", .ofOption .count o.m),
      ("ef_construction", .ofOption .count o.efConstruction),
      ("ef_runtime", .ofOption .count o.efRuntime),
      ("epsilon", .ofOption .double o.epsilon) ]

/-- The kind of a field with its options. -/
def FieldKind.toJson : FieldKind → Json
  | .text o => .tagged "Text" o.toJson
  | .tag o => .tagged "Tag" o.toJson
  | .numeric o => .tagged "Numeric" o.toJson
  | .geo o => .tagged "Geo" o.toJson
  | .vector o => .tagged "Vector" o.toJson

/-- A field. -/
def Field.toJson (f : Field) : Json :=
  .object
    [ ("name", .string f.name), ("alias", .ofOption .string f.otherName),
      ("kind", f.kind.toJson) ]

/-- A schema. -/
def Schema.toJson (s : Schema) : Json :=
  .object [("fields", .ofList Field.toJson s.fields)]

end FullText
