import FullText.Number.Style

/-!
# Vector fields

The options of a field that holds vectors.  Element type, dimension and distance
metric are mandatory; of the others, some belong to one index algorithm only.
`VectorOptions.fault?` is the first attribute that may not stand as it does.
-/

namespace FullText

/-- How vectors are indexed. -/
inductive VectorAlgorithm where
  | flat
  | hnsw
  deriving DecidableEq

/-- The format of the elements of stored vectors. -/
inductive ElementType where
  | float32
  | float64
  deriving DecidableEq

/-- How the distance of two vectors is measured. -/
inductive DistanceMetric where
  | euclidean
  | innerProduct
  | cosine
  deriving DecidableEq

/-- The keyword of an algorithm. -/
def VectorAlgorithm.keyword : VectorAlgorithm → String
  | .flat => "FLAT"
  | .hnsw => "HNSW"

/-- The keyword of an element type. -/
def ElementType.keyword : ElementType → String
  | .float32 => "FLOAT32"
  | .float64 => "FLOAT64"

/-- The keyword of a metric. -/
def DistanceMetric.keyword : DistanceMetric → String
  | .euclidean => "L2"
  | .innerProduct => "IP"
  | .cosine => "COSINE"

/-- A text with its ASCII letters in upper case. -/
def upperCase (s : String) : String :=
  String.ofList (s.toList.map Char.toUpper)

/-- The first value whose keyword is `s` up to the case of ASCII letters. -/
def ofKeyword? {α : Type} (keyword : α → String) (values : List α) (s : String) : Option α :=
  values.find? fun a => keyword a == upperCase s

/-- The algorithm of a keyword in any case. -/
def VectorAlgorithm.ofText? (s : String) : Option VectorAlgorithm :=
  ofKeyword? keyword [.flat, .hnsw] s

/-- The element type of a keyword in any case. -/
def ElementType.ofText? (s : String) : Option ElementType :=
  ofKeyword? keyword [.float32, .float64] s

/-- The metric of a keyword in any case. -/
def DistanceMetric.ofText? (s : String) : Option DistanceMetric :=
  ofKeyword? keyword [.euclidean, .innerProduct, .cosine] s

/-- The attributes of a vector field. -/
inductive VectorAttribute where
  | algorithm
  | type
  | dim
  | distanceMetric
  | initialCap
  | blockSize
  | m
  | efConstruction
  | efRuntime
  | epsilon
  deriving DecidableEq

/-- The keyword of an attribute. -/
def VectorAttribute.keyword : VectorAttribute → String
  | .algorithm => "ALGORITHM"
  | .type => "TYPE"
  | .dim => "DIM"
  | .distanceMetric => "DISTANCE_METRIC"
  | .initialCap => "INITIAL_CAP"
  | .blockSize => "BLOCK_SIZE"
  | .m => "M"
  | .efConstruction => "EF_CONSTRUCTION"
  | .efRuntime => "EF_RUNTIME"
  | .epsilon => "EPSILON"

/-- Why an attribute may not stand as it does. -/
inductive AttributeFault where
  | missing
  | zeroDimension
  | unsupported (algorithm : VectorAlgorithm)
  deriving DecidableEq

/-- The words for a fault. -/
def AttributeFault.reason : AttributeFault → String
  | .missing => "missing"
  | .zeroDimension => "dimension must be greater than zero"
  | .unsupported algorithm => "not supported by " ++ algorithm.keyword

/-- The options of a vector field. -/
structure VectorOptions where
  algorithm : VectorAlgorithm
  elementType : ElementType
  dim : Nat
  metric : DistanceMetric
  initialCap : Option Nat := none
  blockSize : Option Nat := none
  m : Option Nat := none
  efConstruction : Option Nat := none
  efRuntime : Option Nat := none
  epsilon : Option Binary64 := none
  deriving DecidableEq

namespace VectorOptions

/-- The attributes that are set and belong to another algorithm. -/
def misplaced (o : VectorOptions) : List VectorAttribute :=
  let set (given : Bool) (attr : VectorAttribute) : List VectorAttribute :=
    if given then [attr] else []
  match o.algorithm with
  | .flat =>
    set o.m.isSome .m ++ set o.efConstruction.isSome .efConstruction ++
      set o.efRuntime.isSome .efRuntime ++ set o.epsilon.isSome .epsilon
  | .hnsw => set o.blockSize.isSome .blockSize

/-- The first attribute that may not stand as it does, and why. -/
def fault? (o : VectorOptions) : Option (VectorAttribute × AttributeFault) :=
  if o.dim = 0 then some (.dim, .zeroDimension)
  else o.misplaced.head?.map fun attr => (attr, .unsupported o.algorithm)

/-- The attributes with their values, in the order of the schema clause. -/
def attributes (o : VectorOptions) : List (VectorAttribute × String) :=
  let given (attr : VectorAttribute) (value : Option Nat) :
      List (VectorAttribute × String) :=
    (value.map fun n => (attr, toString n)).toList
  [ (.type, o.elementType.keyword), (.dim, toString o.dim),
    (.distanceMetric, o.metric.keyword) ] ++
    given .initialCap o.initialCap ++ given .blockSize o.blockSize ++ given .m o.m ++
    given .efConstruction o.efConstruction ++ given .efRuntime o.efRuntime ++
    (o.epsilon.map fun x => (.epsilon, x.text)).toList

end VectorOptions

end FullText
