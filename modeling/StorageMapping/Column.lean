import StorageMapping.Source.TypeExpr

namespace StorageMapping

/-! Column types, and the field types that can be stored in them. -/

/-- What a column holds. -/
inductive ColumnType where
  | boolean
  | int8
  | int16
  | int32
  | int64
  | float32
  | float64
  | string
  | byteArray
deriving DecidableEq, Repr

namespace ColumnType

/-- Primitive values cannot be absent by themselves. -/
def isPrimitive : ColumnType → Bool
  | .string => false
  | .byteArray => false
  | _ => true

end ColumnType

/-- A column type, and whether the field may be absent. -/
structure FieldType where
  column : ColumnType
  nullable : Bool
deriving DecidableEq, Repr

namespace FieldType

def isNonNullablePrimitive (type : FieldType) : Bool := type.column.isPrimitive && !type.nullable

end FieldType

/-- Tells the column representation of a type, or describes a type that has none. -/
abbrev Introspector := Source.TypeExpr → Except String FieldType

namespace Introspector

/-- Why a type has no column representation. -/
def reason (description : String) : String := "Unsupported type " ++ description

end Introspector

namespace Column

open Source

/-- The type inside any number of parentheses and invisible groups. -/
def peel : TypeExpr → TypeExpr
  | .paren inner => peel inner
  | .group inner => peel inner
  | type => type

/-- The last segment of a type that is a path, with no self type in front. -/
def lastSegment? (type : TypeExpr) : Option PathSegment :=
  match peel type with
  | .path _ segments => segments.getLast?
  | _ => none

/-- The only argument in angle brackets, where it is a type. -/
def singleArgument? (segment : PathSegment) : Option TypeExpr :=
  match segment.arguments with
  | some (.mk _ [.type type] _) => some type
  | _ => none

/-- The words that name a column type by themselves. -/
def scalarWords : List (String × ColumnType) :=
  [("bool", .boolean), ("i8", .int8), ("i16", .int16), ("i32", .int32), ("i64", .int64),
    ("f32", .float32), ("f64", .float64), ("String", .string)]

/-- Is this the element type of a byte array? -/
def isByte (type : TypeExpr) : Bool :=
  (lastSegment? type).any fun segment => segment.name.isWord "u8" && segment.arguments.isNone

/-- The column type of a type that is not optional. A word that names a column type has no
arguments. -/
def scalar? (type : TypeExpr) : Option ColumnType := do
  let segment ← lastSegment? type
  if segment.name.isWord "Vec" then
    if isByte (← singleArgument? segment) then some .byteArray else none
  else if segment.arguments.isSome then none
  else (scalarWords.find? fun (word, _) => segment.name.isWord word).map (·.2)

/-- The type inside an optional one. -/
def optional? (type : TypeExpr) : Option TypeExpr := do
  let segment ← lastSegment? type
  if segment.name.isWord "Option" then singleArgument? segment else none

/-- Classifies the field types that need no help: scalars, texts, byte arrays, and one of them made
optional. -/
def classify : Introspector := fun type =>
  let found :=
    match optional? type with
    | some inner => (scalar? inner).map fun column => ⟨column, true⟩
    | none => (scalar? type).map fun column => ⟨column, false⟩
  match found with
  | some fieldType => .ok fieldType
  | none => .error type.text

end Column

end StorageMapping
