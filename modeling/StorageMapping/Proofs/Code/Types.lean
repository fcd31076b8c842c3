import StorageMapping.Proofs.Code.Columns

namespace StorageMapping.Code

/-! # The values of a declared type

Which values a written type has follows from the word at its end and from its arguments. The
classification of types agrees: a value of a type that it accepts is one of the field type that it
answers. -/

open Source

variable {floats : Floats} {Foreign : Type}

/-- A type is a path with a segment at its end, perhaps in parentheses or invisible groups. -/
inductive EndsWith (segment : PathSegment) : TypeExpr → Prop where
  | path {rooted : Bool} {segments : List PathSegment} (last : segments.getLast? = some segment) :
      EndsWith segment (.path rooted segments)
  | paren {inner : TypeExpr} (inside : EndsWith segment inner) : EndsWith segment (.paren inner)
  | group {inner : TypeExpr} (inside : EndsWith segment inner) : EndsWith segment (.group inner)

/-- A type of this name without arguments. -/
def Named (word : String) (type : TypeExpr) : Prop :=
  ∃ position, EndsWith (.mk (.plain word) position none) type

/-- A type of this name with another type for its only argument. -/
def NamedOf (word : String) (argument type : TypeExpr) : Prop :=
  ∃ position colons trailing,
    EndsWith (.mk (.plain word) position (some (.mk colons [.type argument] trailing))) type

namespace Scalar

/-- Is this a value of a written type? -/
def Inhabits (type : TypeExpr) : Scalar floats → Prop
  | .boolean _ => Named "bool" type
  | .int8 _ => Named "i8" type
  | .int16 _ => Named "i16" type
  | .int32 _ => Named "i32" type
  | .int64 _ => Named "i64" type
  | .float32 _ => Named "f32" type
  | .float64 _ => Named "f64" type
  | .string _ => Named "String" type
  | .byteArray _ => ∃ byte, NamedOf "Vec" byte type ∧ Named "u8" byte

end Scalar

def FieldValue.Inhabits (type : TypeExpr) : FieldValue floats Foreign → Prop
  | .plain value => value.Inhabits type
  | .optional value =>
      ∃ inner, NamedOf "Option" inner type ∧ ∀ scalar ∈ value, scalar.Inhabits inner
  | .foreign _ => False

theorem EndsWith.lastSegment? {segment : PathSegment} {type : TypeExpr}
    (ends : EndsWith segment type) : Column.lastSegment? type = some segment := by
  induction ends with
  | path last => exact last
  | paren inside ih => exact ih
  | group inside ih => exact ih

theorem scalar?_of_named {word : String} {type : TypeExpr} (named : Named word type)
    (notVector : word ≠ "Vec") :
    Column.scalar? type = (Column.scalarWords.find? fun entry => word == entry.1).map (·.2) := by
  obtain ⟨position, ends⟩ := named
  rw [Column.scalar?, ends.lastSegment?]
  simp [PathSegment.name, PathSegment.arguments, Identifier.isWord, Identifier.plain, notVector]

theorem isByte_of_named {type : TypeExpr} (named : Named "u8" type) :
    Column.isByte type = true := by
  obtain ⟨position, ends⟩ := named
  rw [Column.isByte, ends.lastSegment?]
  rfl

theorem scalar?_of_inhabits {type : TypeExpr} {value : Scalar floats}
    (inhabits : value.Inhabits type) : Column.scalar? type = some value.columnType := by
  cases value with
  | byteArray value =>
      obtain ⟨byte, ⟨position, colons, trailing, ends⟩, named⟩ := inhabits
      rw [Column.scalar?, ends.lastSegment?]
      simp [PathSegment.name, Identifier.isWord, Identifier.plain, Column.singleArgument?,
        PathSegment.arguments, isByte_of_named named, Scalar.columnType]
  | _ => exact scalar?_of_named inhabits (by decide)

theorem optional?_of_named {word : String} {type : TypeExpr} (named : Named word type)
    (notOption : word ≠ "Option") : Column.optional? type = none := by
  obtain ⟨position, ends⟩ := named
  rw [Column.optional?, ends.lastSegment?]
  simp [PathSegment.name, Identifier.isWord, Identifier.plain, notOption]

/-- A value of a type that is not optional is not of an optional type either. -/
theorem optional?_of_inhabits {type : TypeExpr} {value : Scalar floats}
    (inhabits : value.Inhabits type) : Column.optional? type = none := by
  cases value with
  | byteArray value =>
      obtain ⟨byte, ⟨position, colons, trailing, ends⟩, named⟩ := inhabits
      rw [Column.optional?, ends.lastSegment?]
      simp [PathSegment.name, Identifier.isWord, Identifier.plain]
  | _ => exact optional?_of_named inhabits (by decide)

/-- The classification of a type has room for all values of the type. -/
theorem FieldValue.Inhabits.holds {type : TypeExpr} {fieldType : FieldType}
    {value : FieldValue floats Foreign} (inhabits : value.Inhabits type)
    (classified : Column.classify type = .ok fieldType) : fieldType.Holds value := by
  cases value with
  | foreign value => exact inhabits.elim
  | plain value =>
      simp only [Column.classify, optional?_of_inhabits inhabits, scalar?_of_inhabits inhabits,
        Option.map_some, Except.ok.injEq] at classified
      subst fieldType
      exact ⟨rfl, rfl⟩
  | optional value =>
      obtain ⟨inner, ⟨position, colons, trailing, ends⟩, inside⟩ := inhabits
      have optional : Column.optional? type = some inner := by
        rw [Column.optional?, ends.lastSegment?]
        simp [PathSegment.name, Identifier.isWord, Identifier.plain, Column.singleArgument?,
          PathSegment.arguments]
      simp only [Column.classify, optional] at classified
      cases scalar : Column.scalar? inner with
      | none => simp [scalar] at classified
      | some column =>
          simp only [scalar, Option.map_some, Except.ok.injEq] at classified
          subst fieldType
          refine ⟨rfl, fun present member => ?_⟩
          rw [scalar?_of_inhabits (inside present member)] at scalar
          exact Option.some.inj scalar

end StorageMapping.Code
