import StorageMapping.Round
import StorageMapping.Unit.Template

namespace StorageMapping

/-! What can be wrong with a round, and how each fault is reported. -/

namespace Processing

/-- Why a declaration or an element cannot be mapped. -/
inductive Problem where
  | notAStruct (kind : DeclarationKind) (qualifiedName : String)
  | missingLocator (qualifiedName : String) (operation : Option Operation)
  | notAField (kind : ElementKind) (name : String)
  | enclosingNotAStruct (name : String)
  | enclosingUnmarked (declaration : String)
  | privateField (name : String)
  | immutableField (name : String)
  | untyped (name : String)
  | unsupportedType (description : String)
  | skippedPrimitive (type : String)
  | unnamedColumn
  | orphan
  | duplicate (storageName : String)
  | noColumns
  | noKey
deriving DecidableEq, Repr

namespace Problem

def kind : Problem → DiagnosticKind
  | .notAStruct _ _ => .structural
  | .missingLocator _ _ => .invalidLocator
  | .notAField _ _ => .structural
  | .enclosingNotAStruct _ => .structural
  | .enclosingUnmarked _ => .structural
  | .privateField _ => .access
  | .immutableField _ => .access
  | .untyped _ => .unsupportedType
  | .unsupportedType _ => .unsupportedType
  | .skippedPrimitive _ => .conflictingOptions
  | .unnamedColumn => .invalidName
  | .orphan => .orphanColumn
  | .duplicate _ => .duplicateColumn
  | .noColumns => .emptyType
  | .noKey => .missingKey

/-- What a field needs whose type has no column representation. -/
def unsupported (column reason : String) : String :=
  "Unsupported type of field for " ++ column ++ " annotation, if you need to serialize/deserialize "
    ++ "field of that type -> please write your own resolver: " ++ reason

def message (backend : Backend) (problem : Problem) : String :=
  let type := backend.markers.typeDisplay
  let column := backend.markers.columnDisplay
  match problem with
  | .notAStruct kind qualifiedName =>
      type ++ " can be applied only to structs, not to " ++ kind.text ++ ": " ++ qualifiedName
  | .missingLocator qualifiedName operation =>
      backend.locatorNoun ++ " of " ++ qualifiedName ++ " annotated with " ++ type
        ++ " is null or empty"
        ++ (match operation with
          | some operation => " for operation " ++ operation.text
          | none => "")
  | .notAField kind name =>
      column ++ " can be applied only to fields, not to " ++ kind.text ++ ": " ++ name
  | .enclosingNotAStruct name => "Please apply " ++ type ++ " to fields of class: " ++ name
  | .enclosingUnmarked declaration =>
      "Please annotate class " ++ declaration ++ " with " ++ type
  | .privateField name => column ++ " can not be applied to private field: " ++ name
  | .immutableField name => column ++ " can not be applied to final field: " ++ name
  | .untyped name => unsupported column ("field " ++ name ++ " has no declared type")
  | .unsupportedType description => unsupported column (Introspector.reason description)
  | .skippedPrimitive type => "ignore_null should not be used for primitive type: " ++ type
  | .unnamedColumn => "Column name is null or empty"
  | .orphan =>
      "Field marked with " ++ column ++ " annotation should be placed in class marked by " ++ type
        ++ " annotation"
  | .duplicate storageName => "Column name already used in this class: " ++ storageName
  | .noColumns =>
      "Class marked with " ++ type ++ " annotation should have at least one field marked with "
        ++ column ++ " annotation"
  | .noKey =>
      "Class marked with " ++ type ++ " annotation should have at least one KEY field marked with "
        ++ column ++ " annotation"

/-- The report of a problem with the element at a location. -/
def report (backend : Backend) (location : Location) (problem : Problem) : Diagnostic :=
  ⟨problem.kind, location, problem.message backend⟩

end Problem

end Processing

end StorageMapping
