import StorageMapping.Column
import StorageMapping.Diagnostic
import StorageMapping.Locator
import StorageMapping.Text.Segments

namespace StorageMapping

/-! The type model: what is known of a mapped type and its columns. -/

/-- One stored field. Its owner is the number of the declaration in which it was found. -/
structure Column where
  owner : Nat
  field : Source.Identifier
  storageName : String
  type : FieldType
  isKey : Bool
  ignoresNull : Bool
  location : Location
deriving Repr

namespace Column

/-- The name of the field without the mark of a raw identifier. -/
def fieldName (column : Column) : String := column.field.text

/-- Is the column left out of a put when its value is absent? -/
def skipsAbsent (column : Column) : Bool := column.ignoresNull && column.type.nullable

end Column

/-- One mapped type, with its columns in the order in which they were found. -/
structure TypeModel where
  name : String
  modulePath : List String
  locators : Locators
  columns : List Column
  location : Location
deriving Repr

namespace TypeModel

def qualifiedName (model : TypeModel) : String := Text.qualify model.modulePath model.name

def keyColumns (model : TypeModel) : List Column := model.columns.filter (·.isKey)

/-- The column of a field. -/
def column? (model : TypeModel) (fieldName : String) : Option Column :=
  model.columns.find? (·.fieldName == fieldName)

/-- The column of a storage name. -/
def columnStoredAs? (model : TypeModel) (storageName : String) : Option Column :=
  model.columns.find? (·.storageName == storageName)

end TypeModel

end StorageMapping
