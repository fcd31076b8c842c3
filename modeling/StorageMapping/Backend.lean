import StorageMapping.Marker
import StorageMapping.Unit.Naming

namespace StorageMapping

/-! Backends: the markers that one reacts to, its words in messages and in generated code, and the
runtime module that its code is written for. -/

structure Backend where
  name : String
  markers : MarkerSet
  naming : UnitNaming
  /-- How messages call a locator. -/
  locatorNoun : String
  /-- The operations that may have a locator of their own, in the order in which they are
  checked. -/
  operations : List Operation
  /-- The method of a query builder that takes the locator. -/
  locatorMethod : String
  /-- The type that a mapping unit converts into. -/
  mappingType : String
  /-- The runtime module where the configuration names none. -/
  defaultRuntime : String
deriving DecidableEq, Repr

namespace Backend

/-- Tables of a relational database. One table serves every operation. -/
def sqlite : Backend where
  name := "sqlite"
  markers := {
    typeAttribute := "storio_sqlite_type"
    columnAttribute := "storio_sqlite_column"
    typeDisplay := "StorIOSQLiteType"
    columnDisplay := "StorIOSQLiteColumn"
    locatorKeys := ⟨"table", none, none, none⟩
  }
  naming := ⟨"StorIOSQLite", "storio_sqlite", "SQLite", "sqlite"⟩
  locatorNoun := "Table name"
  operations := []
  locatorMethod := "table"
  mappingType := "SQLiteTypeMapping"
  defaultRuntime := "storio::sqlite"

/-- Content providers, addressed by one locator or by one for each operation. -/
def contentResolver : Backend where
  name := "content-resolver"
  markers := {
    typeAttribute := "storio_content_resolver_type"
    columnAttribute := "storio_content_resolver_column"
    typeDisplay := "StorIOContentResolverType"
    columnDisplay := "StorIOContentResolverColumn"
    locatorKeys := ⟨"uri", some "insert_uri", some "update_uri", some "delete_uri"⟩
  }
  naming :=
    ⟨"StorIOContentResolver", "storio_content_resolver", "ContentResolver", "content_resolver"⟩
  locatorNoun := "Uri"
  operations := [.insert, .update, .delete]
  locatorMethod := "uri"
  mappingType := "ContentResolverTypeMapping"
  defaultRuntime := "storio::content_resolver"

/-- The backends that a user can choose. -/
def all : List Backend := [sqlite, contentResolver]

/-- The backend of a name. -/
def named? (name : String) : Option Backend := all.find? (·.name == name)

end Backend

end StorageMapping
