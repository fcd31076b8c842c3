import StorageMapping.Document.Decoder
import StorageMapping.Document.Reader
import StorageMapping.Round.Snapshot

namespace StorageMapping

/-! Snapshots as documents. -/

namespace Snapshot

open Document Decoder

def declarationKinds : List (String × DeclarationKind) :=
  ([.struct, .enum, .union, .trait, .implementation] : List DeclarationKind).map
    fun kind => (kind.text, kind)

def elementKinds : List (String × ElementKind) :=
  ([.field, .method, .constant] : List ElementKind).map fun kind => (kind.text, kind)

def modifiers : List (String × Modifier) :=
  ([.hidden, .immutable] : List Modifier).map fun modifier => (modifier.text, modifier)

def column : Decoder ColumnMarker :=
  record "ColumnConfig" [
    .optional "name" text fun marker name => { marker with name := name },
    .optional "key" boolean fun marker key => { marker with isKey := key },
    .optional "ignore_null" boolean fun marker flag => { marker with ignoresNull := flag }] .empty

def member : Decoder Member :=
  record "FieldConfig" [
    .required "name" text fun member name => { member with name := name },
    .absent "type" text fun member type => { member with type := type },
    .optional "kind" (variant elementKinds) fun member kind => { member with kind := kind },
    .optional "modifiers" (list (variant modifiers))
      fun member modifiers => { member with modifiers := modifiers },
    .absent "column" column fun member marker => { member with column := marker }]
    ⟨"", none, .field, [], none⟩

def entry : Decoder Entry :=
  record "DeclarationConfig" [
    .required "name" text fun entry name => { entry with name := name },
    .optional "module" text fun entry module => { entry with module := module },
    .optional "kind" (variant declarationKinds) fun entry kind => { entry with kind := kind },
    .absent "type_marker" (map text) fun entry marker => { entry with marker := marker },
    .optional "field" (list member) fun entry members => { entry with members := members }]
    ⟨"", "", .struct, none, []⟩

def decoder : Decoder Snapshot :=
  record "SnapshotSchema" [
    .optional "declaration" (list entry)
      fun snapshot entries => { snapshot with declarations := entries }] ⟨[]⟩

end Snapshot

end StorageMapping
