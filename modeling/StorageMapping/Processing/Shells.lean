import StorageMapping.Processing.Build

namespace StorageMapping

namespace Processing

/-! The types of a run, under the numbers of their declarations and in the order of these. -/

abbrev Shells := List (Nat × TypeModel)

namespace Shells

/-- Puts a type under a number, in the place of what was there. -/
def insert (id : Nat) (model : TypeModel) : Shells → Shells
  | [] => [(id, model)]
  | (other, existing) :: rest =>
      if id < other then (id, model) :: (other, existing) :: rest
      else if id = other then (id, model) :: rest
      else (other, existing) :: insert id model rest

def get? (shells : Shells) (id : Nat) : Option TypeModel :=
  (shells.find? fun (other, _) => other == id).map (·.2)

/-- Is the storage name or the field name of a column taken in a type? -/
def isTaken (model : TypeModel) (column : Column) : Bool :=
  model.columns.any fun existing =>
    existing.storageName == column.storageName || existing.fieldName == column.fieldName

/-- Adds a column at the end of its owner. -/
def attach (shells : Shells) (column : Column) : Except Problem Shells :=
  match shells.get? column.owner with
  | none => throw .orphan
  | some model =>
      if isTaken model column then throw (.duplicate column.storageName)
      else return shells.insert column.owner { model with columns := model.columns ++ [column] }

/-- What a type lacks to be mapped: columns, or a key among them. -/
def lack? (model : TypeModel) : Option Problem :=
  if model.columns.isEmpty then some .noColumns
  else if model.keyColumns.isEmpty then some .noKey
  else none

/-- Every type needs a column and a key. The first type that lacks one is reported. -/
def validate (backend : Backend) : Shells → Except Diagnostic Unit
  | [] => return ()
  | (_, model) :: rest =>
      match lack? model with
      | some problem => throw (problem.report backend model.location)
      | none => validate backend rest

end Shells

end Processing

end StorageMapping
