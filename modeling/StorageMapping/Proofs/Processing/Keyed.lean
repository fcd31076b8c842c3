import Mathlib.Data.List.Nodup
import StorageMapping.Proofs.Code.Queries
import StorageMapping.Proofs.Processing.Quoted

namespace StorageMapping

/-! # Rows are found by their keys

An update and a delete are for the row that has the keys of an object. Both compare the key columns
with copies of the key fields, in the order of the columns, and look at no other field. -/

open Source Code Results

variable {first second : Backend} {context : GenerationContext} {model : TypeModel}

namespace TargetsKeys

/-- No field of another column has the name of a key field. -/
theorem unnamed (distinct : (model.columns.map (·.fieldName)).Nodup) {fields : List Identifier}
    (named : fields = model.keyColumns.map (·.field)) {column : Column}
    (member : column ∈ model.columns) (other : column.isKey = false) :
    ∀ field ∈ fields, field.text ≠ column.fieldName := by
  rw [named, List.forall_mem_map]
  intro key keyMember same
  obtain ⟨inside, isKey⟩ := List.mem_filter.mp keyMember
  have equal : key = column := List.inj_on_of_nodup_map distinct inside member same
  rw [equal, other] at isKey
  contradiction

end TargetsKeys

/-! ## Other columns -/

namespace TypeModel

/-- A type that has the same key columns among others. -/
def SameKeys (model other : TypeModel) : Prop :=
  ∃ columns, other = { model with columns := columns } ∧ other.keyColumns = model.keyColumns

variable {other : TypeModel}

theorem SameKeys.keyCondition (same : model.SameKeys other) :
    KeyCondition.ofModel other = .ofModel model := by
  obtain ⟨columns, _, keys⟩ := same
  rw [KeyCondition.ofModel, KeyCondition.ofModel, keys]

end TypeModel

namespace Processing

variable {processor : Processor} {round : Round} {output : Output}

end Processing

end StorageMapping
