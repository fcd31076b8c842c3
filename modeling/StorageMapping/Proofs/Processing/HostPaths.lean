import StorageMapping.Proofs.Processing.Configured
import StorageMapping.Proofs.Processing.Quoted
import StorageMapping.Proofs.Round.Names
import StorageMapping.Proofs.Round.Nested
import StorageMapping.Proofs.Source.Words
import StorageMapping.Proofs.Unit.Headlines

namespace StorageMapping

/-! # Paths of mapped types

The scan drops the mark of a raw identifier, and the path of a mapped type is written from what is
left. It still is the path of the type in its text: where a name is a word of the language, it is
marked again. Names of units and of their files have no such mark. -/

open Source Source.Grammar Results

/-! ## Segments -/

namespace Naming

theorem unplaced_pathType (names : List Identifier) :
    (pathType names).unplaced = pathType names := by
  rw [pathType, TypeExpr.unplaced, unplacedSegments_eq_map, List.map_map]
  rfl

end Naming

/-! ## Names of units -/

namespace Generator

variable {generator : Generator} {context : GenerationContext} {model : TypeModel}
    {unit : GeneratedUnit}

end Generator

/-! ## Types in modules -/

/-- Names that lead to an item of a text can be written again. -/
theorem Source.Item.Lies.named {item : Item} {modules : List Identifier} {items : List Item}
    (lies : item.Lies modules items) (named : ∀ item ∈ items, item.Named) :
    (∀ name ∈ modules, Naming.Nameable name.text) ∧ item.Named := by
  induction lies with
  | here member => exact ⟨by simp, named _ member⟩
  | inside held _ ih =>
      cases named _ held with
      | module nameable inside =>
          obtain ⟨others, last⟩ := ih fun item member => inside _ rfl item member
          exact ⟨List.forall_mem_cons.mpr ⟨nameable, others⟩, last⟩

namespace Discovery

variable {scope : Scope} {path : List String} {round : Round} {data : DataItem}

end Discovery

namespace Processing

variable {processor : Processor} {round : Round} {output : Output}

end Processing

end StorageMapping
