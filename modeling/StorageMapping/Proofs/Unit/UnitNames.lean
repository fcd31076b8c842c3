import StorageMapping.Proofs.Unit.FileNames

namespace StorageMapping

/-! # Names of units

The end of a unit name tells its kind, whatever the backend puts in front of it, and what stands
before that end is the name of the type. -/

namespace UnitKind

/-- The last letters of the unit names of a kind. -/
def ending : UnitKind → String
  | .put => "PutResolver"
  | .get => "GetResolver"
  | .delete => "eteResolver"
  | .mapping => "TypeMapping"

theorem length_ending (kind : UnitKind) : kind.ending.toList.length = 11 := by
  cases kind <;> decide

theorem ending_injective : Function.Injective ending := by
  intro kind other same
  cases kind <;> cases other <;> revert same <;> decide

end UnitKind

namespace UnitNaming

open Naming

variable {naming : UnitNaming} {typeName otherName : String} {kind otherKind : UnitKind}

/-- What is put behind the name of a type. -/
def part (naming : UnitNaming) : UnitKind → String
  | .mapping => naming.mappingPart ++ "TypeMapping"
  | kind => naming.resolverPart ++ kind.text ++ "Resolver"

theorem unitName_eq (naming : UnitNaming) (typeName : String) (kind : UnitKind) :
    naming.unitName typeName kind = bareName typeName ++ naming.part kind := by
  cases kind <;> simp only [unitName, part, String.append_assoc]

theorem ending_suffix (naming : UnitNaming) (typeName : String) (kind : UnitKind) :
    kind.ending.toList <:+ (naming.unitName typeName kind).toList := by
  have resolver : kind ≠ .mapping →
      kind.ending.toList <:+ kind.text.toList ++ "Resolver".toList := by
    cases kind <;> decide
  have part : kind.ending.toList <:+ (naming.part kind).toList := by
    cases kind with
    | mapping =>
        rw [UnitNaming.part, String.toList_append]
        exact List.suffix_append _ _
    | _ =>
        simp only [UnitNaming.part, String.append_assoc, String.toList_append] at resolver ⊢
        exact (resolver nofun).trans (List.suffix_append _ _)
  rw [unitName_eq, String.toList_append]
  exact part.trans (List.suffix_append _ _)

/-- A unit name gives away the name of the type and the kind of the unit. -/
theorem unitName_injective
    (same : naming.unitName typeName kind = naming.unitName otherName otherKind) :
    bareName typeName = bareName otherName ∧ kind = otherKind := by
  have ends := ending_suffix naming typeName kind
  have otherEnds := ending_suffix naming otherName otherKind
  rw [← same] at otherEnds
  have length := (UnitKind.length_ending kind).trans (UnitKind.length_ending otherKind).symm
  have kinds : kind = otherKind := UnitKind.ending_injective (String.toList_injective
    ((List.suffix_of_suffix_length_le ends otherEnds (Nat.le_of_eq length)).eq_of_length length))
  subst kinds
  rw [unitName_eq, unitName_eq] at same
  exact ⟨by simpa [← String.toList_inj] using same, rfl⟩

theorem fileStem_eq (same : naming.unitName typeName kind = naming.unitName otherName otherKind) :
    naming.fileStem typeName kind = naming.fileStem otherName otherKind := by
  obtain ⟨names, rfl⟩ := unitName_injective same
  simp only [fileStem, names]

theorem eq_plain_of_unitIdentifier {name : Source.Identifier}
    (known : naming.unitIdentifier typeName kind = .ok name) :
    name = .plain (naming.unitName typeName kind) := by
  rw [unitIdentifier] at known
  split at known
  · cases known
    rfl
  · contradiction

end UnitNaming

end StorageMapping
