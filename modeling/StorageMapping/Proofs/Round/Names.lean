import StorageMapping.Proofs.Round.Composition
import StorageMapping.Proofs.Round.Records
import StorageMapping.Proofs.Source.Names

namespace StorageMapping

/-! # Names of declarations

The struct of a declaration and the modules around it are named in the text, so their names can be
written again. Only the path from which a scan starts comes from elsewhere. -/

open Source Naming Results

/-- A declaration in modules of a text that stands at a path. -/
structure Declaration.NamedBelow (path : List String) (declaration : Declaration) : Prop where
  named : Nameable declaration.name
  below : ∃ modules, declaration.modulePath = path ++ modules ∧ ∀ name ∈ modules, Nameable name

/-- A round whose structs have names of the text. -/
def Round.NamedBelow (path : List String) (round : Round) : Prop :=
  ∀ declaration ∈ round.declarations, declaration.kind = .struct → declaration.NamedBelow path

theorem Round.NamedBelow.empty {path : List String} : Round.empty.NamedBelow path :=
  fun _ member => absurd member List.not_mem_nil

theorem Round.NamedBelow.extend {path : List String} {front back : Round}
    (first : front.NamedBelow path) (second : back.NamedBelow path) :
    (front.extend back).NamedBelow path := by
  intro declaration member isStruct
  rcases List.mem_append.mp member with before | after
  · exact first declaration before isStruct
  · exact second declaration after isStruct

namespace Discovery

variable {scope : Scope} {path : List String} {round : Round}

theorem record_declarations {kind : DeclarationKind} {name : Identifier} {position : Position}
    {attributes : List Attribute} {members : List Member}
    (recorded : record scope path kind name position attributes members = .ok round) :
    ∀ declaration ∈ round.declarations,
      declaration.name = name.text ∧ declaration.modulePath = path ∧ declaration.kind = kind := by
  obtain ⟨_, _, _, _, rfl⟩ := record_eq_ok.mp recorded
  intro declaration member
  cases Round.mem_single member
  exact ⟨rfl, rfl, rfl⟩

theorem ofItems_namedBelow {items : List Item}
    (named : ∀ item ∈ items, ∀ {round}, ofItem scope path item = .ok round → round.NamedBelow path)
    (scanned : ofItems scope path items = .ok round) : round.NamedBelow path :=
  ofItems_holds .empty .extend named scanned

theorem ofItem_namedBelow {item : Item} (named : item.Named)
    (scanned : ofItem scope path item = .ok round) : round.NamedBelow path := by
  induction named generalizing path round with
  | @module name contents nameable _ ih =>
      cases contents with
      | none =>
          rw [ofItem] at scanned
          cases scanned
          exact .empty
      | some items =>
          rw [ofItem] at scanned
          have inside := ofItems_namedBelow (fun item member => ih items rfl item member) scanned
          intro declaration member isStruct
          obtain ⟨named, modules, same, nameables⟩ := inside declaration member isStruct
          refine ⟨named, name.text :: modules, by simpa using same, ?_⟩
          exact List.forall_mem_cons.mpr ⟨nameable, nameables⟩
  | data nameable =>
      rw [ofItem] at scanned
      intro declaration member _
      obtain ⟨sameName, samePath, _⟩ := record_declarations scanned declaration member
      exact ⟨sameName ▸ nameable, [], by simp [samePath], List.forall_mem_nil _⟩
  | trait =>
      rw [ofItem] at scanned
      intro declaration member isStruct
      obtain ⟨_, _, kind⟩ := record_declarations scanned declaration member
      cases kind.symm.trans isStruct
  | implementation =>
      rw [ofItem, ofImplementation] at scanned
      split at scanned
      · intro declaration member isStruct
        obtain ⟨_, _, kind⟩ := record_declarations scanned declaration member
        cases kind.symm.trans isStruct
      · cases scanned
        exact .empty
  | other =>
      rw [ofItem] at scanned
      cases scanned
      exact .empty

end Discovery

end StorageMapping
