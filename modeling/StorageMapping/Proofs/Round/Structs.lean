import StorageMapping.Proofs.Round.Names
import StorageMapping.Proofs.Round.Nested

namespace StorageMapping

/-! # Marked structs

The structs with the type marker stand in a round one after the other, as in the items of the text.
Of the parameters that they declare nothing is kept. -/

open Source Results

/-! ## Definitions of a text -/

namespace Source.Item

mutual

/-- The type definitions of an item, each with the modules around it. -/
def definitions (modules : List Identifier) : Item → List (List Identifier × DataItem)
  | .module name (some contents) => allDefinitions (modules ++ [name]) contents
  | .data item => [(modules, item)]
  | .module _ none | .trait _ _ _ _ | .implementation _ _ | .other => []

def allDefinitions (modules : List Identifier) : List Item → List (List Identifier × DataItem)
  | [] => []
  | item :: rest => definitions modules item ++ allDefinitions modules rest

end

mutual

/-- An item whose type definitions declare no parameters. -/
def unparameterized : Item → Item
  | .module name (some contents) => .module name (some (allUnparameterized contents))
  | .module name none => .module name none
  | .data item => .data { item with parameters := 0 }
  | .trait attributes name position members => .trait attributes name position members
  | .implementation selfType members => .implementation selfType members
  | .other => .other

def allUnparameterized : List Item → List Item
  | [] => []
  | item :: rest => unparameterized item :: allUnparameterized rest

end

end Source.Item

/-- Is a definition a struct with the type marker? -/
def MarkerSet.marksStruct (markers : MarkerSet) (data : DataItem) : Bool :=
  data.kind == .struct && (Marker.find? data.attributes markers.typeAttribute).isSome

/-- The structs with the type marker in the items of a text, each with the modules around it. -/
def MarkerSet.structsOf (markers : MarkerSet) (items : List Item) :
    List (List Identifier × DataItem) :=
  (Item.allDefinitions [] items).filter fun found => markers.marksStruct found.2

/-! ## Their declarations -/

def Declaration.isMarkedStruct (declaration : Declaration) : Bool :=
  declaration.isMarked && declaration.kind == .struct

/-- A declaration has the name and the modules that a definition has below a path. -/
structure Declaration.Declares (path : List String) (found : List Identifier × DataItem)
    (declaration : Declaration) : Prop where
  name : declaration.name = found.2.name.text
  modulePath : declaration.modulePath = path ++ found.1.map (·.text)

namespace Discovery

variable {scope : Scope} {root path : List String} {modules : List Identifier} {round : Round}

/-- What is no struct leaves no marked struct behind. -/
theorem record_unstructured {kind : DeclarationKind} {name : Identifier} {position : Position}
    {attributes : List Attribute} {members : List Member} (other : kind ≠ .struct)
    (recorded : record scope path kind name position attributes members = .ok round) :
    round.declarations.filter (·.isMarkedStruct) = [] := by
  refine List.filter_eq_nil_iff.mpr fun declaration member => ?_
  have same := (record_declarations recorded declaration member).2.2
  simp [Declaration.isMarkedStruct, same, other]

/-- A definition leaves a marked struct just where it is one. -/
theorem ofDefinition_structs {data : DataItem} (placed : path = root ++ modules.map (·.text))
    (scanned : ofDefinition scope path data = .ok round) :
    List.Forall₂ (Declaration.Declares root)
      ([(modules, data)].filter fun found => scope.markers.marksStruct found.2)
      (round.declarations.filter (·.isMarkedStruct)) := by
  by_cases isStruct : data.kind = .struct
  · obtain ⟨marker, columns, read, _, rfl⟩ := record_eq_ok.mp scanned
    have marked := typeMarker_isSome read
    cases held : marker with
    | none =>
        rw [held] at marked
        have unmarked : scope.markers.marksStruct data = false := by
          simp [MarkerSet.marksStruct, ← marked]
        rw [Round.single]
        split <;> simp [unmarked, Round.empty, Declaration.isMarkedStruct, Declaration.isMarked]
    | some locators =>
        rw [held] at marked
        have carries : scope.markers.marksStruct data = true := by
          simp [MarkerSet.marksStruct, isStruct, ← marked]
        rw [Round.single, if_neg (by simp)]
        simp [carries, Declaration.isMarkedStruct, Declaration.isMarked, isStruct, declarationKind,
          Declaration.Declares.mk, placed]
  · have kind : declarationKind data.kind ≠ .struct := by
      cases held : data.kind <;> simp_all [declarationKind]
    have unmarked : scope.markers.marksStruct data = false := by
      simp [MarkerSet.marksStruct, isStruct]
    rw [record_unstructured kind scanned, List.filter_cons_of_neg (by simp [unmarked])]
    exact .nil

mutual

/-- The marked structs of a round are those of its text, in their order. -/
theorem ofItem_structs : ∀ (item : Item) {path : List String} {modules : List Identifier}
    {round : Round}, path = root ++ modules.map (·.text) → ofItem scope path item = .ok round →
      List.Forall₂ (Declaration.Declares root)
        ((item.definitions modules).filter fun found => scope.markers.marksStruct found.2)
        (round.declarations.filter (·.isMarkedStruct))
  | .module name (some contents), _, _, _, placed, scanned => by
      rw [ofItem] at scanned
      rw [Item.definitions]
      exact ofItems_structs contents (by simp [placed]) scanned
  | .module _ none, _, _, _, _, scanned => by
      rw [ofItem] at scanned
      cases scanned
      exact .nil
  | .data _, _, _, _, placed, scanned => by
      rw [ofItem] at scanned
      exact ofDefinition_structs placed scanned
  | .trait _ _ _ _, _, _, _, _, scanned => by
      rw [ofItem] at scanned
      rw [record_unstructured (by decide) scanned]
      exact .nil
  | .implementation _ _, _, _, _, _, scanned => by
      rw [ofItem, ofImplementation] at scanned
      split at scanned
      · rw [record_unstructured (by decide) scanned]
        exact .nil
      · cases scanned
        exact .nil
  | .other, _, _, _, _, scanned => by
      rw [ofItem] at scanned
      cases scanned
      exact .nil

theorem ofItems_structs : ∀ (items : List Item) {path : List String} {modules : List Identifier}
    {round : Round}, path = root ++ modules.map (·.text) → ofItems scope path items = .ok round →
      List.Forall₂ (Declaration.Declares root)
        ((Item.allDefinitions modules items).filter fun found => scope.markers.marksStruct found.2)
        (round.declarations.filter (·.isMarkedStruct))
  | [], _, _, _, _, scanned => by
      cases scanned
      exact .nil
  | item :: rest, _, _, _, placed, scanned => by
      rw [ofItems_cons] at scanned
      obtain ⟨first, others, here, later, rfl⟩ := Round.joined_eq_ok.mp scanned
      rw [Item.allDefinitions, List.filter_append]
      change List.Forall₂ _ _ ((first.declarations ++ others.declarations).filter _)
      rw [List.filter_append]
      exact List.rel_append (ofItem_structs item placed here) (ofItems_structs rest placed later)

end

mutual

theorem ofItem_unparameterized : ∀ (item : Item) (path : List String),
    ofItem scope path item.unparameterized = ofItem scope path item
  | .module name (some contents), path => by
      rw [Item.unparameterized, ofItem, ofItem, ofItems_unparameterized contents]
  | .module _ none, _ => rfl
  | .data _, _ => rfl
  | .trait _ _ _ _, _ => rfl
  | .implementation _ _, _ => rfl
  | .other, _ => rfl

/-- A scan does not see the parameters of a definition, wherever it stands. -/
theorem ofItems_unparameterized : ∀ (items : List Item) (path : List String),
    ofItems scope path (Item.allUnparameterized items) = ofItems scope path items
  | [], _ => rfl
  | item :: rest, path => by
      rw [Item.allUnparameterized, ofItems_cons, ofItems_cons, ofItem_unparameterized item,
        ofItems_unparameterized rest]

end

end Discovery

end StorageMapping
