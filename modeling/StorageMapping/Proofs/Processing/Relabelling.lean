import StorageMapping.Proofs.Processing.Outcome
import StorageMapping.Proofs.Unit.Unseen

namespace StorageMapping

/-! # What a run does not look at

Places in a text decide where a fault is reported and nothing else. A round whose locations and
types are written otherwise, but mean the same, is processed in the same way. -/

/-- Another way to write the locations, the module paths and the types of a round. -/
structure Relabelling where
  location : Location → Location
  modulePath : List String → List String
  type : Source.TypeExpr → Source.TypeExpr

variable (relabelling : Relabelling)

namespace Relabelling

/-- Types mean the same and print the same as before. -/
structure Faithful (introspect : Introspector) : Prop where
  introspected : ∀ type, introspect (relabelling.type type) = introspect type
  printed : ∀ type, (relabelling.type type).text = type.text

def declaration (declaration : Declaration) : Declaration :=
  { declaration with
    modulePath := relabelling.modulePath declaration.modulePath
    location := relabelling.location declaration.location }

def element (element : MarkedElement) : MarkedElement :=
  { element with
    type := element.type.map relabelling.type
    location := relabelling.location element.location }

def round (round : Round) : Round :=
  ⟨round.declarations.map relabelling.declaration, round.columns.map relabelling.element⟩

def column (column : Column) : Column :=
  { column with location := relabelling.location column.location }

def model (model : TypeModel) : TypeModel :=
  { model with
    modulePath := relabelling.modulePath model.modulePath
    columns := model.columns.map relabelling.column
    location := relabelling.location model.location }

def diagnostic (diagnostic : Diagnostic) : Diagnostic :=
  { diagnostic with location := relabelling.location diagnostic.location }

end Relabelling

namespace Processing

variable {relabelling} {backend : Backend} {introspect : Introspector} {round : Round}
  {element : MarkedElement} {earlier elements : List MarkedElement}

theorem marked_relabelled :
    (relabelling.round round).marked =
      round.marked.map fun entry => (entry.1, relabelling.declaration entry.2) := by
  have numbered : ∀ first declarations,
      Round.number first (declarations.map relabelling.declaration) =
        (Round.number first declarations).map fun entry =>
          (entry.1, relabelling.declaration entry.2) := by
    intro first declarations
    induction declarations generalizing first with
    | nil => rfl
    | cons declaration rest ih => simp only [List.map_cons, Round.number, ih]
  rw [Round.marked, Relabelling.round, numbered, List.filter_map]
  rfl

theorem declaration?_relabelled (id : Nat) :
    (relabelling.round round).declaration? id =
      (round.declaration? id).map relabelling.declaration :=
  List.getElem?_map

/-! ## Faults -/

theorem elementProblems_relabelled (faithful : relabelling.Faithful introspect) :
    elementProblems introspect (relabelling.round round) (relabelling.element element) =
      elementProblems introspect round element := by
  have places : placeProblems (relabelling.round round) (relabelling.element element) =
      placeProblems round element := by
    simp only [placeProblems, Relabelling.element, declaration?_relabelled, Option.bind_map]
    rfl
  have types : typeProblem? introspect (relabelling.element element) =
      typeProblem? introspect element := by
    cases declared : element.type <;>
      simp [typeProblem?, Relabelling.element, declared, faithful.introspected]
  have skips : skipProblem? introspect (relabelling.element element) =
      skipProblem? introspect element := by
    cases declared : element.type <;>
      simp [skipProblem?, Relabelling.element, declared, faithful.introspected, faithful.printed]
  simp only [elementProblems, places, types, optionProblems, skips]
  rfl

theorem attachmentProblems_relabelled :
    attachmentProblems (relabelling.round round) (earlier.map relabelling.element)
        (relabelling.element element) =
      attachmentProblems round earlier element := by
  have orphaned : (∀ entry ∈ (relabelling.round round).marked,
        entry.1 ≠ (relabelling.element element).enclosing) ↔
      ∀ entry ∈ round.marked, entry.1 ≠ element.enclosing := by
    rw [marked_relabelled, List.forall_mem_map]
    rfl
  have clashing : (∃ other ∈ earlier.map relabelling.element,
        other.Clash (relabelling.element element)) ↔
      ∃ other ∈ earlier, other.Clash element := by
    constructor
    · rintro ⟨_, member, clash⟩
      obtain ⟨other, otherMember, rfl⟩ := List.mem_map.mp member
      exact ⟨other, otherMember, clash⟩
    · rintro ⟨other, member, clash⟩
      exact ⟨relabelling.element other, List.mem_map_of_mem member, clash⟩
  simp only [attachmentProblems, orphaned, clashing]
  rfl

theorem columnFault?_relabelled (faithful : relabelling.Faithful introspect) :
    columnFault? backend introspect (relabelling.round round) (earlier.map relabelling.element)
        (elements.map relabelling.element) =
      (columnFault? backend introspect round earlier elements).map relabelling.diagnostic := by
  induction elements generalizing earlier with
  | nil => rfl
  | cons element rest ih =>
      have problem : columnProblem? introspect (relabelling.round round)
          (earlier.map relabelling.element) (relabelling.element element) =
          columnProblem? introspect round earlier element := by
        simp only [columnProblem?, elementProblems_relabelled faithful,
          attachmentProblems_relabelled]
      rw [List.map_cons, columnFault?, columnFault?, problem]
      cases columnProblem? introspect round earlier element with
      | some problem => rfl
      | none =>
          change columnFault? _ _ _ (earlier.map relabelling.element ++ [_]) _ = _
          rw [← List.map_singleton, ← List.map_append]
          exact ih

theorem typeFault?_relabelled :
    typeFault? backend (relabelling.round round) =
      (typeFault? backend round).map relabelling.diagnostic := by
  have lacking : ∀ id, lackingProblem? (relabelling.round round) id = lackingProblem? round id := by
    intro id
    simp only [lackingProblem?, Relabelling.round, List.forall_mem_map]
    rfl
  rw [typeFault?, typeFault?, marked_relabelled, List.findSome?_map, List.map_findSome?]
  refine congrArg (fun f => List.findSome? f round.marked) (funext fun entry => ?_)
  simp only [Function.comp, lacking, Option.map_map]
  rfl

/-- The modules of a declaration do not decide whether it is refused. -/
theorem refusal?_relabelled_eq_none {declaration : Declaration} :
    refusal? backend (relabelling.declaration declaration) = none ↔
      refusal? backend declaration = none := by
  have located : ∀ name other locators, checkLocators backend name locators = .ok () →
      checkLocators backend other locators = .ok () := by
    intro name other locators checked
    rw [checkLocators] at checked ⊢
    split
    · rfl
    · rename_i uncommon
      rw [if_neg uncommon] at checked
      split
      · rename_i missing
        rw [if_pos missing] at checked
        contradiction
      · rfl
  have accepted : ∀ declaration, refusal? backend declaration = none ↔
      declaration.kind = .struct ∧ ∃ name,
        checkLocators backend name (declaration.marker.getD .empty) = .ok () := by
    intro declaration
    constructor
    · intro accepted
      cases built : buildType backend declaration with
      | error problem => simp [refusal?, built] at accepted
      | ok model => exact ⟨(buildType_ok built).1, _, (buildType_ok built).2.2⟩
    · rintro ⟨isStruct, name, checked⟩
      have checked := located name declaration.qualifiedName _ checked
      simp only [refusal?, buildType, isStruct, checked]
      rfl
  rw [accepted, accepted]
  rfl

theorem declarationFault?_relabelled_eq_none :
    declarationFault? backend (relabelling.round round) = none ↔
      declarationFault? backend round = none := by
  rw [declarationFault?, declarationFault?, marked_relabelled, List.findSome?_map,
    List.findSome?_eq_none_iff, List.findSome?_eq_none_iff]
  exact forall₂_congr fun _ _ => refusal?_relabelled_eq_none

/-- Faults do not depend on where things stand. -/
theorem faultless_relabelled (faithful : relabelling.Faithful introspect) :
    Faultless backend introspect (relabelling.round round) ↔
      Faultless backend introspect round := by
  have columns : columnFault? backend introspect (relabelling.round round) []
      (relabelling.round round).columns = _ := @columnFault?_relabelled _ _ _ _ [] _ faithful
  constructor
  · rintro ⟨declarations, elements, types⟩
    rw [columns] at elements
    rw [typeFault?_relabelled] at types
    exact ⟨declarationFault?_relabelled_eq_none.mp declarations,
      Option.map_eq_none_iff.mp elements, Option.map_eq_none_iff.mp types⟩
  · rintro ⟨declarations, elements, types⟩
    refine ⟨declarationFault?_relabelled_eq_none.mpr declarations, ?_, ?_⟩
    · rw [columns, elements]
      rfl
    · rw [typeFault?_relabelled, types]
      rfl

/-! ## Types -/

theorem carry?_relabelled (faithful : relabelling.Faithful introspect) :
    carry? introspect (relabelling.element element) =
      (carry? introspect element).map relabelling.column := by
  cases declared : element.type with
  | none => simp [carry?, Relabelling.element, declared]
  | some type =>
      cases found : introspect type with
      | error description =>
          simp [carry?, Relabelling.element, declared, faithful.introspected, found,
            Except.toOption]
      | ok fieldType =>
          simp [carry?, Relabelling.element, declared, faithful.introspected, found,
            Except.toOption, columnOf, Relabelling.column]

theorem carried_relabelled (faithful : relabelling.Faithful introspect) :
    carried introspect (elements.map relabelling.element) =
      (carried introspect elements).map relabelling.column := by
  simp only [carried, List.filterMap_map, List.map_filterMap, Function.comp_def,
    carry?_relabelled faithful]

theorem modelWith_relabelled (columns : List Column) (entry : Nat × Declaration) :
    modelWith (columns.map relabelling.column) (entry.1, relabelling.declaration entry.2) =
      relabelling.model (modelWith columns entry) := by
  simp only [modelWith, List.filter_map]
  rfl

theorem models_relabelled (faithful : relabelling.Faithful introspect) :
    (relabelling.round round).marked.map
        (modelWith (carried introspect (relabelling.round round).columns)) =
      (round.marked.map (modelWith (carried introspect round.columns))).map relabelling.model := by
  have columns : carried introspect (relabelling.round round).columns = _ :=
    carried_relabelled faithful
  rw [marked_relabelled, columns, List.map_map, List.map_map]
  exact List.map_congr_left fun entry _ => modelWith_relabelled _ entry

end Processing

namespace Relabelling

variable {relabelling}

/-- Modules are named as before. -/
def KeepsPaths (relabelling : Relabelling) : Prop := ∀ path, relabelling.modulePath path = path

theorem model_alike (kept : relabelling.KeepsPaths) (model : TypeModel) :
    (relabelling.model model).Alike model where
  name := rfl
  modulePath := kept model.modulePath
  locators := rfl
  columns := ⟨relabelling.column,
    ⟨fun _ => rfl, fun _ => rfl, fun _ => rfl, fun _ => rfl, fun _ => rfl⟩, rfl⟩

/-- The same end of a run, with its locations written otherwise. -/
def outcome (relabelling : Relabelling) : Except RunFailure Output → Except RunFailure Output
  | .error (.diagnostic fault) => .error (.diagnostic (relabelling.diagnostic fault))
  | .error (.illegalName name) => .error (.illegalName name)
  | .ok output => .ok ⟨output.types.map relabelling.model, output.units⟩

end Relabelling

namespace Processing

variable {relabelling} {backend : Backend} {round : Round}

theorem declarationFault?_relabelled (kept : relabelling.KeepsPaths) :
    declarationFault? backend (relabelling.round round) =
      (declarationFault? backend round).map relabelling.diagnostic := by
  have refused : ∀ declaration, refusal? backend (relabelling.declaration declaration) =
      (refusal? backend declaration).map relabelling.diagnostic := by
    intro declaration
    have built : buildType backend (relabelling.declaration declaration) =
        (buildType backend declaration).map relabelling.model := by
      have qualified : (relabelling.declaration declaration).qualifiedName =
          declaration.qualifiedName :=
        congrArg (Text.qualify · declaration.name) (kept declaration.modulePath)
      simp only [buildType, qualified]
      by_cases isStruct : declaration.kind = .struct
      · simp only [Relabelling.declaration, isStruct]
        cases checkLocators backend declaration.qualifiedName
          (declaration.marker.getD .empty) <;> rfl
      · simp only [Relabelling.declaration, ne_eq, isStruct, not_false_eq_true, if_true]
        rfl
    rw [refusal?, refusal?, built]
    cases buildType backend declaration <;> rfl
  rw [declarationFault?, declarationFault?, marked_relabelled, List.findSome?_map,
    List.map_findSome?]
  exact congrArg (fun f => List.findSome? f round.marked) (funext fun entry => refused entry.2)

/-- A run of a round whose locations and types are written otherwise ends as before. -/
theorem process_relabelled {processor : Processor} (kept : relabelling.KeepsPaths)
    (faithful : relabelling.Faithful processor.introspect) :
    processor.process (relabelling.round round) =
      relabelling.outcome (processor.process round) := by
  have columns : columnFault? processor.backend processor.introspect (relabelling.round round) []
      (relabelling.round round).columns = _ := @columnFault?_relabelled _ _ _ _ [] _ faithful
  rw [Processor.process_eq, Processor.process_eq, types_eq, types_eq,
    declarationFault?_relabelled kept, columns, typeFault?_relabelled, models_relabelled faithful]
  cases declarationFault? processor.backend round with
  | some fault => rfl
  | none =>
  cases columnFault? processor.backend processor.introspect round [] round.columns with
  | some fault => rfl
  | none =>
  cases typeFault? processor.backend round with
  | some fault => rfl
  | none =>
  simp only [Option.map_none, Processor.finish,
    processor.mapM_unitsOf_alike (Relabelling.model_alike kept)]
  cases (round.marked.map (modelWith (carried processor.introspect round.columns))).mapM
    processor.unitsOf <;> rfl

end Processing

end StorageMapping
