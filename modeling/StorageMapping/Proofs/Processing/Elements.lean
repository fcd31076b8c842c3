import Mathlib.Data.List.Forall2
import StorageMapping.Proofs.Processing.Faults

namespace StorageMapping.Processing

/-! # Columns of elements

Building a column runs through the list of what an element can have wrong. An element without a
fault carries its column: everything but the representation of its type is what it says itself. -/

/-- A column tells of an element what the element says itself, with the representation of its
type. -/
structure Carries (introspect : Introspector) (element : MarkedElement) (column : Column) :
    Prop where
  owner : column.owner = element.enclosing
  field : column.field = element.name
  fieldName : column.fieldName = element.name.text
  storageName : column.storageName = element.marker.name
  isKey : column.isKey = element.marker.isKey
  ignoresNull : column.ignoresNull = element.marker.ignoresNull
  location : column.location = element.location
  classified : ∃ type, element.type = some type ∧ introspect type = .ok column.type

def columnOf (element : MarkedElement) (type : FieldType) : Column where
  owner := element.enclosing
  field := element.name
  storageName := element.marker.name
  type := type
  isKey := element.marker.isKey
  ignoresNull := element.marker.ignoresNull
  location := element.location

/-- The column of an element, where its type is known. -/
def carry? (introspect : Introspector) (element : MarkedElement) : Option Column := do
  let type ← element.type
  return columnOf element (← (introspect type).toOption)

/-- The columns of the elements whose types are known. -/
def carried (introspect : Introspector) (elements : List MarkedElement) : List Column :=
  elements.filterMap (carry? introspect)

def Typed (introspect : Introspector) (elements : List MarkedElement) : Prop :=
  ∀ element ∈ elements, ∃ column, carry? introspect element = some column

variable {backend : Backend} {introspect : Introspector} {round : Round}
  {element other : MarkedElement} {column : Column} {earlier elements : List MarkedElement}
  {problem : Problem}

theorem carry?_classified {type : Source.TypeExpr} {fieldType : FieldType}
    (declared : element.type = some type) (found : introspect type = .ok fieldType) :
    carry? introspect element = some (columnOf element fieldType) := by
  simp [carry?, declared, found, Except.toOption]

theorem carries_of_carry? (known : carry? introspect element = some column) :
    Carries introspect element column := by
  cases declared : element.type with
  | none => simp [carry?, declared] at known
  | some type =>
      cases found : introspect type with
      | error description => simp [carry?, declared, found, Except.toOption] at known
      | ok fieldType =>
          rw [carry?_classified declared found] at known
          cases known
          exact ⟨rfl, rfl, rfl, rfl, rfl, rfl, rfl, type, declared, found⟩

theorem carried_append (front back : List MarkedElement) :
    carried introspect (front ++ back) = carried introspect front ++ carried introspect back :=
  List.filterMap_append

theorem carried_singleton (known : carry? introspect element = some column) :
    carried introspect [element] = [column] := by
  simp [carried, known]

theorem Typed.nil : Typed introspect [] := by
  simp [Typed]

theorem Typed.append (front : Typed introspect earlier) (back : Typed introspect elements) :
    Typed introspect (earlier ++ elements) := by
  intro element member
  rcases List.mem_append.mp member with before | after
  · exact front element before
  · exact back element after

theorem Typed.singleton (known : carry? introspect element = some column) :
    Typed introspect [element] := by
  intro other member
  rw [List.mem_singleton.mp member]
  exact ⟨column, known⟩

/-- Under known types, the columns correspond to the elements one by one. -/
theorem carried_forall₂ (typed : Typed introspect elements) :
    List.Forall₂ (Carries introspect) elements (carried introspect elements) := by
  induction elements with
  | nil => exact .nil
  | cons element rest ih =>
      obtain ⟨column, known⟩ := typed element (by simp)
      have tail := ih fun later member => typed later (by simp [member])
      simp only [carried, List.filterMap_cons_some known]
      exact .cons (carries_of_carry? known) tail

theorem exists_carried (motive : Column → Prop) (claim : MarkedElement → Prop)
    (typed : Typed introspect elements)
    (agree : ∀ element column, Carries introspect element column →
      (motive column ↔ claim element)) :
    (∃ column ∈ carried introspect elements, motive column) ↔
      ∃ element ∈ elements, claim element := by
  constructor
  · rintro ⟨column, member, holds⟩
    obtain ⟨element, elementMember, known⟩ := List.mem_filterMap.mp member
    exact ⟨element, elementMember, (agree element column (carries_of_carry? known)).mp holds⟩
  · rintro ⟨element, member, holds⟩
    obtain ⟨column, known⟩ := typed element member
    exact ⟨column, List.mem_filterMap.mpr ⟨element, member, known⟩,
      (agree element column (carries_of_carry? known)).mpr holds⟩

def settle : Option Problem → Except Problem Unit
  | some problem => throw problem
  | none => return ()

theorem firstProblem?_append (front back : List (Option Problem)) :
    firstProblem? (front ++ back) = (firstProblem? front).or (firstProblem? back) :=
  List.findSome?_append

@[simp] theorem firstProblem?_singleton (problem? : Option Problem) :
    firstProblem? [problem?] = problem? := by
  cases problem? <;> rfl

theorem checkPlace_eq (round : Round) (element : MarkedElement) :
    checkPlace round element = settle (firstProblem? (placeProblems round element)) := by
  by_cases isField : element.kind = .field
  · cases found : round.declaration? element.enclosing with
    | none => simp [checkPlace, placeProblems, firstProblem?, raisedIf, isField, found, settle]
    | some declaration =>
        by_cases isStruct : declaration.kind = .struct <;>
          cases marked : declaration.isMarked <;>
          simp [checkPlace, placeProblems, firstProblem?, raisedIf, isField, found, isStruct,
            marked, settle]
  · simp [checkPlace, placeProblems, firstProblem?, raisedIf, isField, settle]

theorem checkAccess_eq (element : MarkedElement) :
    checkAccess element = settle (firstProblem? (accessProblems element)) := by
  cases isPrivate : element.isPrivate <;> cases isImmutable : element.isImmutable <;>
    simp [checkAccess, accessProblems, firstProblem?, raisedIf, isPrivate, isImmutable, settle]

theorem checkOptions_eq {type : Source.TypeExpr} {fieldType : FieldType}
    (declared : element.type = some type) (found : introspect type = .ok fieldType) :
    checkOptions element.marker type fieldType =
      settle (firstProblem? (optionProblems introspect element)) := by
  by_cases skipped : element.marker.ignoresNull = true ∧ fieldType.isNonNullablePrimitive = true <;>
    by_cases unnamed : element.marker.name = "" <;>
    simp [checkOptions, optionProblems, skipProblem?, firstProblem?, raisedIf, declared, found,
      Except.toOption, skipped, unnamed, settle]

theorem classifyElement_cases (introspect : Introspector) (element : MarkedElement) :
    (∃ problem, typeProblem? introspect element = some problem ∧
      classifyElement introspect element = .error problem) ∨
    (typeProblem? introspect element = none ∧
      ∃ type fieldType, element.type = some type ∧ introspect type = .ok fieldType ∧
        classifyElement introspect element = .ok (type, fieldType)) := by
  simp only [typeProblem?, classifyElement]
  cases element.type with
  | none => exact .inl ⟨_, rfl, rfl⟩
  | some type =>
      cases found : introspect type with
      | error description =>
          exact .inl ⟨.unsupportedType description, by simp only [found], by simp only [found]; rfl⟩
      | ok fieldType =>
          exact .inr ⟨by simp only [found], type, fieldType, rfl, found, by simp only [found]; rfl⟩

/-- Building a column ends with the first problem on the list of its element, or else with the
column that the element carries. -/
theorem buildColumn_cases (introspect : Introspector) (round : Round) (element : MarkedElement) :
    (∃ problem, firstProblem? (elementProblems introspect round element) = some problem ∧
      buildColumn introspect round element = .error problem) ∨
    (firstProblem? (elementProblems introspect round element) = none ∧
      ∃ column, carry? introspect element = some column ∧
        buildColumn introspect round element = .ok column) := by
  simp only [elementProblems, firstProblem?_append, firstProblem?_singleton, buildColumn,
    checkPlace_eq, checkAccess_eq]
  cases firstProblem? (placeProblems round element) with
  | some problem => exact .inl ⟨problem, rfl, rfl⟩
  | none =>
  cases firstProblem? (accessProblems element) with
  | some problem => exact .inl ⟨problem, rfl, rfl⟩
  | none =>
  rcases classifyElement_cases introspect element with
    ⟨problem, present, failed⟩ | ⟨absent, type, fieldType, declared, found, classified⟩
  · exact .inl ⟨problem, by rw [present]; rfl, by rw [failed]; rfl⟩
  · have options := checkOptions_eq declared found
    rw [absent, classified]
    cases choice : firstProblem? (optionProblems introspect element) with
    | some problem =>
        rw [choice] at options
        refine .inl ⟨problem, rfl, ?_⟩
        change (checkOptions element.marker type fieldType >>= fun _ =>
          pure (columnOf element fieldType)) = _
        rw [options]
        rfl
    | none =>
        rw [choice] at options
        refine .inr ⟨rfl, columnOf element fieldType, carry?_classified declared found, ?_⟩
        change (checkOptions element.marker type fieldType >>= fun _ =>
          pure (columnOf element fieldType)) = _
        rw [options]
        rfl

end StorageMapping.Processing
