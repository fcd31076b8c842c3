import StorageMapping.Proofs.Processing.Stages

namespace StorageMapping.Processing

/-! # Rounds without a fault

What the absence of a fault says about the declarations and the elements of a round. -/

variable {backend : Backend} {introspect : Introspector} {round : Round}
  {element : MarkedElement} {earlier elements : List MarkedElement} {column : Column}

/-! ## Declarations -/

/-- Without a common locator, every operation that is checked has its own, and one is checked. -/
theorem checkLocators_ok {name : String} {locators : Locators}
    (checked : checkLocators backend name locators = .ok ()) :
    locators.common ≠ "" ∨
      backend.operations ≠ [] ∧
        ∀ operation ∈ backend.operations, locators.own operation ≠ "" := by
  by_cases common : locators.common = ""
  · refine .inr ?_
    cases missing : missingOperations backend locators with
    | cons operation rest =>
        simp [checkLocators, common, missing] at checked
    | nil =>
        have present : ∀ operation ∈ backend.operations, locators.own operation ≠ "" := by
          simpa [missingOperations] using missing
        refine ⟨?_, present⟩
        intro unchecked
        simp [checkLocators, common, unchecked] at checked
  · exact .inl common

theorem resolve_eq_empty {locators : Locators} {operation : Operation} :
    locators.resolve operation = "" ↔
      locators.common = "" ∧ locators.own operation = "" := by
  by_cases own : locators.own operation = ""
  · simp [Locators.resolve, own]
  · simp [Locators.resolve, String.isEmpty_iff, own]

/-- Each backend that a user can choose checks all operations or none, so an accepted declaration
has a locator for every one. -/
theorem resolve_of_checked {name : String} {locators : Locators}
    (offered : backend ∈ Backend.all) (checked : checkLocators backend name locators = .ok ())
    (operation : Operation) : locators.resolve operation ≠ "" := by
  intro empty
  obtain ⟨common, own⟩ := resolve_eq_empty.mp empty
  rcases checkLocators_ok checked with given | ⟨some, present⟩
  · exact given common
  · simp only [Backend.all, List.mem_cons, List.not_mem_nil, or_false] at offered
    rcases offered with rfl | rfl
    · contradiction
    · exact present operation (by cases operation <;> decide) own

theorem declarationFault?_eq_none (sound : declarationFault? backend round = none)
    {entry : Nat × Declaration} (member : entry ∈ round.marked) :
    entry.2.kind = .struct ∧
      checkLocators backend entry.2.qualifiedName (entry.2.marker.getD .empty) = .ok () := by
  have accepted := List.findSome?_eq_none_iff.mp sound entry member
  cases built : buildType backend entry.2 with
  | error problem => simp [refusal?, built] at accepted
  | ok model => exact ⟨(buildType_ok built).1, (buildType_ok built).2.2⟩

/-! ## Elements -/

theorem firstProblem?_cons_eq_none {problem? : Option Problem} {rest : List (Option Problem)} :
    firstProblem? (problem? :: rest) = none ↔ problem? = none ∧ firstProblem? rest = none := by
  cases problem? <;> simp [firstProblem?]

theorem firstProblem?_append_eq_none {front back : List (Option Problem)} :
    firstProblem? (front ++ back) = none ↔
      firstProblem? front = none ∧ firstProblem? back = none := by
  rw [firstProblem?_append, Option.or_eq_none_iff]

theorem raisedIf_eq_none {condition : Prop} [Decidable condition] {problem : Problem} :
    raisedIf condition problem = none ↔ ¬ condition := by
  simp [raisedIf]

/-- An element whose column is attached is a field with a name for it, an owner among the types, and
no rival before it. A value that is always there is never marked to be skipped. -/
structure Attachable (introspect : Introspector) (round : Round) (earlier : List MarkedElement)
    (element : MarkedElement) : Prop where
  isField : element.kind = .field
  named : element.marker.name ≠ ""
  skipsNoPrimitive : ∀ column, Carries introspect element column →
    ¬ (column.ignoresNull = true ∧ column.type.isNonNullablePrimitive = true)
  owned : ∃ entry ∈ round.marked, entry.1 = element.enclosing
  unrivalled : ∀ other ∈ earlier, ¬ MarkedElement.Clash other element

theorem attachable_of_sound (sound : columnProblem? introspect round earlier element = none) :
    Attachable introspect round earlier element := by
  simp only [columnProblem?, elementProblems, placeProblems, optionProblems, attachmentProblems,
    firstProblem?_append_eq_none, firstProblem?_cons_eq_none, raisedIf_eq_none, not_not] at sound
  obtain ⟨⟨⟨⟨⟨isField, _⟩, _⟩, _⟩, skips, named, _⟩, owned, unrivalled, _⟩ := sound
  refine ⟨isField, named, ?_, by simpa using owned, ?_⟩
  · intro column carries
    obtain ⟨type, declared, found⟩ := carries.classified
    simp only [skipProblem?, declared, found, Except.toOption, Option.bind_eq_bind,
      Option.bind_some, raisedIf_eq_none] at skips
    rwa [carries.ignoresNull]
  · intro other member clash
    exact unrivalled ⟨other, member, clash⟩

theorem columnFault?_cons {rest : List MarkedElement} :
    columnFault? backend introspect round earlier (element :: rest) = none ↔
      columnProblem? introspect round earlier element = none ∧
        columnFault? backend introspect round (earlier ++ [element]) rest = none := by
  rw [columnFault?]
  cases columnProblem? introspect round earlier element <;> simp

/-- Every element of a list without a fault is sound behind those before it. -/
theorem columnFault?_eq_none :
    columnFault? backend introspect round earlier elements = none ↔
      ∀ front element back, elements = front ++ element :: back →
        columnProblem? introspect round (earlier ++ front) element = none := by
  induction elements generalizing earlier with
  | nil => simp [columnFault?]
  | cons head rest ih =>
      rw [columnFault?_cons, ih]
      constructor
      · rintro ⟨first, following⟩ front element back split
        cases front with
        | nil =>
            obtain ⟨rfl, _⟩ := List.cons.inj split
            simpa using first
        | cons _ front =>
            obtain ⟨rfl, tail⟩ := List.cons.inj split
            simpa using following front element back tail
      · intro all
        refine ⟨by simpa using all [] head rest rfl, fun front element back split => ?_⟩
        simpa using all (head :: front) element back (by rw [split]; rfl)

theorem attachable_of_mem (sound : columnFault? backend introspect round earlier elements = none)
    (member : element ∈ elements) :
    ∃ before, Attachable introspect round before element := by
  obtain ⟨front, back, split⟩ := List.append_of_mem member
  exact ⟨_, attachable_of_sound (columnFault?_eq_none.mp sound front element back split)⟩

theorem unrivalled_of_columnFault?
    (sound : columnFault? backend introspect round earlier elements = none) :
    elements.Pairwise fun former latter => ¬ MarkedElement.Clash former latter := by
  induction elements generalizing earlier with
  | nil => exact .nil
  | cons head rest ih =>
      have following := (columnFault?_cons.mp sound).2
      refine .cons (fun latter member => ?_) (ih following)
      obtain ⟨front, back, split⟩ := List.append_of_mem member
      have free := attachable_of_sound (columnFault?_eq_none.mp following front latter back split)
      exact free.unrivalled head (by simp)

end StorageMapping.Processing
