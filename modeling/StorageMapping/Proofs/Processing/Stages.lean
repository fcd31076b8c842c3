import StorageMapping.Proofs.Processing.Elements

namespace StorageMapping.Processing

/-! # The stages of a run

Each stage either reports the first fault of its list or leaves the types in a known form: all
marked declarations in order, each with the columns of the elements seen so far that it owns. -/

variable {backend : Backend} {introspect : Introspector} {round : Round}
  {element : MarkedElement} {earlier elements : List MarkedElement}

/-! ## Declarations -/

theorem buildType_ok {declaration : Declaration} {model : TypeModel}
    (built : buildType backend declaration = .ok model) :
    declaration.kind = .struct ∧ model = shell declaration ∧
      checkLocators backend declaration.qualifiedName (declaration.marker.getD .empty) =
        .ok () := by
  by_cases isStruct : declaration.kind = .struct
  · cases checked : checkLocators backend declaration.qualifiedName
        (declaration.marker.getD .empty) with
    | error problem =>
        simp only [buildType, isStruct, checked, ne_eq, not_true_eq_false, if_false] at built
        contradiction
    | ok =>
        simp only [buildType, isStruct, checked, ne_eq, not_true_eq_false, if_false] at built
        cases built
        exact ⟨isStruct, rfl, rfl⟩
  · simp only [buildType, isStruct, ne_eq, not_false_eq_true, if_true] at built
    contradiction

/-- The numbers of the declarations increase, so each new type goes behind those that are there. -/
theorem buildShells_eq (backend : Backend) {entries : List (Nat × Declaration)} (shells : Shells)
    (increasing : entries.Pairwise fun left right => left.1 < right.1)
    (above : ∀ entry ∈ entries, ∀ present ∈ shells, present.1 < entry.1) :
    buildShells backend entries shells =
      match entries.findSome? fun entry => refusal? backend entry.2 with
      | some fault => .error fault
      | none => .ok (shells ++ assemble entries []) := by
  induction entries generalizing shells with
  | nil => simp [buildShells, assemble]; rfl
  | cons entry rest ih =>
      obtain ⟨later, ordered⟩ := List.pairwise_cons.mp increasing
      cases built : buildType backend entry.2 with
      | error problem =>
          have refused : refusal? backend entry.2 =
              some (problem.report backend entry.2.location) := by
            rw [refusal?, built]
          simp only [buildShells, List.findSome?_cons, refused, built]
          rfl
      | ok model =>
          have accepted : refusal? backend entry.2 = none := by rw [refusal?, built]
          have bare : modelWith [] entry = model := by
            rw [(buildType_ok built).2.1]
            rfl
          have following : ∀ other ∈ rest, ∀ present ∈ shells ++ [(entry.1, model)],
              present.1 < other.1 := by
            intro other member present presentMember
            rcases List.mem_append.mp presentMember with before | here
            · exact above other (by simp [member]) present before
            · rw [List.mem_singleton.mp here]
              exact later other member
          simp only [buildShells, List.findSome?_cons, accepted, built,
            Shells.insert_above (above entry (by simp)), ih _ ordered following]
          simp only [assemble, List.map_cons, bare, List.append_assoc, List.singleton_append]

/-! ## Elements -/

theorem Clash_carried {column : Column} (typed : Typed introspect earlier)
    (known : carry? introspect element = some column) :
    (∃ before ∈ carried introspect earlier, Column.Clash before column) ↔
      ∃ other ∈ earlier, MarkedElement.Clash other element := by
  have latter := carries_of_carry? known
  refine exists_carried _ _ typed fun other before former => ?_
  simp only [Column.Clash, MarkedElement.Clash, former.owner, former.storageName,
    former.fieldName, latter.owner, latter.storageName, latter.fieldName]

/-- Adding an element ends with the first problem on its list, or else its owner has one more
column. -/
theorem addColumn_cases (backend : Backend) (round : Round) (typed : Typed introspect earlier)
    (element : MarkedElement) :
    (∃ problem, columnProblem? introspect round earlier element = some problem ∧
      addColumn backend introspect round (assemble round.marked (carried introspect earlier))
        element = .error (problem.report backend element.location)) ∨
    (columnProblem? introspect round earlier element = none ∧
      Typed introspect (earlier ++ [element]) ∧
      addColumn backend introspect round (assemble round.marked (carried introspect earlier))
        element = .ok (assemble round.marked (carried introspect (earlier ++ [element])))) := by
  simp only [columnProblem?, firstProblem?_append, addColumn]
  rcases buildColumn_cases introspect round element with
    ⟨problem, present, failed⟩ | ⟨absent, column, known, built⟩
  · exact .inl ⟨problem, by rw [present]; rfl, by rw [failed]; rfl⟩
  · have latter := carries_of_carry? known
    have attached := attach_assemble (carried introspect earlier) column round.marked_increasing
    simp only [Clash_carried typed known, latter.owner, latter.storageName] at attached
    have run : (buildColumn introspect round element >>=
          (assemble round.marked (carried introspect earlier)).attach) =
        (assemble round.marked (carried introspect earlier)).attach column := by
      rw [built]
      rfl
    rw [absent, run, attached]
    by_cases orphaned : ∀ entry ∈ round.marked, entry.1 ≠ element.enclosing
    · refine .inl ⟨.orphan, ?_, by simp only [if_pos orphaned]; rfl⟩
      simp only [attachmentProblems, raisedIf, if_pos orphaned]
      rfl
    · by_cases clashes : ∃ other ∈ earlier, MarkedElement.Clash other element
      · refine .inl ⟨.duplicate element.marker.name, ?_,
          by simp only [if_neg orphaned, if_pos clashes]; rfl⟩
        simp only [attachmentProblems, raisedIf, if_neg orphaned, if_pos clashes]
        rfl
      · refine .inr ⟨?_, typed.append (.singleton known), ?_⟩
        · simp only [attachmentProblems, raisedIf, if_neg orphaned, if_neg clashes]
          rfl
        · simp only [if_neg orphaned, if_neg clashes, carried_append, carried_singleton known]
          rfl

/-- The invariant of the loop: the types hold the columns of all elements seen so far, and these
have known types. -/
theorem foldlM_addColumn (backend : Backend) (round : Round) (typed : Typed introspect earlier)
    (elements : List MarkedElement) :
    elements.foldlM (addColumn backend introspect round)
        (assemble round.marked (carried introspect earlier)) =
      match columnFault? backend introspect round earlier elements with
      | some fault => .error fault
      | none => .ok (assemble round.marked (carried introspect (earlier ++ elements))) := by
  induction elements generalizing earlier with
  | nil => simp only [columnFault?, List.append_nil]; rfl
  | cons element rest ih =>
      rw [List.foldlM_cons, columnFault?]
      rcases addColumn_cases backend round typed element with
        ⟨problem, present, failed⟩ | ⟨absent, nextTyped, added⟩
      · rw [present, failed]
        rfl
      · have rest := ih nextTyped
        rw [List.append_assoc, List.singleton_append] at rest
        rw [absent, added]
        exact rest

theorem typed_of_columnFault? (typed : Typed introspect earlier)
    (sound : columnFault? backend introspect round earlier elements = none) :
    Typed introspect (earlier ++ elements) := by
  induction elements generalizing earlier with
  | nil => simpa using typed
  | cons element rest ih =>
      rw [columnFault?] at sound
      rcases addColumn_cases backend round typed element with
        ⟨problem, present, _⟩ | ⟨absent, nextTyped, _⟩
      · rw [present] at sound
        contradiction
      · rw [absent] at sound
        have all := ih nextTyped sound
        rwa [List.append_assoc, List.singleton_append] at all

/-! ## Types -/

theorem validate_eq (backend : Backend) (shells : Shells) :
    shells.validate backend =
      match shells.findSome? fun entry =>
          (Shells.lack? entry.2).map (·.report backend entry.2.location) with
      | some fault => .error fault
      | none => .ok () := by
  induction shells with
  | nil => rfl
  | cons entry rest ih =>
      rw [Shells.validate, List.findSome?_cons]
      cases Shells.lack? entry.2 with
      | some problem => rfl
      | none => exact ih

/-- What the assembled type of a number lacks can be seen from the elements. -/
theorem lack?_carried (typed : Typed introspect round.columns) (entry : Nat × Declaration) :
    Shells.lack? (modelWith (carried introspect round.columns) entry) =
      lackingProblem? round entry.1 := by
  have owned := exists_carried (fun column => column.owner = entry.1)
    (fun element => element.enclosing = entry.1) typed
    fun element column carries => by rw [carries.owner]
  have keyed := exists_carried (fun column => column.isKey = true ∧ column.owner = entry.1)
    (fun element => element.enclosing = entry.1 ∧ element.marker.isKey = true) typed
    fun element column carries => by rw [carries.owner, carries.isKey, and_comm]
  have empty : (modelWith (carried introspect round.columns) entry).columns.isEmpty = true ↔
      ∀ element ∈ round.columns, element.enclosing ≠ entry.1 := by
    simpa [modelWith] using not_congr owned
  have keyless : (modelWith (carried introspect round.columns) entry).keyColumns.isEmpty = true ↔
      ∀ element ∈ round.columns, element.enclosing = entry.1 → ¬ element.marker.isKey := by
    simpa [TypeModel.keyColumns, modelWith] using not_congr keyed
  simp only [Shells.lack?, lackingProblem?, empty, keyless]

theorem validate_assemble (backend : Backend) (typed : Typed introspect round.columns) :
    (assemble round.marked (carried introspect round.columns)).validate backend =
      match typeFault? backend round with
      | some fault => .error fault
      | none => .ok () := by
  rw [validate_eq, assemble, List.findSome?_map, typeFault?]
  simp only [Function.comp_def, lack?_carried typed]
  rfl

/-! ## All stages -/

/-- The types of a round are known exactly where no stage finds a fault. -/
theorem types_eq (backend : Backend) (introspect : Introspector) (round : Round) :
    types backend introspect round =
      match declarationFault? backend round,
          columnFault? backend introspect round [] round.columns, typeFault? backend round with
      | some fault, _, _ => .error fault
      | none, some fault, _ => .error fault
      | none, none, some fault => .error fault
      | none, none, none =>
          .ok (round.marked.map (modelWith (carried introspect round.columns))) := by
  have untyped : Typed introspect [] := .nil
  have shells := buildShells_eq backend [] round.marked_increasing (by simp)
  have attached := foldlM_addColumn backend round untyped round.columns
  rw [List.nil_append] at shells attached
  rw [types, shells, declarationFault?]
  -- with every stage that succeeds, the next one is the first of those that are left
  cases round.marked.findSome? fun entry => refusal? backend entry.2 with
  | some fault => rfl
  | none =>
  change (round.columns.foldlM (addColumn backend introspect round)
    (assemble round.marked (carried introspect [])) >>= _) = _
  rw [attached]
  cases sound : columnFault? backend introspect round [] round.columns with
  | some fault => rfl
  | none =>
  have typed := typed_of_columnFault? untyped sound
  rw [List.nil_append] at typed
  change ((assemble round.marked (carried introspect round.columns)).validate backend >>= fun _ =>
    pure ((assemble round.marked (carried introspect round.columns)).map (·.2))) = _
  rw [validate_assemble backend typed]
  cases typeFault? backend round with
  | some fault => rfl
  | none =>
      change Except.ok ((assemble round.marked (carried introspect round.columns)).map (·.2)) = _
      rw [assemble, List.map_map]
      rfl

end StorageMapping.Processing
