import StorageMapping.Proofs.Processing.Legality
import StorageMapping.Proofs.Processing.Runs
import StorageMapping.Proofs.Round.Enclosing

namespace StorageMapping.Processing

/-! # Orphans

An element is an orphan where its number belongs to no type. The number of a declaration that is no
type is refused before, so an orphan has a number that belongs to no declaration at all. -/

variable {backend : Backend} {introspect : Introspector} {round : Round}
  {element : MarkedElement} {earlier elements : List MarkedElement} {fault : Diagnostic}

theorem buildType_not_orphan {declaration : Declaration} {problem : Problem}
    (failed : buildType backend declaration = .error problem) : problem.kind ≠ .orphanColumn := by
  rw [buildType] at failed
  split at failed
  · cases failed
    rintro ⟨⟩
  · rcases Results.bind_eq_error.mp failed with unplaced | ⟨_, _, completed⟩
    · rw [checkLocators] at unplaced
      split at unplaced
      · cases unplaced
      · split at unplaced
        · cases unplaced
          rintro ⟨⟩
        · cases unplaced
    · cases completed

theorem elementProblems_not_orphan {problem : Problem}
    (listed : some problem ∈ elementProblems introspect round element) :
    problem.kind ≠ .orphanColumn := by
  simp only [elementProblems, placeProblems, accessProblems, optionProblems, typeProblem?,
    skipProblem?, raisedIf, List.cons_append, List.nil_append, List.mem_cons, List.not_mem_nil,
    or_false] at listed
  rcases listed with listed | listed | listed | listed | listed | listed | listed | listed
  · split at listed <;> cases listed
    rintro ⟨⟩
  · obtain ⟨_, _, raised⟩ := Option.bind_eq_some_iff.mp listed.symm
    split at raised <;> cases raised
    rintro ⟨⟩
  · obtain ⟨_, _, raised⟩ := Option.bind_eq_some_iff.mp listed.symm
    split at raised <;> cases raised
    rintro ⟨⟩
  · split at listed <;> cases listed
    rintro ⟨⟩
  · split at listed <;> cases listed
    rintro ⟨⟩
  · split at listed
    · cases listed
      rintro ⟨⟩
    · split at listed <;> cases listed
      rintro ⟨⟩
  · obtain ⟨_, _, typed⟩ := Option.bind_eq_some_iff.mp listed.symm
    obtain ⟨_, _, raised⟩ := Option.bind_eq_some_iff.mp typed
    split at raised <;> cases raised
    rintro ⟨⟩
  · split at listed <;> cases listed
    rintro ⟨⟩

theorem lackingProblem?_not_orphan {id : Nat} {problem : Problem}
    (lacking : lackingProblem? round id = some problem) : problem.kind ≠ .orphanColumn := by
  rw [lackingProblem?] at lacking
  split at lacking
  · cases lacking
    rintro ⟨⟩
  · split at lacking <;> cases lacking
    rintro ⟨⟩

/-- Only a number beyond all declarations makes an element an orphan: one within them belongs to a
declaration that has the type marker, or the place of the element is refused. -/
theorem columnProblem?_orphan {problem : Problem}
    (found : columnProblem? introspect round earlier element = some problem)
    (orphaned : problem.kind = .orphanColumn) :
    round.declarations.length ≤ element.enclosing := by
  rw [columnProblem?, firstProblem?_append, Option.or_eq_some_iff] at found
  rcases found with own | ⟨sound, attached⟩
  · obtain ⟨_, listed, rfl⟩ := List.exists_of_findSome?_eq_some own
    exact absurd orphaned (elementProblems_not_orphan listed)
  have unowned : ∀ entry ∈ round.marked, entry.1 ≠ element.enclosing := by
    rw [attachmentProblems, raisedIf] at attached
    split at attached
    · assumption
    · rw [raisedIf] at attached
      split at attached <;> cases attached
      cases orphaned
  rw [← List.getElem?_eq_none_iff]
  cases here : round.declaration? element.enclosing with
  | none => exact here
  | some declaration =>
      simp only [elementProblems, placeProblems, here, Option.bind_some,
        firstProblem?_append_eq_none, firstProblem?_cons_eq_none, raisedIf_eq_none, not_not]
        at sound
      obtain ⟨⟨⟨⟨_, _, isMarked, _⟩, _⟩, _⟩, _⟩ := sound
      exact absurd rfl (unowned _ (Round.mem_marked.mpr ⟨here, isMarked⟩))

theorem columnFault?_orphan
    (found : columnFault? backend introspect round earlier elements = some fault)
    (orphaned : fault.kind = .orphanColumn) :
    ∃ element ∈ elements, round.declarations.length ≤ element.enclosing := by
  induction elements generalizing earlier with
  | nil => cases found
  | cons element rest ih =>
      rw [columnFault?] at found
      split at found
      · rename_i problem present
        cases found
        exact ⟨element, List.mem_cons_self, columnProblem?_orphan present orphaned⟩
      · obtain ⟨other, member, beyond⟩ := ih found
        exact ⟨other, List.mem_cons_of_mem _ member, beyond⟩

theorem orphan_of_process {processor : Processor}
    (failed : processor.process round = .error (.diagnostic fault))
    (orphaned : fault.kind = .orphanColumn) :
    ∃ element ∈ round.columns, round.declarations.length ≤ element.enclosing := by
  rw [Processor.process_eq, types_eq] at failed
  cases declared : declarationFault? processor.backend round with
  | some other =>
      simp only [declared] at failed
      cases failed
      obtain ⟨entry, _, refused⟩ := List.exists_of_findSome?_eq_some declared
      rw [refusal?] at refused
      split at refused
      · rename_i problem unbuilt
        cases refused
        exact absurd orphaned (buildType_not_orphan unbuilt)
      · cases refused
  | none =>
  cases judged : columnFault? processor.backend processor.introspect round [] round.columns with
  | some other =>
      simp only [declared, judged] at failed
      cases failed
      exact columnFault?_orphan judged orphaned
  | none =>
  cases lacking : typeFault? processor.backend round with
  | some other =>
      simp only [declared, judged, lacking] at failed
      cases failed
      obtain ⟨entry, _, reported⟩ := List.exists_of_findSome?_eq_some lacking
      obtain ⟨problem, present, rfl⟩ := Option.map_eq_some_iff.mp reported
      exact absurd orphaned (lackingProblem?_not_orphan present)
  | none =>
      simp only [declared, judged, lacking, Processor.finish] at failed
      split at failed <;> cases failed

/-- A field without a declaration is an orphan, if its type can be stored at all. -/
theorem process_single_orphan (processor : Processor) {type : Source.TypeExpr}
    {fieldType : FieldType} (classified : processor.introspect type = .ok fieldType) :
    ∃ element fault, processor.process ⟨[], [element]⟩ = .error (.diagnostic fault) ∧
      fault.kind = .orphanColumn := by
  let element : MarkedElement :=
    ⟨.field, .plain "f", some type, false, false, ⟨"c", false, false⟩, 0, .detached "f"⟩
  have problem : columnProblem? processor.introspect ⟨[], [element]⟩ [] element =
      some .orphan := by
    simp [columnProblem?, elementProblems, placeProblems, accessProblems, optionProblems,
      attachmentProblems, typeProblem?, skipProblem?, classified, firstProblem?, raisedIf, element,
      Round.declaration?, Round.marked, Round.number, Except.toOption]
  refine ⟨element, Problem.report processor.backend element.location .orphan, ?_, rfl⟩
  rw [Processor.process_eq, types_eq]
  have declared : declarationFault? processor.backend ⟨[], [element]⟩ = none := rfl
  rw [declared, columnFault?, problem]

/-- In a round that was read, and in all that is put together from such rounds, the columns have
declarations: each a number that is there, in the order of the declarations, with one at least in
every declaration that is no type, and each under the name of its declaration. So processing never
meets an orphan there; it does where a round holds a number without a declaration, and only so. -/
theorem orphan_unreachable :
    (∀ round : Round, round.Found →
        (∀ element ∈ round.columns, element.enclosing < round.declarations.length) ∧
          (round.columns.map (·.enclosing)).Pairwise (· ≤ ·) ∧
          (∀ id declaration, round.declaration? id = some declaration →
            declaration.marker = none → ∃ element ∈ round.columns, element.enclosing = id) ∧
          (∀ element ∈ round.columns, ∃ declaration inner,
            round.declaration? element.enclosing = some declaration ∧
              element.location.element = declaration.qualifiedName ++ "::" ++ inner) ∧
          ∀ (processor : Processor) (fault : Diagnostic),
            processor.process round = .error (.diagnostic fault) → fault.kind ≠ .orphanColumn) ∧
      (∀ (processor : Processor) (round : Round) (fault : Diagnostic),
        processor.process round = .error (.diagnostic fault) → fault.kind = .orphanColumn →
          ∃ element ∈ round.columns, round.declarations.length ≤ element.enclosing) ∧
      ∀ (processor : Processor) (type : Source.TypeExpr) (fieldType : FieldType),
        processor.introspect type = .ok fieldType →
          ∃ element fault, processor.process ⟨[], [element]⟩ = .error (.diagnostic fault) ∧
            fault.kind = .orphanColumn := by
  refine ⟨fun round found => ?_, fun _ _ _ => orphan_of_process,
    fun processor _ _ => process_single_orphan processor⟩
  have enclosed := found.enclosed
  refine ⟨enclosed.bounded, enclosed.ordered, enclosed.occupied, fun element member => ?_, ?_⟩
  · obtain ⟨declaration, here, inner, stands⟩ := enclosed.placed element member
    exact ⟨declaration, inner, here, stands⟩
  · intro processor fault failed orphaned
    obtain ⟨element, member, beyond⟩ := orphan_of_process failed orphaned
    exact absurd (enclosed.bounded element member) (Nat.not_lt.mpr beyond)

theorem orphan_unreachable_least :
    (∃ round : Round, round.Found ∧ round.marked ≠ [] ∧
        ∀ element ∈ (round.extend round).columns,
          element.enclosing < (round.extend round).declarations.length) ∧
      ∃ element fault,
        lendingProcessor.process ⟨[], [element]⟩ = .error (.diagnostic fault) ∧
          fault.kind = .orphanColumn := by
  constructor
  · have offered : Backend.sqlite ∈ Backend.all := by decide
    obtain ⟨items, round, _, scanned, _, marked⟩ := Backend.leastText_scanned offered
    have found : round.Found := .items scanned
    exact ⟨round, found, marked, (orphan_unreachable.1 _ (.extend found found)).1⟩
  · exact orphan_unreachable.2.2 lendingProcessor
      (.path false [.mk (.plain "i64") .start none]) _ rfl

end StorageMapping.Processing
