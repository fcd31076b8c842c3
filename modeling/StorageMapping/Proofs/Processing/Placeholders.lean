import StorageMapping.Proofs.Code.Conditions
import StorageMapping.Proofs.Processing.Keyed

namespace StorageMapping

/-! # Placeholders and their arguments

The update of a put and a delete of the same type have one condition. It has an argument for every
key column. That its placeholders are as many, that it falls into one part for every key column, and
that it tells the key columns can only be known from their storage names. -/

open Source Code KeyCondition Results

/-- What can be said of the placeholders in a condition on the key columns of a type. -/
structure Placeholders (model : TypeModel) (condition : Condition) : Prop where
  clause : condition.clause = clauseOf model.keyNames
  arguments : condition.arguments = model.keyColumns.map fun column =>
    .call ["core", "clone", "Clone", "clone"] (.borrowed "object" column.field)
  counted : condition.clause.toList.count '?' = condition.arguments.length ↔
    ∀ name ∈ model.keyNames, '?' ∉ name.toList
  placed : (∀ name ∈ model.keyNames, '?' ∉ name.toList) →
    ∀ index column, model.keyColumns[index]? = some column →
      ∃ front back, condition.clause = front ++ part column.storageName ++ back ∧
        front.toList.count '?' = index
  parted : Text.parts " AND " condition.clause = model.keyNames.map part ↔
    ∀ name ∈ model.keyNames, ¬ " AND ".toList <:+: (part name).toList
  /-- Other names have another clause. -/
  told : Unambiguous model.keyNames → ∀ names, Unambiguous names →
    clauseOf names = condition.clause → names = model.keyNames
  unambiguous : (∀ name ∈ model.keyNames, '?' ∉ name.toList) ∨
    (∀ name ∈ model.keyNames, ¬ " AND ".toList <:+: (part name).toList) →
      Unambiguous model.keyNames

theorem length_arguments (model : TypeModel) :
    (onKeys model).arguments.length = model.keyNames.length := by
  rw [arguments_onKeys, TypeModel.keyNames, List.length_map, List.length_map]

theorem placeholders_ofModel {model : TypeModel} (keyed : model.keyColumns ≠ []) :
    Placeholders model (onKeys model) := by
  have clause := clause_onKeys model
  refine ⟨clause, arguments_onKeys model, ?_, ?_, ?_, ?_, ?_⟩
  · rw [clause, length_arguments]
    exact count_clauseOf_eq
  · intro unmarked index column found
    rw [clause]
    refine placeholder_of_name unmarked ?_
    rw [TypeModel.keyNames, List.getElem?_map, found]
    rfl
  · rw [clause]
    exact parts_clauseOf (List.map_eq_nil_iff.not.mpr keyed)
  · intro told names others same
    exact clauseOf_injective others told (same.trans clause)
  · rintro (unmarked | unbroken)
    · exact unambiguous_of_unmarked unmarked
    · exact unambiguous_of_unbroken unbroken

namespace Processing

variable {first second : Backend} {processor : Processor} {round : Round} {output : Output}
  {model : TypeModel}

/-- An output has a put and a delete of a type whose queries have a condition. -/
def Conditioned (processor : Processor) (output : Output) (first second : Backend)
    (model : TypeModel) (condition : Condition) : Prop :=
  ∃ put ∈ output.units, ∃ delete ∈ output.units,
    Generator.generate ⟨first, .put⟩ processor.context model = .ok put ∧
    Generator.generate ⟨second, .delete⟩ processor.context model = .ok delete ∧
    ∃ putTemplate deleteTemplate update deletion,
      filled processor.context.runtime.tokens putTemplate = put.tokens ∧
      filled processor.context.runtime.tokens deleteTemplate = delete.tokens ∧
      query? "map_to_update_query" putTemplate = some update ∧
      query? "map_to_delete_query" deleteTemplate = some deletion ∧
      update.condition = some condition ∧ deletion.condition = some condition

/-- Every type has a unit of every strategy, and a template of it for any runtime module. -/
theorem template_of_type {generator : Generator} (offered : generator ∈ processor.generators)
    (completed : processor.process round = .ok output) (member : model ∈ output.types) :
    ∃ unit ∈ output.units, generator.generate processor.context model = .ok unit ∧
      ∃ template, generator.tokens processor.context.vacant model = .ok template ∧
        filled processor.context.runtime.tokens template = unit.tokens := by
  obtain ⟨unit, inside, made⟩ := unit_of_type completed member offered
  obtain ⟨_, coded, rfl⟩ := Generator.generate_eq_ok.mp made
  obtain ⟨template, vacant, filled⟩ := Generator.tokens_vacant coded
  exact ⟨_, inside, made, template, vacant, filled⟩

theorem conditioned_of_type (putting : ⟨first, .put⟩ ∈ processor.generators)
    (deleting : ⟨second, .delete⟩ ∈ processor.generators)
    (completed : processor.process round = .ok output) (member : model ∈ output.types) :
    Conditioned processor output first second model (onKeys model) := by
  obtain ⟨put, putMember, putMade, putTemplate, putVacant, putFilled⟩ :=
    template_of_type putting completed member
  obtain ⟨delete, deleteMember, deleteMade, deleteTemplate, deleteVacant, deleteFilled⟩ :=
    template_of_type deleting completed member
  have update := query?_of_body (body?_put putVacant).2
  have deletion := query?_of_body (body?_delete deleteVacant)
  exact ⟨put, putMember, delete, deleteMember, putMade, deleteMade, putTemplate, deleteTemplate,
    _, _, putFilled, deleteFilled, update, deletion, rfl, rfl⟩

theorem keyColumns_ne_nil (completed : processor.process round = .ok output)
    (member : model ∈ output.types) : model.keyColumns ≠ [] := by
  obtain ⟨column, inside, isKey⟩ := (wellFormed_of_type completed member).keyed
  exact List.ne_nil_of_mem (List.mem_filter.mpr ⟨inside, isKey⟩)

/-- The condition of every update and delete has one argument for every key column. It has as many
placeholders just where no key column has a question mark in its storage name, and then each stands
behind the name of its column. The parts between connectives are those of the key columns just where
none of them has a connective inside. Either makes conditions of other key columns differ. -/
theorem process_placeholders (putting : ⟨first, .put⟩ ∈ processor.generators)
    (deleting : ⟨second, .delete⟩ ∈ processor.generators)
    (completed : processor.process round = .ok output) :
    ∀ model ∈ output.types, ∃ condition,
      Conditioned processor output first second model condition ∧
        Placeholders model condition := by
  intro model member
  have keyed := keyColumns_ne_nil completed member
  exact ⟨_, conditioned_of_type putting deleting completed member, placeholders_ofModel keyed⟩

theorem process_placeholders_lending :
    ∃ output, lendingProcessor.process lendingRound = .ok output ∧
      ∀ model ∈ output.types, ∃ condition,
        Conditioned lendingProcessor output .contentResolver .contentResolver model condition ∧
          Placeholders model condition := by
  obtain ⟨output, completed⟩ := lending_completes
  exact ⟨output, completed, process_placeholders (by decide) (by decide) completed⟩

/-! ## Conditions that are alike -/

/-- One type has a key column with a storage name that looks like a condition on both key columns of
the other. -/
def collidingRound : Round where
  declarations := [
    ⟨"Single", ["library"], .struct, some ⟨"singles", "", "", ""⟩, .detached "library::Single"⟩,
    ⟨"Pair", ["library"], .struct, some ⟨"pairs", "", "", ""⟩, .detached "library::Pair"⟩]
  columns := [
    { plainElement 0 "both" "i64" true with marker := ⟨"a = ? AND b", true, false⟩ },
    plainElement 1 "a" "i64" true,
    plainElement 1 "b" "i64" true]

theorem colliding_completes :
    ∃ output, lendingProcessor.process collidingRound = .ok output ∧
      output.types.map (·.keyNames) = [["a = ? AND b"], ["a", "b"]] := by
  obtain ⟨output, completed, types⟩ := @lending_process_ok collidingRound
    ⟨by decide, by decide, by decide⟩ (by decide +kernel)
  exact ⟨output, completed, types ▸ rfl⟩

/-- Both types are accepted and have one clause. It has two placeholders and two parts, though the
first of the types has one key column. -/
theorem colliding_placeholders :
    ∃ output, lendingProcessor.process collidingRound = .ok output ∧
      ∃ model ∈ output.types, ∃ other ∈ output.types, ∃ condition otherCondition,
        Conditioned lendingProcessor output .contentResolver .contentResolver model condition ∧
        Conditioned lendingProcessor output .contentResolver .contentResolver other otherCondition ∧
        model.keyNames ≠ other.keyNames ∧ condition.clause = otherCondition.clause ∧
        condition.clause.toList.count '?' ≠ condition.arguments.length ∧
        Text.parts " AND " condition.clause ≠ model.keyNames.map part := by
  obtain ⟨output, completed, named⟩ := colliding_completes
  have putting : ⟨.contentResolver, .put⟩ ∈ lendingProcessor.generators := by decide
  have deleting : ⟨.contentResolver, .delete⟩ ∈ lendingProcessor.generators := by decide
  obtain ⟨model, member, names⟩ : ∃ model ∈ output.types, model.keyNames = ["a = ? AND b"] :=
    List.mem_map.mp (named ▸ List.mem_cons_self)
  obtain ⟨other, otherMember, otherNames⟩ : ∃ other ∈ output.types, other.keyNames = ["a", "b"] :=
    List.mem_map.mp (named ▸ List.mem_cons_of_mem _ List.mem_cons_self)
  refine ⟨output, completed, model, member, other, otherMember, _, _,
    conditioned_of_type putting deleting completed member,
    conditioned_of_type putting deleting completed otherMember, ?_⟩
  simp only [length_arguments, clause_onKeys, names, otherNames]
  exact ⟨by decide, by decide, by decide, by decide⟩

end Processing

end StorageMapping
