import StorageMapping.Proofs.Processing.Lossless
import StorageMapping.Proofs.Processing.Placeholders

namespace StorageMapping.Processing

/-! # Own rows are found again

The put of an object writes a row, and its update and delete are for the rows that meet a condition.
The object's own row is among them just where no key field is absent. -/

open Source Code

variable {floats : Floats} {Foreign : Type} {first second : Backend} {processor : Processor}
  {round : Round} {output : Output}

/-- An output has a put of a type, which fills the content values by the statements of its
columns. -/
def Fills (processor : Processor) (output : Output) (backend : Backend) (model : TypeModel) :
    Prop :=
  ∃ put ∈ output.units, Generator.generate ⟨backend, .put⟩ processor.context model = .ok put ∧
    ∃ template, filled processor.context.runtime.tokens template = put.tokens ∧
      body? "map_to_content_values" template =
        some (emptyValues model ++ model.contentPuts.flatMap (·.tokens)
          ++ Fragment.word "content_values")

theorem fills_of_type {model : TypeModel} (putting : ⟨first, .put⟩ ∈ processor.generators)
    (completed : processor.process round = .ok output) (member : model ∈ output.types) :
    Fills processor output first model := by
  obtain ⟨put, putMember, made, template, vacant, filled⟩ :=
    template_of_type putting completed member
  exact ⟨put, putMember, made, template, filled, body?_values vacant⟩

/-- The columns of every type have room for the objects of its declaration. -/
theorem types_hold (floats : Floats) (Foreign : Type)
    (introspects : processor.introspect = Column.classify)
    (completed : processor.process round = .ok output) :
    List.Forall₂
      (fun entry model => model ∈ output.types ∧ model.WellFormed ∧
        ∀ object : Object floats Foreign, Fits round entry.1 object →
          ∀ column ∈ model.columns, column.type.Holds (object column.fieldName))
      round.marked output.types := by
  obtain ⟨faultless, _, _, _, mapped⟩ := process_eq_ok.mp completed
  rw [introspects] at faultless mapped
  rw [mapped, List.forall₂_map_right_iff, List.forall₂_same]
  exact fun entry member => ⟨List.mem_map_of_mem member, faultless.wellFormed member,
    fun object fits => faultless.holds fits⟩

/-- Where a store compares as databases do and finds the key columns in the condition of an update
and a delete, the condition is true of the row that is written for the same object just where every
key field is present. So it always is where no key can be absent. Floating-point keys are left
out. -/
theorem process_found (floats : Floats) (Foreign : Type)
    (introspects : processor.introspect = Column.classify)
    (putting : ⟨first, .put⟩ ∈ processor.generators)
    (deleting : ⟨second, .delete⟩ ∈ processor.generators)
    (completed : processor.process round = .ok output) :
    List.Forall₂
      (fun entry model => Fills processor output first model ∧
        Conditioned processor output first second model (onKeys model) ∧
        ∀ (store : Store floats) (object : Object floats Foreign),
          store.columns (onKeys model).clause = model.keyNames → Fits round entry.1 object →
          (∀ column ∈ model.keyColumns, ∀ number, column.cell object ≠ .real number) →
            ∃ values, valuesOf object (model.contentPuts.map (·.tokens)) = .ok values ∧
              (store.Meets object (onKeys model)
                  (inserted (model.columns.map (·.storageName)) values) ↔
                ∀ column ∈ model.keyColumns, (object column.fieldName).isAbsent = false) ∧
              ((∀ column ∈ model.keyColumns, column.type.nullable = false) →
                store.Meets object (onKeys model)
                  (inserted (model.columns.map (·.storageName)) values)))
      round.marked output.types := by
  refine (types_hold floats Foreign introspects completed).imp fun entry model known => ?_
  obtain ⟨member, wellFormed, holds⟩ := known
  refine ⟨fills_of_type putting completed member,
    conditioned_of_type putting deleting completed member,
    fun store object denotes fits exact => ?_⟩
  have meets := meets_inserted wellFormed.storageNamesDistinct (holds object fits) exact denotes
  refine ⟨_, valuesOf_contentPuts (holds object fits), meets, fun required => ?_⟩
  refine meets.mpr fun column member => ?_
  exact isAbsent_of_required (holds object fits column (List.mem_of_mem_filter member))
    (required column member)

/-- A store that takes a clause apart at its connectives and compares values as they are. -/
def partStore : Store plainFloats where
  columns clause := (Text.parts " AND " clause).map fun part =>
    String.ofList (part.toList.take (part.toList.length - " = ?".toList.length))
  Equal left right := left = right ∧ left ≠ .null
  null_left _ equal := equal.2 rfl
  null_right _ equal := equal.2 equal.1
  integer _ := ⟨rfl, nofun⟩
  text _ := ⟨rfl, nofun⟩
  blob _ := ⟨rfl, nofun⟩

/-- A type with one key column, which both is named and holds the field of a given name. -/
def KeyedBy (name : String) (model : TypeModel) : Prop :=
  model.keyNames = [name] ∧ model.keyColumns.map (·.fieldName) = [name]

theorem KeyedBy.fieldName {name : String} {model : TypeModel} (keyed : KeyedBy name model)
    {column : Column} (member : column ∈ model.keyColumns) : column.fieldName = name := by
  have among := List.mem_map_of_mem (f := (·.fieldName)) member
  rw [keyed.2] at among
  exact List.mem_singleton.mp among

theorem KeyedBy.denotes {model : TypeModel} (keyed : KeyedBy "id" model) :
    partStore.columns (onKeys model).clause = model.keyNames := by
  rw [clause_onKeys, keyed.1]
  decide

theorem member_completes :
    ∃ output model, lendingProcessor.process memberRound = .ok output ∧ output.types = [model] ∧
      KeyedBy "id" model := by
  obtain ⟨output, completed, types⟩ := @lending_process_ok memberRound
    ⟨by decide, by decide, by decide⟩ (by decide +kernel)
  exact ⟨output, _, completed, types, rfl, rfl⟩

theorem process_found_nameless :
    ∃ output model, lendingProcessor.process memberRound = .ok output ∧ output.types = [model] ∧
      ∃ values, valuesOf nameless (model.contentPuts.map (·.tokens)) = .ok values ∧
        partStore.Meets nameless (onKeys model)
          (inserted (model.columns.map (·.storageName)) values) := by
  obtain ⟨output, model, completed, types, keyed⟩ := member_completes
  refine ⟨output, model, completed, types, ?_⟩
  have putting : ⟨.contentResolver, .put⟩ ∈ lendingProcessor.generators := by decide
  have deleting : ⟨.contentResolver, .delete⟩ ∈ lendingProcessor.generators := by decide
  have found := process_found plainFloats Unit rfl putting deleting completed
  have marked : memberRound.marked = [(0, memberRound.declarations[0])] := rfl
  rw [marked, types] at found
  obtain ⟨⟨_, _, here⟩, _⟩ := List.forall₂_cons.mp found
  have key : ∀ column ∈ model.keyColumns, nameless column.fieldName = .plain (.int64 7) := by
    intro column member
    rw [keyed.fieldName member]
    rfl
  obtain ⟨values, filled, meets, _⟩ := here partStore nameless keyed.denotes (nameless_fits 0)
    fun column member number => by
      simp [Column.cell, key column member, FieldValue.stored?, Scalar.stored]
  refine ⟨values, filled, meets.mpr fun column member => ?_⟩
  rw [key column member]
  rfl

/-! ## Absent keys -/

/-- A type with a key that can be absent. -/
def optionalKeyRound : Round where
  declarations := [
    ⟨"Guest", ["library"], .struct, some ⟨"guests", "", "", ""⟩, .detached "library::Guest"⟩]
  columns := [
    { plainElement 0 "id" "i64" true with
      type := some (.path false [.mk (.plain "Option") .start (some
        (.mk false [.type (.path false [.mk (.plain "i64") .start none])] false))]) }]

/-- An object without its key. -/
def keyless : Object plainFloats Unit
  | "id" => .optional none
  | _ => .foreign ()

theorem keyless_fits (id : Nat) : Fits optionalKeyRound id keyless := by
  intro element member _
  simp only [optionalKeyRound, List.mem_singleton] at member
  subst member
  exact ⟨_, rfl, _, ⟨.start, false, false, .path rfl⟩, fun _ present => nomatch present⟩

theorem optionalKey_completes :
    ∃ output model, lendingProcessor.process optionalKeyRound = .ok output ∧
      output.types = [model] ∧ KeyedBy "id" model := by
  obtain ⟨output, completed, types⟩ := @lending_process_ok optionalKeyRound
    ⟨by decide, by decide, by decide⟩ (by decide +kernel)
  exact ⟨output, _, completed, types, rfl, rfl⟩

/-- The type is accepted, and the row that is written for an object without a key is not the one
that its update and delete are for. -/
theorem keyless_missed :
    ∃ output model, lendingProcessor.process optionalKeyRound = .ok output ∧
      output.types = [model] ∧
      Conditioned lendingProcessor output .contentResolver .contentResolver model (onKeys model) ∧
      Fits optionalKeyRound 0 keyless ∧
      (∀ column ∈ model.keyColumns, ∀ number, column.cell keyless ≠ .real number) ∧
      partStore.columns (onKeys model).clause = model.keyNames ∧
      ∃ values, valuesOf keyless (model.contentPuts.map (·.tokens)) = .ok values ∧
        ¬ partStore.Meets keyless (onKeys model)
          (inserted (model.columns.map (·.storageName)) values) := by
  obtain ⟨output, model, completed, types, keyed⟩ := optionalKey_completes
  have putting : ⟨.contentResolver, .put⟩ ∈ lendingProcessor.generators := by decide
  have deleting : ⟨.contentResolver, .delete⟩ ∈ lendingProcessor.generators := by decide
  have known := types_hold plainFloats Unit rfl completed
  have marked : optionalKeyRound.marked = [(0, optionalKeyRound.declarations[0])] := rfl
  rw [marked, types] at known
  obtain ⟨⟨_, wellFormed, holds⟩, _⟩ := List.forall₂_cons.mp known
  have absent : ∀ column ∈ model.keyColumns, keyless column.fieldName = .optional none := by
    intro column member
    rw [keyed.fieldName member]
    rfl
  have exact : ∀ column ∈ model.keyColumns, ∀ number, column.cell keyless ≠ .real number :=
    fun column member number => by simp [Column.cell, absent column member, FieldValue.stored?]
  refine ⟨output, model, completed, types,
    conditioned_of_type putting deleting completed (types ▸ List.mem_singleton_self model),
    keyless_fits 0, exact, keyed.denotes, _, valuesOf_contentPuts (holds keyless (keyless_fits 0)),
    ?_⟩
  rw [meets_inserted wellFormed.storageNamesDistinct (holds keyless (keyless_fits 0)) exact
    keyed.denotes]
  intro present
  obtain ⟨column, member⟩ := List.exists_mem_of_ne_nil _
    (keyColumns_ne_nil completed (types ▸ List.mem_singleton_self model))
  have missing := present column member
  rw [absent column member] at missing
  cases missing

end StorageMapping.Processing
