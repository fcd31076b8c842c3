import StorageMapping.Proofs.Code.Clauses
import StorageMapping.Proofs.Code.PutGet
import StorageMapping.Proofs.Code.Queries

namespace StorageMapping.Code

/-! # Rows that meet a condition

An object's own row meets a condition on its key where no key field is absent: an absent one is
compared as null, and no comparison with null is true. -/

variable {floats : Floats} {Foreign : Type}

/-- The condition that the templates of a type have on its key. -/
def onKeys (model : TypeModel) : Condition :=
  ⟨(KeyCondition.ofModel model).clause, keyValues (.ofModel model)⟩

theorem clause_onKeys (model : TypeModel) :
    (onKeys model).clause = KeyCondition.clauseOf model.keyNames :=
  model.clause_ofModel

theorem arguments_onKeys (model : TypeModel) :
    (onKeys model).arguments =
      model.keyColumns.map fun column => copied (.borrowed "object" column.field) :=
  keyValues_ofModel model

/-- A store, as far as it decides conditions. Of floating-point numbers nothing is known. -/
structure Store (floats : Floats) where
  /-- The columns that a clause compares with its arguments, in their order. -/
  columns : String → List String
  Equal : Stored floats → Stored floats → Prop
  null_left : ∀ value, ¬ Equal .null value
  null_right : ∀ value, ¬ Equal value .null
  integer : ∀ value, Equal (.integer value) (.integer value)
  text : ∀ value, Equal (.text value) (.text value)
  blob : ∀ value, Equal (.blob value) (.blob value)

/-- What a store is given for an argument. -/
def Expression.bound (object : Object floats Foreign) (argument : Expression) :
    Option (Stored floats) :=
  match argument.eval ⟨object, [], [], []⟩ with
  | .ok (.held value) => value.stored?
  | _ => none

namespace Store

variable {store : Store floats} {object : Object floats Foreign}

/-- The condition that an object is put into is true of a row. -/
def Meets (store : Store floats) (object : Object floats Foreign) (condition : Condition)
    (row : Row floats) : Prop :=
  ∃ arguments, condition.arguments.mapM (Expression.bound object) = some arguments ∧
    List.Forall₂
      (fun name argument => ∃ place cell, row.indexOf name = .ok place ∧
        row.cell? place = some cell ∧ store.Equal cell argument)
      (store.columns condition.clause) arguments

theorem equal_self_iff {value : Stored floats} (exact : ∀ number, value ≠ .real number) :
    store.Equal value value ↔ value ≠ .null := by
  cases value with
  | null => simp [store.null_left]
  | integer value => simp [store.integer]
  | real number => exact absurd rfl (exact number)
  | text value => simp [store.text]
  | blob value => simp [store.blob]

end Store

variable {model : TypeModel} {column : Column} {object : Object floats Foreign}

theorem bound_copied (holds : column.type.Holds (object column.fieldName)) :
    (copied (.borrowed "object" column.field)).bound object = some (column.cell object) := by
  have evaluated : (copied (.borrowed "object" column.field)).eval ⟨object, [], [], []⟩ =
      .ok (.held (object column.fieldName)) := rfl
  rw [Expression.bound, evaluated]
  exact holds.storable

theorem mapM_bound {columns : List Column}
    (holds : ∀ column ∈ columns, column.type.Holds (object column.fieldName)) :
    (columns.map fun column => copied (.borrowed "object" column.field)).mapM
        (Expression.bound object) =
      some (columns.map (·.cell object)) := by
  induction columns with
  | nil => rfl
  | cons column columns ih =>
      obtain ⟨here, later⟩ := List.forall_mem_cons.mp holds
      rw [List.map_cons, List.mapM_cons, bound_copied here, ih later]
      rfl

theorem cell_ne_null_iff (holds : column.type.Holds (object column.fieldName)) :
    column.cell object ≠ .null ↔ (object column.fieldName).isAbsent = false := by
  rw [Column.cell]
  cases held : object column.fieldName with
  | foreign value =>
      rw [held] at holds
      exact holds.elim
  | plain value => cases value <;> simp [FieldValue.stored?, FieldValue.isAbsent, Scalar.stored]
  | optional value =>
      cases value with
      | none => simp [FieldValue.stored?, FieldValue.isAbsent]
      | some value => cases value <;> simp [FieldValue.stored?, FieldValue.isAbsent, Scalar.stored]

theorem isAbsent_of_required (holds : column.type.Holds (object column.fieldName))
    (required : column.type.nullable = false) : (object column.fieldName).isAbsent = false := by
  cases held : object column.fieldName with
  | plain value => rfl
  | foreign value => rfl
  | optional value =>
      rw [held] at holds
      exact absurd (required.symm.trans holds.1) Bool.false_ne_true

/-- The row that is written for an object meets the condition on its key just where every key field
is present. -/
theorem meets_inserted {store : Store floats}
    (distinct : (model.columns.map (·.storageName)).Nodup)
    (holds : ∀ column ∈ model.columns, column.type.Holds (object column.fieldName))
    (exact : ∀ column ∈ model.keyColumns, ∀ number, column.cell object ≠ .real number)
    (denotes : store.columns (onKeys model).clause = model.keyNames) :
    store.Meets object (onKeys model)
        (inserted (model.columns.map (·.storageName)) (model.columns.flatMap (·.pairs object))) ↔
      ∀ column ∈ model.keyColumns, (object column.fieldName).isAbsent = false := by
  have inside : ∀ column ∈ model.keyColumns, column ∈ model.columns :=
    fun column member => List.mem_of_mem_filter member
  rw [Store.Meets, denotes, arguments_onKeys, TypeModel.keyNames,
    mapM_bound fun column member => holds column (inside column member)]
  simp only [Option.some_inj, exists_eq_left', List.forall₂_map_left_iff,
    List.forall₂_map_right_iff, List.forall₂_same]
  refine forall₂_congr fun column member => ?_
  obtain ⟨place, index, cell⟩ := @cell_inserted _ _ _ object _ distinct (inside column member)
  rw [← cell_ne_null_iff (holds column (inside column member)),
    ← store.equal_self_iff (exact column member)]
  constructor
  · rintro ⟨other, found, otherIndex, foundCell, equal⟩
    cases index.symm.trans otherIndex
    cases cell.symm.trans foundCell
    exact equal
  · exact fun equal => ⟨place, column.cell object, index, cell, equal⟩

end StorageMapping.Code
