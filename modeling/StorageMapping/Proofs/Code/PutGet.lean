import Mathlib.Data.List.Nodup
import StorageMapping.Proofs.Code.Columns

namespace StorageMapping.Code

/-! # Put, then get

Puts fill the content values column by column, and an insert fills up the row. As no storage name
stands twice, every read finds the pair of its own column there. -/

variable {floats : Floats} {Foreign : Type}

/-! ## Statements that are read one by one -/

theorem run_contentPuts (frame : Frame floats Foreign) (statements : List ContentPut) :
    run frame (statements.map (·.tokens)) =
      (statements.map (·.code)).foldlM Statement.exec frame := by
  rw [run, mapM_map_eq_some ContentPut.readStatement_tokens]

theorem run_cursorReads (frame : Frame floats Foreign) (statements : List CursorRead) :
    run frame (statements.map (·.tokens)) =
      (statements.map (·.code)).foldlM Statement.exec frame := by
  rw [run, mapM_map_eq_some CursorRead.readStatement_tokens]

/-! ## All puts -/

theorem foldlM_puts {columns : List Column} (frame : Frame floats Foreign)
    (holds : ∀ column ∈ columns, column.type.Holds (frame.object column.fieldName)) :
    (columns.map fun column => (ContentPut.ofColumn column).code).foldlM Statement.exec frame =
      .ok { frame with values := frame.values ++ columns.flatMap (·.pairs frame.object) } := by
  induction columns generalizing frame with
  | nil => simp; rfl
  | cons column rest ih =>
      have others : ∀ other ∈ rest, other.type.Holds (frame.object other.fieldName) :=
        fun other member => holds other (by simp [member])
      rw [List.map_cons, List.foldlM_cons, ContentPut.exec_code (holds column (by simp))]
      have following := ih { frame with values := frame.values ++ column.pairs frame.object } others
      rw [List.append_assoc] at following
      rw [List.flatMap_cons]
      exact following

/-! ## The row -/

/-- An insert gives null to every column that was not written. -/
def inserted (names : List String) (values : ContentValues floats) : Row floats :=
  values ++ (names.filter (· ∉ values.names)).map (·, .null)

theorem names_pairs (columns : List Column) (object : Object floats Foreign) :
    ContentValues.names (columns.flatMap (·.pairs object)) =
      (columns.filter fun column => ¬ column.LeftOut object).map (·.storageName) := by
  induction columns with
  | nil => rfl
  | cons column rest ih =>
      rw [ContentValues.names] at ih
      rw [List.flatMap_cons, ContentValues.names, List.map_append]
      by_cases leftOut : column.LeftOut object
      · simpa [Column.pairs, leftOut] using ih
      · simpa [Column.pairs, leftOut] using ih

variable {columns : List Column} {object : Object floats Foreign} {column : Column}

/-- Where no storage name stands twice, exactly the columns that are left out are not written. -/
theorem mem_names_pairs (distinct : (columns.map (·.storageName)).Nodup)
    (member : column ∈ columns) :
    column.storageName ∈ ContentValues.names (columns.flatMap (·.pairs object)) ↔
      ¬ column.LeftOut object := by
  rw [names_pairs, List.mem_map]
  constructor
  · rintro ⟨other, otherMember, same⟩
    obtain ⟨otherMember, written⟩ := List.mem_filter.mp otherMember
    have equal : other = column := List.inj_on_of_nodup_map distinct otherMember member same
    simpa [equal] using written
  · intro written
    exact ⟨column, List.mem_filter.mpr ⟨member, by simpa using written⟩, rfl⟩

theorem names_pairs_distinct (object : Object floats Foreign)
    (distinct : (columns.map (·.storageName)).Nodup) :
    (ContentValues.names (columns.flatMap (·.pairs object))).Nodup := by
  rw [names_pairs]
  exact distinct.sublist (List.filter_sublist.map _)

theorem inserted_distinct {names : List String} {values : ContentValues floats}
    (distinct : names.Nodup) (written : values.names.Nodup) :
    ((inserted names values).map (·.1)).Nodup := by
  have filled : (inserted names values).map (·.1) =
      values.names ++ names.filter (· ∉ values.names) := by
    simp [inserted, ContentValues.names, Function.comp_def]
  rw [filled, List.nodup_append]
  refine ⟨written, distinct.filter _, ?_⟩
  intro name member other otherMember same
  have unwritten := (List.mem_filter.mp otherMember).2
  exact absurd (same ▸ member) (by simpa using unwritten)

theorem mem_inserted (distinct : (columns.map (·.storageName)).Nodup)
    (member : column ∈ columns) :
    (column.storageName, column.cell object) ∈
      inserted (columns.map (·.storageName)) (columns.flatMap (·.pairs object)) := by
  rw [inserted, List.mem_append]
  by_cases leftOut : column.LeftOut object
  · have cell : column.cell object = .null := by
      rw [Column.cell, FieldValue.isAbsent_iff.mp leftOut.2.2]
      rfl
    refine .inr (List.mem_map.mpr ⟨column.storageName, List.mem_filter.mpr ⟨?_, ?_⟩, by rw [cell]⟩)
    · exact List.mem_map_of_mem member
    · simpa using fun written => (mem_names_pairs distinct member).mp written leftOut
  · refine .inl (List.mem_flatMap.mpr ⟨column, member, ?_⟩)
    rw [Column.pairs, if_neg leftOut]
    exact List.mem_singleton_self _

/-- A search of the inserted row ends at what the object holds. -/
theorem cell_inserted (distinct : (columns.map (·.storageName)).Nodup)
    (member : column ∈ columns) :
    ∃ place,
      (inserted (columns.map (·.storageName)) (columns.flatMap (·.pairs object))).indexOf
        column.storageName = .ok place ∧
      (inserted (columns.map (·.storageName)) (columns.flatMap (·.pairs object))).cell? place =
        some (column.cell object) :=
  Row.indexOf_of_mem (inserted_distinct distinct (names_pairs_distinct object distinct))
    (mem_inserted distinct member)

/-! ## All reads -/

/-- An object with the fields of some names taken from another one. -/
def Object.overwrite (target source : Object floats Foreign) (names : List String) :
    Object floats Foreign :=
  fun name => if name ∈ names then source name else target name

theorem foldlM_reads (frame : Frame floats Foreign)
    (holds : ∀ column ∈ columns, column.type.Holds (object column.fieldName))
    (found : ∀ column ∈ columns, ∃ place, frame.row.indexOf column.storageName = .ok place ∧
      frame.row.cell? place = some (column.cell object)) :
    (columns.map fun column => (CursorRead.ofColumn column).code).foldlM Statement.exec frame =
      .ok { frame with
        object := frame.object.overwrite object (columns.map (·.fieldName)) } := by
  induction columns generalizing frame with
  | nil =>
      rfl
  | cons column rest ih =>
      obtain ⟨place, index, cell⟩ := found column (by simp)
      have here := holds column (by simp)
      rw [Column.cell, ← here.storable] at cell
      rw [List.map_cons, List.foldlM_cons, CursorRead.exec_code here index cell]
      have following := ih
        { frame with
          object := Function.update frame.object column.fieldName (object column.fieldName) }
        (fun other member => holds other (by simp [member]))
        (fun other member => found other (by simp [member]))
      -- a name that is assigned again is given the same value again
      refine following.trans ?_
      congr 2
      funext name
      simp only [Object.overwrite, List.map_cons, List.mem_cons]
      by_cases later : name ∈ rest.map (·.fieldName)
      · rw [if_pos later, if_pos (.inr later)]
      · rw [if_neg later]
        by_cases same : name = column.fieldName
        · rw [if_pos (.inl same), same, Function.update_self]
        · rw [if_neg (by simp [same, later]), Function.update_of_ne same]

/-! ## Both -/

/-- The statements of a type put the pairs of all its columns. -/
theorem valuesOf_contentPuts {model : TypeModel}
    (holds : ∀ column ∈ model.columns, column.type.Holds (object column.fieldName)) :
    valuesOf object (model.contentPuts.map (·.tokens)) =
      .ok (model.columns.flatMap (·.pairs object)) := by
  have written := foldlM_puts ⟨object, [], [], []⟩ holds
  rw [valuesOf, run_contentPuts, TypeModel.contentPuts, List.map_map]
  exact congrArg (Except.map (·.values)) written

/-- The statements of a type write all its columns but those that are left out, and they take all
its fields back from the inserted row. -/
theorem put_get {model : TypeModel} (initial : Object floats Foreign)
    (distinct : (model.columns.map (·.storageName)).Nodup)
    (holds : ∀ column ∈ model.columns, column.type.Holds (object column.fieldName)) :
    ∃ values, valuesOf object (model.contentPuts.map (·.tokens)) = .ok values ∧
      (∀ column ∈ model.columns, column.storageName ∉ values.names ↔ column.LeftOut object) ∧
      objectOf initial (inserted (model.columns.map (·.storageName)) values)
          (model.cursorReads.map (·.tokens)) =
        .ok (initial.overwrite object (model.columns.map (·.fieldName))) := by
  refine ⟨model.columns.flatMap (·.pairs object), valuesOf_contentPuts holds, ?_, ?_⟩
  · intro column member
    rw [mem_names_pairs distinct member, not_not]
  · have read := foldlM_reads ⟨initial, inserted (model.columns.map (·.storageName))
      (model.columns.flatMap (·.pairs object)), [], []⟩ holds
      fun column member => cell_inserted distinct member
    rw [objectOf, run_cursorReads, TypeModel.cursorReads, List.map_map]
    exact congrArg (Except.map (·.object)) read

end StorageMapping.Code
