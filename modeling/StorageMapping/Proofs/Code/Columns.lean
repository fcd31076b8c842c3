import StorageMapping.Proofs.Code.Semantics
import StorageMapping.Proofs.Code.Statements

namespace StorageMapping

/-! # What becomes of a column

A put writes the pair of its column, unless the column is to be left out. A read takes the value of
the field back from the row, and no other field changes. -/

open Code

variable {floats : Floats} {Foreign : Type}

def FieldType.Holds (type : FieldType) : FieldValue floats Foreign → Prop
  | .plain value => type.nullable = false ∧ value.columnType = type.column
  | .optional value => type.nullable = true ∧ ∀ scalar ∈ value, scalar.columnType = type.column
  | .foreign _ => False

namespace Column

/-- What a store holds of an object in a column. -/
def cell (column : Column) (object : Object floats Foreign) : Stored floats :=
  (object column.fieldName).stored?.getD .null

/-- A column is left out where its absent value is to be skipped. -/
def LeftOut (column : Column) (object : Object floats Foreign) : Prop :=
  column.ignoresNull = true ∧ column.type.nullable = true ∧
    (object column.fieldName).isAbsent = true

instance (column : Column) (object : Object floats Foreign) : Decidable (column.LeftOut object) :=
  inferInstanceAs (Decidable (_ ∧ _ ∧ _))

def pairs (column : Column) (object : Object floats Foreign) : ContentValues floats :=
  if column.LeftOut object then [] else [(column.storageName, column.cell object)]

end Column

theorem FieldType.Holds.storable {type : FieldType} {value : FieldValue floats Foreign}
    (holds : type.Holds value) : value.stored? = some (value.stored?.getD .null) := by
  cases value with
  | plain value => rfl
  | optional value => cases value <;> rfl
  | foreign value => exact holds.elim

namespace ContentPut

theorem code_skipping {column : Column} (skipped : column.skipsAbsent = true) :
    (ofColumn column).code =
      .ifPresent "value" (.borrowed "object" column.field)
        [putStep column.storageName (.variable "value")] := by
  rw [code, ofColumn, skipped, if_pos rfl]

theorem code_keeping {column : Column} (kept : column.skipsAbsent = false) :
    (ofColumn column).code =
      .single (putStep column.storageName (.borrowed "object" column.field)) := by
  rw [code, ofColumn, kept, if_neg Bool.false_ne_true]

theorem exec_putStep {frame : Frame floats Foreign} {source : Expression}
    {value : FieldValue floats Foreign} {stored : Stored floats} (column : String)
    (known : source.eval frame = .ok (.held value)) (storable : value.stored? = some stored) :
    (putStep column source).exec frame =
      .ok { frame with values := frame.values ++ [(column, stored)] } := by
  have arguments : [Expression.text column, copied source].mapM (·.eval frame) =
      .ok [.text column, .held value] := by
    have copy : (copied source).eval frame = .ok (.held value) := Expression.eval_call _ known
    rw [List.mapM_cons, List.mapM_cons, copy]
    rfl
  simp only [putStep, Step.exec, and_self, if_true, arguments]
  change Step.put frame [.text column, .held value] = _
  simp only [Step.put, storable]
  rfl

/-- A column that is left out writes nothing. -/
theorem exec_leftOut {column : Column} {frame : Frame floats Foreign}
    (leftOut : column.LeftOut frame.object) :
    (ofColumn column).code.exec frame = .ok frame := by
  obtain ⟨ignored, nullable, absent⟩ := leftOut
  have skipped : column.skipsAbsent = true := by
    rw [Column.skipsAbsent, ignored, nullable, Bool.and_self]
  have tested : (Expression.borrowed "object" column.field).eval frame =
      .ok (.held (.optional none)) := by
    rw [← FieldValue.isAbsent_iff.mp absent]
    rfl
  rw [code_skipping skipped, Statement.exec, tested]
  rfl

/-- A present value is put from inside its optional one. -/
theorem exec_present {column : Column} {frame : Frame floats Foreign} {value : Scalar floats}
    (skipped : column.skipsAbsent = true)
    (held : frame.object column.fieldName = .optional (some value)) :
    (ofColumn column).code.exec frame =
      .ok { frame with values := frame.values ++ [(column.storageName, value.stored)] } := by
  have tested : (Expression.borrowed "object" column.field).eval frame =
      .ok (.held (.optional (some value))) := by
    rw [← held]
    rfl
  have known : (Expression.variable "value").eval
      { frame with locals := [("value", Value.scalar value)] ++ frame.locals } =
        .ok (.held (.plain value)) := rfl
  have put := exec_putStep column.storageName known rfl
  have ran : [putStep column.storageName (.variable "value")].foldlM Step.exec
      { frame with locals := [("value", Value.scalar value)] ++ frame.locals } =
        .ok { frame with
          locals := [("value", Value.scalar value)] ++ frame.locals
          values := frame.values ++ [(column.storageName, value.stored)] } := by
    rw [List.foldlM_cons, put]
    rfl
  rw [code_skipping skipped, Statement.exec, tested]
  exact Statement.execInside_eq frame [("value", .scalar value)] ran

theorem exec_written {column : Column} {frame : Frame floats Foreign}
    (holds : column.type.Holds (frame.object column.fieldName))
    (written : ¬ column.LeftOut frame.object) :
    (ofColumn column).code.exec frame =
      .ok { frame with
        values := frame.values ++ [(column.storageName, column.cell frame.object)] } := by
  -- the two forms of a put: one copies the field, the other the value inside
  cases skipped : column.skipsAbsent with
  | false =>
      have borrowed : (Expression.borrowed "object" column.field).eval frame =
          .ok (.held (frame.object column.fieldName)) := rfl
      rw [code_keeping skipped]
      exact exec_putStep column.storageName borrowed holds.storable
  | true =>
      obtain ⟨ignored, nullable⟩ := Bool.and_eq_true_iff.mp skipped
      rw [Column.cell]
      cases held : frame.object column.fieldName with
      | plain value =>
          rw [held] at holds
          exact absurd nullable (by simp [holds.1])
      | foreign value =>
          rw [held] at holds
          exact holds.elim
      | optional value =>
          cases value with
          | none => exact absurd ⟨ignored, nullable, FieldValue.isAbsent_iff.mpr held⟩ written
          | some value => exact exec_present skipped held

/-- A put appends what it writes of its column. -/
theorem exec_code {column : Column} {frame : Frame floats Foreign}
    (holds : column.type.Holds (frame.object column.fieldName)) :
    (ofColumn column).code.exec frame =
      .ok { frame with values := frame.values ++ column.pairs frame.object } := by
  by_cases leftOut : column.LeftOut frame.object
  · rw [exec_leftOut leftOut, Column.pairs, if_pos leftOut, List.append_nil]
  · rw [exec_written holds leftOut, Column.pairs, if_neg leftOut]

end ContentPut

namespace CursorRead

variable {frame : Frame floats Foreign} {place : Nat}

theorem eval_getter (type : ColumnType) {scalar : Scalar floats}
    (bound : frame.locals.lookup "index" = some (.index place))
    (given : frame.row.getter? (getter type) place = some (.ok scalar)) :
    (Expression.attempt (.method "cursor" (getter type) index)).eval frame =
      .ok (.scalar scalar) := by
  have different : getter type ≠ "is_null" := by cases type <;> decide
  have asked : (Expression.method "cursor" (getter type) index).eval frame =
      .ok (.success (.scalar scalar)) := by
    rw [index, Expression.eval_asked _ (Expression.eval_variable bound), Expression.ask,
      if_neg different, given]
    rfl
  exact Expression.eval_attempt asked

/-- A truth value comes back as the comparison of its number with one. -/
theorem eval_got_boolean {value : Bool}
    (bound : frame.locals.lookup "index" = some (.index place))
    (cell : frame.row.cell? place = some (Scalar.boolean value).stored) :
    (got .boolean).eval frame = .ok (.scalar (.boolean value)) := by
  have number : frame.row.cell? place =
      some (.integer (Int32.toInt64 (if value then 1 else 0))) := by
    rw [cell]
    cases value <;> rfl
  have given := eval_getter .boolean bound (Row.getter?_int32 number)
  have compared : (got .boolean).eval frame =
      Expression.same (.scalar (.int32 (if value then 1 else 0))) (.number "1") := by
    change (Expression.equal _ _).eval frame = _
    rw [Expression.eval, given]
    rfl
  rw [compared]
  cases value <;> rfl

theorem eval_got {scalar : Scalar floats}
    (bound : frame.locals.lookup "index" = some (.index place))
    (cell : frame.row.cell? place = some scalar.stored) :
    (got scalar.columnType).eval frame = .ok (.scalar scalar) := by
  cases scalar with
  | boolean value => exact eval_got_boolean bound cell
  | int8 value => exact eval_getter .int8 bound (Row.getter?_int8 cell)
  | int16 value => exact eval_getter .int16 bound (Row.getter?_int16 cell)
  | int32 value => exact eval_getter .int32 bound (Row.getter?_int32 cell)
  | int64 value => exact eval_getter .int64 bound (Row.getter?_int64 cell)
  | float32 value => exact eval_getter .float32 bound (Row.getter?_float32 cell)
  | float64 value => exact eval_getter .float64 bound (Row.getter?_float64 cell)
  | string value => exact eval_getter .string bound (Row.getter?_string cell)
  | byteArray value => exact eval_getter .byteArray bound (Row.getter?_byteArray cell)

theorem eval_isNull (bound : frame.locals.lookup "index" = some (.index place)) :
    (Expression.method "cursor" "is_null" index).eval frame =
      .ok (.scalar (.boolean (frame.row.isNull place))) :=
  Expression.eval_asked "is_null" (Expression.eval_variable bound)

theorem eval_absent (type : ColumnType)
    (bound : frame.locals.lookup "index" = some (.index place))
    (cell : frame.row.cell? place = some .null) :
    (assigned ⟨type, true⟩).eval frame = .ok (.held (.optional none)) := by
  have null : frame.row.isNull place = true := by rw [Row.isNull, cell]
  rw [assigned, if_pos rfl, Expression.eval_choice _ _ (eval_isNull bound), null]
  rfl

theorem eval_present {value : Scalar floats}
    (bound : frame.locals.lookup "index" = some (.index place))
    (cell : frame.row.cell? place = some value.stored) :
    (assigned ⟨value.columnType, true⟩).eval frame = .ok (.held (.optional (some value))) := by
  have present : frame.row.isNull place = false := by
    rw [Row.isNull, cell]
    cases value <;> rfl
  have made : (Expression.call ["core", "option", "Option", "Some"]
      (got value.columnType)).eval frame = .ok (.held (.optional (some value))) :=
    Expression.eval_call _ (eval_got bound cell)
  rw [assigned, if_pos rfl, Expression.eval_choice _ _ (eval_isNull bound), present]
  exact made

theorem exec_block {column : Column} {value : FieldValue floats Foreign}
    (found : frame.row.indexOf column.storageName = .ok place)
    (known : (assigned column.type).eval
      { frame with locals := ("index", .index place) :: frame.locals } = .ok (.held value)) :
    (ofColumn column).code.exec frame =
      .ok { frame with object := Function.update frame.object column.fieldName value } := by
  have bound : (Step.bind "index" (located column.storageName)).exec frame =
      .ok { frame with locals := ("index", .index place) :: frame.locals } := by
    have asked : (Expression.method "cursor" "column_index_or_err"
        (.text column.storageName)).eval frame = .ok (.success (.index place)) := by
      rw [Expression.eval_asked "column_index_or_err" rfl, Expression.ask, if_pos rfl, found]
      rfl
    rw [Step.exec, located, Expression.eval_attempt asked]
    rfl
  have assigns : (Step.assign "object" column.field (assigned column.type)).exec
      { frame with locals := ("index", .index place) :: frame.locals } =
        .ok { frame with
          locals := ("index", .index place) :: frame.locals
          object := Function.update frame.object column.fieldName value } := by
    rw [Step.exec, known]
    rfl
  have ran : [Step.bind "index" (located column.storageName),
      .assign "object" column.field (assigned column.type)].foldlM Step.exec frame =
        .ok { frame with
          locals := ("index", .index place) :: frame.locals
          object := Function.update frame.object column.fieldName value } := by
    rw [List.foldlM_cons, bound]
    change [Step.assign "object" column.field (assigned column.type)].foldlM Step.exec _ = _
    rw [List.foldlM_cons, assigns]
    rfl
  exact Statement.execInside_eq frame [] ran

/-- A read gives its field the value that the column was filled with. -/
theorem exec_code {column : Column} {value : FieldValue floats Foreign}
    (holds : column.type.Holds value) (found : frame.row.indexOf column.storageName = .ok place)
    (cell : frame.row.cell? place = value.stored?) :
    (ofColumn column).code.exec frame =
      .ok { frame with object := Function.update frame.object column.fieldName value } := by
  refine exec_block found ?_
  have bound : List.lookup "index" (("index", Value.index place) :: frame.locals) =
      some (.index place) := rfl
  cases value with
  | foreign value => exact holds.elim
  | plain value =>
      obtain ⟨required, type⟩ := holds
      rw [assigned, required, if_neg Bool.false_ne_true, ← type]
      exact eval_got bound cell
  | optional value =>
      obtain ⟨nullable, types⟩ := holds
      have type : column.type = ⟨column.type.column, true⟩ := by rw [← nullable]
      rw [type]
      cases value with
      | none => exact eval_absent column.type.column bound cell
      | some value =>
          rw [← types value rfl]
          exact eval_present bound cell

end CursorRead

end StorageMapping
