import StorageMapping.Column

namespace StorageMapping.Code

/-! # The runtime of generated code

Content values are pairs in the order in which they were put. A row is searched for the first pair
of a name, and its getters refuse a value of another kind and a number that is too large. -/

/-- Floating-point numbers of two sizes. Each of the smaller ones has a place among the larger. -/
structure Floats where
  Single : Type
  Double : Type
  widen : Single → Double
  narrow : Double → Single
  narrow_widen : ∀ number, narrow (widen number) = number

inductive Scalar (floats : Floats) where
  | boolean (value : Bool)
  | int8 (value : Int8)
  | int16 (value : Int16)
  | int32 (value : Int32)
  | int64 (value : Int64)
  | float32 (value : floats.Single)
  | float64 (value : floats.Double)
  | string (value : String)
  | byteArray (value : List UInt8)

/-- A value of a field. What has no column type is of no interest here. -/
inductive FieldValue (floats : Floats) (Foreign : Type) where
  | plain (value : Scalar floats)
  | optional (value : Option (Scalar floats))
  | foreign (value : Foreign)

inductive Stored (floats : Floats) where
  | null
  | integer (value : Int64)
  | real (value : floats.Double)
  | text (value : String)
  | blob (value : List UInt8)

inductive RuntimeError where
  | missingColumn (name : String)
  | typeMismatch (index : Nat)
deriving DecidableEq, Repr

variable {floats : Floats} {Foreign : Type}

namespace Scalar

def columnType : Scalar floats → ColumnType
  | .boolean _ => .boolean
  | .int8 _ => .int8
  | .int16 _ => .int16
  | .int32 _ => .int32
  | .int64 _ => .int64
  | .float32 _ => .float32
  | .float64 _ => .float64
  | .string _ => .string
  | .byteArray _ => .byteArray

/-- Truth values are stored as numbers, and numbers in their largest size. -/
def stored : Scalar floats → Stored floats
  | .boolean value => .integer (if value then 1 else 0)
  | .int8 value => .integer value.toInt64
  | .int16 value => .integer value.toInt64
  | .int32 value => .integer value.toInt64
  | .int64 value => .integer value
  | .float32 value => .real (floats.widen value)
  | .float64 value => .real value
  | .string value => .text value
  | .byteArray value => .blob value

end Scalar

namespace FieldValue

/-- Null stands for an absent value. -/
def stored? : FieldValue floats Foreign → Option (Stored floats)
  | .plain value => some value.stored
  | .optional (some value) => some value.stored
  | .optional none => some .null
  | .foreign _ => none

def isAbsent : FieldValue floats Foreign → Bool
  | .optional none => true
  | _ => false

theorem isAbsent_iff {value : FieldValue floats Foreign} :
    value.isAbsent = true ↔ value = .optional none := by
  cases value with
  | plain value => simp [isAbsent]
  | foreign value => simp [isAbsent]
  | optional value => cases value <;> simp [isAbsent]

end FieldValue

abbrev ContentValues (floats : Floats) := List (String × Stored floats)

namespace ContentValues

def put (values : ContentValues floats) (name : String) (value : Stored floats) :
    ContentValues floats :=
  values ++ [(name, value)]

def names (values : ContentValues floats) : List String := values.map (·.1)

end ContentValues

abbrev Row (floats : Floats) := List (String × Stored floats)

namespace Row

/-- The place of the first pair of a name. -/
def indexOf (row : Row floats) (name : String) : Except RuntimeError Nat :=
  match row.findIdx? (·.1 == name) with
  | some index => .ok index
  | none => .error (.missingColumn name)

def cell? (row : Row floats) (index : Nat) : Option (Stored floats) := row[index]?.map (·.2)

def isNull (row : Row floats) (index : Nat) : Bool :=
  match row.cell? index with
  | none => true
  | some .null => true
  | _ => false

def integer (row : Row floats) (index : Nat) : Except RuntimeError Int64 :=
  match row.cell? index with
  | some (.integer value) => .ok value
  | _ => .error (.typeMismatch index)

def integerWithin (row : Row floats) (index : Nat) (least greatest : Int64) :
    Except RuntimeError Int64 :=
  match row.integer index with
  | .error error => .error error
  | .ok value =>
      if least ≤ value ∧ value ≤ greatest then .ok value else .error (.typeMismatch index)

def real (row : Row floats) (index : Nat) : Except RuntimeError floats.Double :=
  match row.cell? index with
  | some (.real value) => .ok value
  | _ => .error (.typeMismatch index)

def text (row : Row floats) (index : Nat) : Except RuntimeError String :=
  match row.cell? index with
  | some (.text value) => .ok value
  | _ => .error (.typeMismatch index)

def blob (row : Row floats) (index : Nat) : Except RuntimeError (List UInt8) :=
  match row.cell? index with
  | some (.blob value) => .ok value
  | _ => .error (.typeMismatch index)

def getter? (row : Row floats) (name : String) (index : Nat) :
    Option (Except RuntimeError (Scalar floats)) :=
  match name with
  | "get_i8" => some <|
      (row.integerWithin index Int8.minValue.toInt64 Int8.maxValue.toInt64).map (.int8 ·.toInt8)
  | "get_i16" => some <|
      (row.integerWithin index Int16.minValue.toInt64 Int16.maxValue.toInt64).map (.int16 ·.toInt16)
  | "get_i32" => some <|
      (row.integerWithin index Int32.minValue.toInt64 Int32.maxValue.toInt64).map (.int32 ·.toInt32)
  | "get_i64" => some ((row.integer index).map .int64)
  | "get_f32" => some ((row.real index).map (.float32 <| floats.narrow ·))
  | "get_f64" => some ((row.real index).map .float64)
  | "get_string" => some ((row.text index).map .string)
  | "get_blob" => some ((row.blob index).map .byteArray)
  | _ => none

variable {row : Row floats} {index : Nat}

/-- Where no name stands twice, the first pair of a name is its only one. -/
theorem indexOf_of_mem {name : String} {value : Stored floats}
    (distinct : (row.map (·.1)).Nodup) (member : (name, value) ∈ row) :
    ∃ index, row.indexOf name = .ok index ∧ row.cell? index = some value := by
  suffices found : ∃ index, row.findIdx? (·.1 == name) = some index ∧
      row.cell? index = some value by
    obtain ⟨index, found, cell⟩ := found
    exact ⟨index, by rw [indexOf, found], cell⟩
  induction row with
  | nil => simp at member
  | cons pair rest ih =>
      obtain ⟨absent, restDistinct⟩ := List.nodup_cons.mp distinct
      rcases List.mem_cons.mp member with rfl | later
      · exact ⟨0, by simp [List.findIdx?_cons], rfl⟩
      · have different : pair.1 ≠ name := fun same =>
          absent (List.mem_map.mpr ⟨(name, value), later, same.symm⟩)
        obtain ⟨index, found, cell⟩ := ih restDistinct later
        exact ⟨index + 1, by simp [List.findIdx?_cons, different, found], cell⟩

theorem integer_of_cell {value : Int64} (cell : row.cell? index = some (.integer value)) :
    row.integer index = .ok value := by
  rw [integer, cell]

theorem integerWithin_of_cell {value least greatest : Int64}
    (cell : row.cell? index = some (.integer value)) (above : least ≤ value)
    (below : value ≤ greatest) : row.integerWithin index least greatest = .ok value := by
  rw [integerWithin, integer_of_cell cell]
  exact if_pos ⟨above, below⟩

theorem getter?_int8 {value : Int8} (cell : row.cell? index = some (.integer value.toInt64)) :
    row.getter? "get_i8" index = some (.ok (.int8 value)) := by
  have inside := integerWithin_of_cell cell (Int8.toInt64_le.mpr value.minValue_le)
    (Int8.toInt64_le.mpr value.le_maxValue)
  change some ((row.integerWithin index _ _).map _) = _
  rw [inside, Except.map, Int8.toInt8_toInt64]

theorem getter?_int16 {value : Int16} (cell : row.cell? index = some (.integer value.toInt64)) :
    row.getter? "get_i16" index = some (.ok (.int16 value)) := by
  have inside := integerWithin_of_cell cell (Int16.toInt64_le.mpr value.minValue_le)
    (Int16.toInt64_le.mpr value.le_maxValue)
  change some ((row.integerWithin index _ _).map _) = _
  rw [inside, Except.map, Int16.toInt16_toInt64]

theorem getter?_int32 {value : Int32} (cell : row.cell? index = some (.integer value.toInt64)) :
    row.getter? "get_i32" index = some (.ok (.int32 value)) := by
  have inside := integerWithin_of_cell cell (Int32.toInt64_le.mpr value.minValue_le)
    (Int32.toInt64_le.mpr value.le_maxValue)
  change some ((row.integerWithin index _ _).map _) = _
  rw [inside, Except.map, Int32.toInt32_toInt64]

theorem getter?_int64 {value : Int64} (cell : row.cell? index = some (.integer value)) :
    row.getter? "get_i64" index = some (.ok (.int64 value)) := by
  change some ((row.integer index).map _) = _
  rw [integer_of_cell cell]
  rfl

theorem getter?_float32 {value : floats.Single}
    (cell : row.cell? index = some (.real (floats.widen value))) :
    row.getter? "get_f32" index = some (.ok (.float32 value)) := by
  have number : row.real index = .ok (floats.widen value) := by rw [real, cell]
  change some ((row.real index).map _) = _
  rw [number, Except.map, floats.narrow_widen]

theorem getter?_float64 {value : floats.Double} (cell : row.cell? index = some (.real value)) :
    row.getter? "get_f64" index = some (.ok (.float64 value)) := by
  have number : row.real index = .ok value := by rw [real, cell]
  change some ((row.real index).map _) = _
  rw [number]
  rfl

theorem getter?_string {value : String} (cell : row.cell? index = some (.text value)) :
    row.getter? "get_string" index = some (.ok (.string value)) := by
  have found : row.text index = .ok value := by rw [text, cell]
  change some ((row.text index).map _) = _
  rw [found]
  rfl

theorem getter?_byteArray {value : List UInt8} (cell : row.cell? index = some (.blob value)) :
    row.getter? "get_blob" index = some (.ok (.byteArray value)) := by
  have found : row.blob index = .ok value := by rw [blob, cell]
  change some ((row.blob index).map _) = _
  rw [found]
  rfl

end Row

end StorageMapping.Code
