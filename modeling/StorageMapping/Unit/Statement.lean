import StorageMapping.TypeModel

namespace StorageMapping

/-! What generated code does with the columns of a type: it puts fields into columns, reads columns
into fields, and compares the key columns with the key fields of an object. -/

open Source

/-- Tokens of generated code. -/
abbrev Fragment := List Token

namespace Fragment

def word (text : String) : Fragment := [.ofWord text]

def name (name : Identifier) : Fragment := [.ofIdentifier name]

def mark (operator : String) : Fragment := Token.ofOperator operator

def text (value : String) : Fragment := [.ofText value]

def parens (inner : Fragment) : Fragment := [.enclosed .parenthesis inner]

def brackets (inner : Fragment) : Fragment := [.enclosed .bracket inner]

def braces (inner : Fragment) : Fragment := [.enclosed .brace inner]

def words (texts : List String) : Fragment := texts.flatMap word

/-- Fragments with commas between them. -/
def listed : List Fragment → Fragment
  | [] => []
  | [fragment] => fragment
  | fragment :: rest => fragment ++ mark "," ++ listed rest

/-- A path with double colons in front of every segment. -/
def below (segments : List String) : Fragment := segments.flatMap fun s => mark "::" ++ word s

/-- A method call on what stands before it. -/
def method (called : String) (arguments : Fragment) : Fragment :=
  mark "." ++ word called ++ parens arguments

/-- A field of an object. -/
def field (object : String) (selected : Identifier) : Fragment :=
  word object ++ mark "." ++ name selected

/-- A copy of a value. -/
def clone (reference : Fragment) : Fragment :=
  below ["core", "clone", "Clone", "clone"] ++ parens reference

end Fragment

open Fragment

/-- Puts a field into a column, perhaps only where the field is present. -/
structure ContentPut where
  field : Identifier
  column : String
  onlyPresent : Bool
deriving DecidableEq, Repr

namespace ContentPut

def ofColumn (column : Column) : ContentPut :=
  ⟨column.field, column.storageName, column.skipsAbsent⟩

def put (column : String) (reference : Fragment) : Fragment :=
  word "content_values" ++ method "put" (text column ++ mark "," ++ clone reference) ++ mark ";"

def tokens (statement : ContentPut) : Fragment :=
  let source := mark "&" ++ Fragment.field "object" statement.field
  if statement.onlyPresent then
    words ["if", "let"] ++ below ["core", "option", "Option", "Some"] ++ parens (word "value")
      ++ mark "=" ++ source ++ braces (put statement.column (word "value"))
  else put statement.column source

end ContentPut

/-- Reads a column into a field. An optional field is absent where the column is null. -/
structure CursorRead where
  field : Identifier
  column : String
  type : FieldType
deriving DecidableEq, Repr

namespace CursorRead

def ofColumn (column : Column) : CursorRead :=
  ⟨column.field, column.storageName, column.type⟩

/-- The cursor method that reads a column type. Truth values are stored as numbers. -/
def getter : ColumnType → String
  | .boolean => "get_i32"
  | .int8 => "get_i8"
  | .int16 => "get_i16"
  | .int32 => "get_i32"
  | .int64 => "get_i64"
  | .float32 => "get_f32"
  | .float64 => "get_f64"
  | .string => "get_string"
  | .byteArray => "get_blob"

def value (type : ColumnType) : Fragment :=
  word "cursor" ++ method (getter type) (word "index") ++ mark "?"
    ++ (if type = .boolean then mark "==" ++ [Token.literal "1" .start] else [])

def tokens (statement : CursorRead) : Fragment :=
  let read := value statement.type.column
  let assigned :=
    if statement.type.nullable then
      words ["if", "cursor"] ++ method "is_null" (word "index")
        ++ braces (below ["core", "option", "Option", "None"]) ++ word "else"
        ++ braces (below ["core", "option", "Option", "Some"] ++ parens read)
    else read
  braces (words ["let", "index"] ++ mark "=" ++ word "cursor"
    ++ method "column_index_or_err" (text statement.column) ++ mark "?" ++ mark ";"
    ++ Fragment.field "object" statement.field ++ mark "=" ++ assigned ++ mark ";")

end CursorRead

/-- Compares the key columns of a row with the key fields of an object. -/
structure KeyCondition where
  keys : List (String × Identifier)
deriving DecidableEq, Repr

namespace KeyCondition

def ofModel (model : TypeModel) : KeyCondition :=
  ⟨model.keyColumns.map fun column => (column.storageName, column.field)⟩

/-- The condition with a placeholder for every value. -/
def clause (condition : KeyCondition) : String :=
  String.intercalate " AND " (condition.keys.map fun (column, _) => column ++ " = ?")

/-- The list of the values for the placeholders. -/
def arguments (runtime : Fragment) (condition : KeyCondition) : Fragment :=
  below ["std", "vec"] ++ mark "!" ++ brackets (listed (condition.keys.map fun (_, field) =>
    runtime ++ below ["Value", "from"]
      ++ parens (clone (mark "&" ++ Fragment.field "object" field))))

end KeyCondition

namespace TypeModel

/-- The statements that fill the column values from an object. -/
def contentPuts (model : TypeModel) : List ContentPut := model.columns.map .ofColumn

/-- The statements that fill an object from a row. -/
def cursorReads (model : TypeModel) : List CursorRead := model.columns.map .ofColumn

end TypeModel

end StorageMapping
