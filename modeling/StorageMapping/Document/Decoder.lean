import StorageMapping.Document.Value
import StorageMapping.Text.Quoted

namespace StorageMapping.Document

/-! From values to data. The first problem in the order of the document is reported. -/

/-- Why a value is not the wanted data. -/
inductive Problem where
  | invalidType (found : Value) (wanted : String)
  | unknownField (field : String) (known : List String)
  | missingField (field : String)
  | unknownVariant (variant : String) (known : List String)
  | invalidLength (length : Nat) (wanted : String)
  | notAVariant
  /-- A table that stands for a variant has one entry. -/
  | entryCount (isEmpty : Bool)
  | variantContents (wanted : String)
deriving Repr

namespace Problem

/-- A value as messages tell it. -/
def describe : Value → String
  | .text value => "string " ++ Text.quoteMessage value
  | .integer value => "integer `" ++ toString value ++ "`"
  | .decimal value => "floating point `" ++ value.text ++ "`"
  | .boolean value => "boolean `" ++ toString value ++ "`"
  | .moment _ => "map"
  | .array _ => "sequence"
  | .tables _ => "sequence"
  | .table _ _ => "map"

/-- The choices that there are, as messages list them. -/
def choices (known : List String) : String :=
  match known.map fun word => "`" ++ word ++ "`" with
  | [] => "nothing"
  | [only] => only
  | [first, second] => first ++ " or " ++ second
  | words => "one of " ++ String.intercalate ", " words

def message : Problem → String
  | .invalidType found wanted => "invalid type: " ++ describe found ++ ", expected " ++ wanted
  | .unknownField field known => "unknown field `" ++ field ++ "`, expected " ++ choices known
  | .missingField field => "missing field `" ++ field ++ "`"
  | .unknownVariant variant known =>
      "unknown variant `" ++ variant ++ "`, expected " ++ choices known
  | .invalidLength length wanted =>
      "invalid length " ++ toString length ++ ", expected " ++ wanted
  | .notAVariant => "wanted string or table"
  | .entryCount isEmpty =>
      "wanted exactly 1 element, " ++ if isEmpty then "found 0 elements" else "more than 1 element"
  | .variantContents wanted => wanted

end Problem

abbrev Decoder (α : Type) := Value → Except Problem α

namespace Decoder

variable {α β : Type}

def text : Decoder String
  | .text value => return value
  | found => throw (.invalidType found "a string")

def boolean : Decoder Bool
  | .boolean value => return value
  | found => throw (.invalidType found "a boolean")

/-- A value that is there. -/
def present (decoder : Decoder α) : Decoder (Option α) := fun value => some <$> decoder value

def list (decoder : Decoder α) : Decoder (List α)
  | .array elements => elements.mapM decoder
  | .tables elements => elements.mapM fun entries => decoder (.table .defined entries)
  | found => throw (.invalidType found "a sequence")

/-- The key under which a moment is held when it is taken for a table. -/
def momentKey : String := "$__toml_private_datetime"

/-- The entries of a value that is a table or is taken for one. -/
def entries? : Value → Option Entries
  | .table _ entries => some entries
  | .moment text => some [(momentKey, .text text)]
  | _ => none

/-- Keys of any kind, each with a value of the same kind. -/
def map (decoder : Decoder α) : Decoder (List (String × α)) := fun value =>
  match entries? value with
  | some entries => entries.mapM fun (key, value) => (key, ·) <$> decoder value
  | none => throw (.invalidType value "a map")

/-- The kind of a value as it is told inside a variant. -/
def kindName : Value → String
  | .text _ => "string"
  | .integer _ => "integer"
  | .decimal _ => "float"
  | .boolean _ => "boolean"
  | .moment _ => "datetime"
  | .array _ => "array"
  | .tables _ => "array of tables"
  | .table .closed _ => "inline table"
  | .table _ _ => "table"

/-- A variant may be written as a table with an empty value. -/
def checkEmpty : Value → Except Problem Unit
  | .array elements =>
      if elements.isEmpty then return () else throw (.variantContents "expected empty table")
  | .tables elements =>
      if elements.isEmpty then return () else throw (.variantContents "expected empty array")
  | .table _ entries =>
      if entries.isEmpty then return () else throw (.variantContents "expected empty table")
  | found => throw (.variantContents ("expected table, found " ++ kindName found))

/-- One of several words, each standing for a value. -/
def variant (known : List (String × α)) : Decoder α
  | .text word => find word
  | .table _ [(word, contents)] => do
      let value ← find word
      checkEmpty contents
      return value
  | .table _ entries => throw (.entryCount entries.isEmpty)
  | _ => throw .notAVariant
where
  find (word : String) : Except Problem α :=
    match known.find? (·.1 == word) with
    | some (_, value) => return value
    | none => throw (.unknownVariant word (known.map (·.1)))

/-- A field of a record: how its value changes the record, whether the record needs it, and whether
it may be missing at the end of a list of values. -/
structure Field (α : Type) where
  name : String
  set : Value → α → Except Problem α
  isRequired : Bool
  mayBeMissing : Bool

namespace Field

/-- A field that keeps its first value where the record does not set it. -/
def optional (name : String) (decoder : Decoder β) (update : α → β → α) : Field α :=
  ⟨name, fun value record => update record <$> decoder value, false, true⟩

/-- A field that is absent where the record does not set it. -/
def absent (name : String) (decoder : Decoder β) (update : α → Option β → α) : Field α :=
  ⟨name, fun value record => update record <$> present decoder value, false, false⟩

def required (name : String) (decoder : Decoder β) (update : α → β → α) : Field α :=
  ⟨name, fun value record => update record <$> decoder value, true, false⟩

end Field

/-- Sets the fields that entries name. -/
def setNamed (fields : List (Field α)) : Entries → α → Except Problem α
  | [], record => return record
  | (key, value) :: rest, record =>
      match fields.find? (·.name == key) with
      | some field => do setNamed fields rest (← field.set value record)
      | none => throw (.unknownField key (fields.map (·.name)))

/-- Sets the fields in their order from a list of values; values left over are ignored. -/
def setListed (wanted : String) : Nat → List (Field α) → List Value → α → Except Problem α
  | _, [], _, record => return record
  | index, field :: fields, value :: values, record => do
      setListed wanted (index + 1) fields values (← field.set value record)
  | index, field :: fields, [], record =>
      if field.mayBeMissing then setListed wanted (index + 1) fields [] record
      else throw (.invalidLength index wanted)

/-- A record with a name for messages and a first value. It is written as a table, or as the list
of its values. -/
def record (name : String) (fields : List (Field α)) (first : α) : Decoder α := fun value =>
  let listed (values : List Value) :=
    let size := toString fields.length ++ if fields.length = 1 then " element" else " elements"
    setListed ("struct " ++ name ++ " with " ++ size) 0 fields values first
  match value with
  | .array elements => listed elements
  | .tables elements => listed (elements.map (.table .defined))
  | _ =>
      match entries? value with
      | some entries => do
          let found ← setNamed fields entries first
          match fields.find? fun field =>
              field.isRequired && (entries.get? field.name).isNone with
          | some field => throw (.missingField field.name)
          | none => return found
      | none => throw (.invalidType value ("struct " ++ name))

end Decoder

end StorageMapping.Document
