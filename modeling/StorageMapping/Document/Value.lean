import StorageMapping.Decimal.Shortest

namespace StorageMapping.Document

/-! Values of configuration documents. A table remembers how it came to be, because that decides
whether a later line may add to it. -/

inductive TableKind where
  /-- Has a header of its own, or is the whole document. -/
  | defined
  /-- Stands in the header of another table. -/
  | implied
  /-- Stands in the dotted key of a value. -/
  | dotted
  /-- Written in braces. -/
  | closed
deriving DecidableEq, Repr

inductive Value where
  | text (value : String)
  | integer (value : Int)
  | decimal (value : Decimal.Binary64)
  | boolean (value : Bool)
  /-- A date, a time or both, in canonical form. -/
  | moment (text : String)
  | array (elements : List Value)
  /-- An array of tables, each with a header of its own; the last one is still open. -/
  | tables (elements : List (List (String × Value)))
  | table (kind : TableKind) (entries : List (String × Value))
deriving Inhabited, Repr

/-- Keys with their values, in the order of the document. -/
abbrev Entries := List (String × Value)

namespace Entries

def get? (entries : Entries) (key : String) : Option Value :=
  (entries.find? (·.1 == key)).map (·.2)

/-- Changes the value of a key, or adds the key at the end. -/
def put (entries : Entries) (key : String) (value : Value) : Entries :=
  match entries with
  | [] => [(key, value)]
  | (other, existing) :: rest =>
      if other == key then (key, value) :: rest else (other, existing) :: put rest key value

def remove (entries : Entries) (key : String) : Entries := entries.filter (·.1 != key)

end Entries

end StorageMapping.Document
