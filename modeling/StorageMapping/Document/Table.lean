import StorageMapping.Document.Value

namespace StorageMapping.Document

/-! How the lines of a document make up its tables.

A key is added to a table once. A dotted key may add to tables that only headers or dotted keys
have made so far, a header to any table that is not closed; a table has one header. -/

namespace Entries

/-- The last element of a list, and a way to replace it. -/
def splitLast {α : Type} : List α → Option (List α × α)
  | [] => none
  | [last] => some ([], last)
  | first :: rest => (splitLast rest).map fun (before, last) => (first :: before, last)

/-- Changes the table at the end of a path. Tables on the way are made where there are none. -/
def changeAt (dotted : Bool) (change : TableKind → Entries → Option Entries) :
    TableKind → List String → Entries → Option Entries
  | kind, [], entries => change kind entries
  | _, key :: path, entries =>
      match entries.get? key with
      | none => do
          let kind := if dotted then TableKind.dotted else .implied
          let inner ← changeAt dotted change kind path []
          return entries.put key (.table kind inner)
      | some (.table kind inner) =>
          if kind = .closed || (dotted && kind = .defined) then none
          else do
            return entries.put key (.table kind (← changeAt dotted change kind path inner))
      | some (.tables elements) => do
          let (before, last) ← splitLast elements
          return entries.put key
            (.tables (before ++ [← changeAt dotted change .defined path last]))
      | some _ => none

/-- A line adds a key that is not there yet. Behind a dotted key stands a table that dotted keys
have made. -/
def addValue (path : List String) (key : String) (value : Value) (entries : Entries) :
    Option Entries :=
  changeAt true (fun kind inner =>
    if (kind == .dotted) == path.isEmpty || (inner.get? key).isSome then none
    else some (inner.put key value)) .defined path entries

def addValues (lines : List (List String × Value)) (entries : Entries) : Option Entries :=
  lines.foldlM (fun entries (path, value) => do
    let (before, key) ← splitLast path
    addValue before key value entries) entries

end Entries

/-- A header with the lines below it. -/
structure Section where
  path : List String
  isElement : Bool
  lines : List (List String × Value)

namespace Section

/-- Adds a table to an array of tables. -/
def addElement (key : String) (lines : List (List String × Value)) (parent : Entries) :
    Option Entries := do
  let elements ←
    match parent.get? key with
    | none => some []
    | some (.tables elements) => some elements
    | some _ => none
  return parent.put key (.tables (elements ++ [← Entries.addValues lines []]))

/-- Defines a table. One that only other headers have made keeps its contents, and stands at the
place of its own header. -/
def defineTable (key : String) (lines : List (List String × Value)) (parent : Entries) :
    Option Entries := do
  let contents ←
    match parent.get? key with
    | none => some []
    | some (.table .implied entries) => some entries
    | some _ => none
  return (parent.remove key) ++ [(key, .table .defined (← Entries.addValues lines contents))]

def add (root : Entries) (part : Section) : Option Entries := do
  let (before, key) ← Entries.splitLast part.path
  Entries.changeAt false (fun _ parent =>
    if part.isElement then addElement key part.lines parent
    else defineTable key part.lines parent) .defined before root

end Section

/-- The contents of a document: lines without a header, then its sections. -/
def assemble (lines : List (List String × Value)) (sections : List Section) : Option Entries := do
  sections.foldlM Section.add (← Entries.addValues lines [])

/-- A table in braces. -/
def closedTable (lines : List (List String × Value)) : Option Value :=
  (Entries.addValues lines []).map (.table .closed)

end StorageMapping.Document
