import StorageMapping.Round
import StorageMapping.Source.Reader

namespace StorageMapping

open Source

/-! Snapshots: rounds written down as data. Names and types are written as in a source text and
parsed when the round is built. -/

namespace Snapshot

inductive Modifier where
  | hidden
  | immutable
deriving DecidableEq, Repr

namespace Modifier

def text : Modifier → String
  | .hidden => "private"
  | .immutable => "immutable"

end Modifier

/-- A member of a declaration. Only one with a column belongs to the round. -/
structure Member where
  name : String
  type : Option String
  kind : ElementKind
  modifiers : List Modifier
  column : Option ColumnMarker
deriving DecidableEq, Repr

/-- A declaration. The entries of its marker have distinct keys. -/
structure Entry where
  name : String
  module : String
  kind : DeclarationKind
  marker : Option (List (String × String))
  members : List Member
deriving DecidableEq, Repr

end Snapshot

structure Snapshot where
  declarations : List Snapshot.Entry
deriving DecidableEq, Repr

namespace Snapshot

def malformed (location : Location) (message : String) : Diagnostic :=
  ⟨.malformedMarker, location, message⟩

/-- The result of parsing a text that belongs to an element. -/
def parsed {α : Type} (location : Location) (result : Except SyntaxError α) :
    Except Diagnostic α :=
  match result with
  | .ok value => return value
  | .error error => throw (malformed location error.message)

/-- The words that stand only in the module path of a declaration. -/
def moduleWords : List String := ["crate", "self", "super"]

/-- A name without the mark of a raw identifier. -/
def declaredName (location : Location) (text : String) : Except Diagnostic String :=
  (·.text) <$> parsed location (Reader.identifier text)

def moduleSegment (location : Location) (segment : String) : Except Diagnostic String :=
  if moduleWords.contains segment then return segment else declaredName location segment

/-- Reads the entries of a marker, in the order of their keys. -/
def readMarker (markers : MarkerSet) (location : Location) :
    List (String × String) → Locators → Except Diagnostic Locators
  | [], marker => return marker
  | (key, value) :: rest, marker =>
      match markers.locatorKeys.slot? key with
      | some slot => readMarker markers location rest (marker.set slot value)
      | none =>
          throw (malformed location ("Unknown key `" ++ key ++ "` in " ++ markers.typeDisplay))

def sorted (entries : List (String × String)) : List (String × String) :=
  entries.mergeSort fun first second => !(second.1 < first.1)

/-- The element of a member with a column. -/
def element (qualified : String) (member : Member) (marker : ColumnMarker) :
    Except Diagnostic MarkedElement := do
  let location := Location.detached (qualified ++ "::" ++ member.name)
  let name ← parsed location (Reader.identifier member.name)
  let type ←
    match member.type with
    | none => pure none
    | some text => some <$> parsed location (Reader.type text)
  return {
    kind := member.kind
    name := name
    type := type
    isPrivate := member.modifiers.contains .hidden
    isImmutable := member.modifiers.contains .immutable
    marker := marker
    enclosing := 0
    location := location
  }

/-- The members with a column, with it. -/
def stored (members : List Member) : List (Member × ColumnMarker) :=
  members.filterMap fun member => member.column.map (member, ·)

/-- The round of one declaration. -/
def entryRound (markers : MarkerSet) (entry : Entry) : Except Diagnostic Round := do
  let segments := Text.moduleSegments entry.module
  let written := Location.detached (Text.qualify segments entry.name)
  let modulePath ← segments.mapM (moduleSegment written)
  let name ← declaredName written entry.name
  let qualified := Text.qualify modulePath name
  let location := Location.detached qualified
  let marker ←
    match entry.marker with
    | none => pure none
    | some entries => some <$> readMarker markers location (sorted entries) .empty
  let members := stored entry.members
  if marker.isNone && members.isEmpty then return .empty
  return ⟨[⟨name, modulePath, entry.kind, marker, location⟩],
    ← members.mapM fun (member, column) => element qualified member column⟩

/-- The rounds of several declarations, one after the other. -/
def entriesRound (markers : MarkerSet) : List Entry → Except Diagnostic Round
  | [] => return .empty
  | entry :: rest => do
      let first ← entryRound markers entry
      return first.extend (← entriesRound markers rest)

/-- The round of a snapshot. A declaration with neither marker nor column is left out. -/
def toRound (snapshot : Snapshot) (markers : MarkerSet) : Except Diagnostic Round :=
  entriesRound markers snapshot.declarations

end Snapshot

end StorageMapping
