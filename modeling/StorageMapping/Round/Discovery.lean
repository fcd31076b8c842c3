import StorageMapping.Round
import StorageMapping.Source.Item

namespace StorageMapping

open Source

/-! Discovery of marked elements in the items of a text.

An item with the type marker, or with a member that carries the column marker, becomes a
declaration; every such member becomes an element. Only markers are read here: whether they make
sense where they stand is decided later. -/

namespace Discovery

/-- What every declaration of one scan shares: the markers to look for, and the name of the file
that is scanned. -/
structure Scope where
  markers : MarkerSet
  file : Option String

/-- A part of an item that may carry a column marker. -/
structure Member where
  kind : ElementKind
  attributes : List Attribute
  name : Option (Identifier × Position)
  type : Option TypeExpr
  isPrivate : Bool
  position : Position

namespace Member

def ofField (field : Field) : Member :=
  ⟨.field, field.attributes, field.name, some field.type, !field.isPublic, field.position⟩

def elementKind : AssociatedKind → ElementKind
  | .method => .method
  | .constant => .constant

/-- A member of a trait is as visible as the trait. -/
def ofTrait (item : AssociatedItem) : Member :=
  ⟨elementKind item.kind, item.attributes, some (item.name, item.position), item.type, false,
    item.position⟩

def ofImplementation (item : AssociatedItem) : Member :=
  { ofTrait item with isPrivate := !item.isPublic }

end Member

/-- The marked element that a member is. Numbers count the marked members of one declaration. -/
def element (scope : Scope) (qualified : String) (number : Nat) (member : Member)
    (attr : Attribute) : Except Diagnostic MarkedElement :=
  match member.name with
  | none =>
      let location : Location :=
        ⟨qualified ++ "::" ++ toString number, scope.file, member.position⟩
      throw ⟨.structural, location,
        scope.markers.columnDisplay ++ " can only be applied to named fields: "
          ++ location.element⟩
  | some (name, position) =>
      let location : Location := ⟨qualified ++ "::" ++ name.written, scope.file, position⟩
      match Marker.readColumn attr with
      | .error fault => throw (Marker.diagnostic location fault)
      | .ok marker =>
          return ⟨member.kind, name, member.type, member.isPrivate, false, marker, 0, location⟩

/-- The elements among the members, and the first fault among their markers. -/
def elements (scope : Scope) (qualified : String) :
    Nat → List (Member × Attribute) → Except Diagnostic (List MarkedElement)
  | _, [] => return []
  | number, (member, attr) :: rest => do
      let first ← element scope qualified number member attr
      return first :: (← elements scope qualified (number + 1) rest)

/-- The members that carry the column marker, with it. -/
def markedMembers (markers : MarkerSet) (members : List Member) : List (Member × Attribute) :=
  members.filterMap fun member =>
    (Marker.find? member.attributes markers.columnAttribute).map (member, ·)

/-- The round of a single item. -/
def record (scope : Scope) (modulePath : List String) (kind : DeclarationKind)
    (name : Identifier) (position : Position) (attributes : List Attribute)
    (members : List Member) : Except Diagnostic Round := do
  let qualified := Text.qualify modulePath name.text
  let location : Location := ⟨qualified, scope.file, position⟩
  let marker ←
    match Marker.find? attributes scope.markers.typeAttribute with
    | none => pure none
    | some attr =>
        match Marker.readType scope.markers.locatorKeys attr with
        | .ok marker => pure (some marker)
        | .error fault => throw (Marker.diagnostic location fault)
  let marked := markedMembers scope.markers members
  if marker.isNone && marked.isEmpty then return .empty
  return ⟨[⟨name.text, modulePath, kind, marker, location⟩],
    ← elements scope qualified 0 marked⟩

def declarationKind : DataKind → DeclarationKind
  | .struct => .struct
  | .enum => .enum
  | .union => .union

/-- The round of a type definition in a module. -/
def ofDefinition (scope : Scope) (modulePath : List String) (item : DataItem) :
    Except Diagnostic Round :=
  record scope modulePath (declarationKind item.kind) item.name item.position item.attributes
    (item.fields.map .ofField)

def fieldMembers (fields : Fields) : List Member := fields.list.map .ofField

/-- The round of a type definition that stands by itself. It stands in no module. -/
def ofDerive (scope : Scope) (input : DeriveInput) : Except Diagnostic Round :=
  let recordAs (kind : DeclarationKind) (members : List Member) : Except Diagnostic Round :=
    record scope [] kind input.name input.position input.attributes members
  match input.data with
  | .struct fields => recordAs .struct (fieldMembers fields)
  | .enum variants => recordAs .enum (variants.flatMap fieldMembers)
  | .union fields => recordAs .union (fields.map .ofField)

/-- The round of an implementation: of a type that is a path and has no self type of its own
behind parentheses. It is named for the last segment. -/
def ofImplementation (scope : Scope) (modulePath : List String) (selfType : TypeExpr)
    (members : List AssociatedItem) : Except Diagnostic Round :=
  match selfType.lastSegment? with
  | some segment =>
      record scope modulePath .implementation segment.name segment.position []
        (members.map .ofImplementation)
  | none => return .empty

mutual

/-- The round of an item and everything in it. -/
def ofItem (scope : Scope) (modulePath : List String) : Item → Except Diagnostic Round
  | .module name (some contents) => ofItems scope (modulePath ++ [name.text]) contents
  | .module _ none => return .empty
  | .data item => ofDefinition scope modulePath item
  | .trait attributes name position members =>
      record scope modulePath .trait name position attributes (members.map .ofTrait)
  | .implementation selfType members => ofImplementation scope modulePath selfType members
  | .other => return .empty

/-- The rounds of several items, one after the other. The first fault ends the scan. -/
def ofItems (scope : Scope) (modulePath : List String) : List Item → Except Diagnostic Round
  | [] => return .empty
  | item :: rest => do
      let first ← ofItem scope modulePath item
      return first.extend (← ofItems scope modulePath rest)

end

end Discovery

end StorageMapping
