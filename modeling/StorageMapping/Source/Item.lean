import StorageMapping.Source.TypeExpr

namespace StorageMapping.Source

/-! Declarations as discovery sees them: the items that can carry markers, with the parts that
matter to it. Bodies, initialisers and all other items leave no trace. -/

/-- What follows the path of an attribute. -/
inductive AttributeInput where
  | none
  /-- A delimited list, and the place where it is closed. -/
  | list (tokens : List Token) (closing : Position)
  /-- A value, and the place of its equals sign. -/
  | value (equals : Position)
deriving Inhabited

structure Attribute where
  isInner : Bool
  rooted : Bool
  path : List Identifier
  input : AttributeInput
deriving Inhabited

namespace Attribute

/-- Is the path this one plain word? -/
def isNamed (attr : Attribute) (name : String) : Bool :=
  !attr.rooted &&
    match attr.path with
    | [word] => word.isWord name
    | _ => false

def pathText (attr : Attribute) : String :=
  (if attr.rooted then "::" else "")
    ++ String.intercalate "::" (attr.path.map (·.written))

end Attribute

/-- A field of a struct, of a union or of one variant of an enum. It begins with its first
attribute. -/
structure Field where
  attributes : List Attribute
  isPublic : Bool
  name : Option (Identifier × Position)
  type : TypeExpr
  position : Position
deriving Inhabited

inductive AssociatedKind where
  | method
  | constant
deriving DecidableEq, Repr

/-- A method or a constant of a trait or of an implementation. -/
structure AssociatedItem where
  kind : AssociatedKind
  attributes : List Attribute
  isPublic : Bool
  name : Identifier
  position : Position
  type : Option TypeExpr

inductive DataKind where
  | struct
  | enum
  | union
deriving DecidableEq, Repr

/-- A type definition. `parameters` counts its lifetime, type and constant parameters; the fields
of an enum are those of its variants, one variant after the other. -/
structure DataItem where
  kind : DataKind
  attributes : List Attribute
  name : Identifier
  position : Position
  parameters : Nat
  fields : List Field

/-- The fields of a struct or of a variant: in braces, in parentheses, or none at all. -/
inductive Fields where
  | named (fields : List Field)
  | unnamed (fields : List Field)
  | unit
deriving Inhabited

def Fields.list : Fields → List Field
  | .named fields => fields
  | .unnamed fields => fields
  | .unit => []

/-- What the body of a type definition holds. -/
inductive Data where
  | struct (fields : Fields)
  | enum (variants : List Fields)
  | union (fields : List Field)

namespace Data

def kind : Data → DataKind
  | .struct _ => .struct
  | .enum _ => .enum
  | .union _ => .union

def fields : Data → List Field
  | .struct fields => fields.list
  | .enum variants => variants.flatMap (·.list)
  | .union fields => fields

end Data

/-- A type definition that stands by itself, with its body as it is written. -/
structure DeriveInput where
  attributes : List Attribute
  name : Identifier
  position : Position
  parameters : Nat
  data : Data

/-- The same definition among the items of a file. -/
def DeriveInput.item (input : DeriveInput) : DataItem :=
  ⟨input.data.kind, input.attributes, input.name, input.position, input.parameters,
    input.data.fields⟩

inductive Item where
  /-- A module; one that is kept elsewhere has no contents here. -/
  | module (name : Identifier) (contents : Option (List Item))
  | data (item : DataItem)
  | trait (attributes : List Attribute) (name : Identifier) (position : Position)
      (members : List AssociatedItem)
  | implementation (selfType : TypeExpr) (members : List AssociatedItem)
  | other

instance : Inhabited Item := ⟨.other⟩

end StorageMapping.Source
