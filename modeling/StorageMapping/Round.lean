import StorageMapping.Diagnostic
import StorageMapping.Marker
import StorageMapping.Text.Segments

namespace StorageMapping

/-! Rounds: the marked declarations and elements that one run works on, in the order in which they
were found. -/

inductive DeclarationKind where
  | struct
  | enum
  | union
  | trait
  | implementation
deriving DecidableEq, Repr

namespace DeclarationKind

def text : DeclarationKind → String
  | .struct => "struct"
  | .enum => "enum"
  | .union => "union"
  | .trait => "trait"
  | .implementation => "impl"

end DeclarationKind

inductive ElementKind where
  | field
  | method
  | constant
deriving DecidableEq, Repr

namespace ElementKind

def text : ElementKind → String
  | .field => "field"
  | .method => "method"
  | .constant => "constant"

end ElementKind

/-- A declaration that carries the type marker or encloses a column marker. -/
structure Declaration where
  name : String
  modulePath : List String
  kind : DeclarationKind
  marker : Option Locators
  location : Location

namespace Declaration

def qualifiedName (declaration : Declaration) : String :=
  Text.qualify declaration.modulePath declaration.name

def isMarked (declaration : Declaration) : Bool := declaration.marker.isSome

end Declaration

/-- An element that carries the column marker. Its declaration is given by its number in the
round. -/
structure MarkedElement where
  kind : ElementKind
  name : Source.Identifier
  type : Option Source.TypeExpr
  isPrivate : Bool
  isImmutable : Bool
  marker : ColumnMarker
  enclosing : Nat
  location : Location

structure Round where
  declarations : List Declaration
  columns : List MarkedElement

namespace Round

def empty : Round := ⟨[], []⟩

/-- Adds a declaration at the end; its number is the number of declarations before it. -/
def pushDeclaration (round : Round) (declaration : Declaration) : Round :=
  { round with declarations := round.declarations ++ [declaration] }

def pushColumn (round : Round) (element : MarkedElement) : Round :=
  { round with columns := round.columns ++ [element] }

/-- The declaration of a number. -/
def declaration? (round : Round) (id : Nat) : Option Declaration := round.declarations[id]?

/-- Declarations with their numbers, counted from a first one. -/
def number (first : Nat) : List Declaration → List (Nat × Declaration)
  | [] => []
  | declaration :: rest => (first, declaration) :: number (first + 1) rest

/-- The declarations that carry the type marker, with their numbers. -/
def marked (round : Round) : List (Nat × Declaration) :=
  (number 0 round.declarations).filter (·.2.isMarked)

def isEmpty (round : Round) : Bool := round.declarations.isEmpty && round.columns.isEmpty

/-- Puts another round behind this one; its declarations are numbered on. -/
def extend (round other : Round) : Round where
  declarations := round.declarations ++ other.declarations
  columns :=
    round.columns ++ other.columns.map fun element =>
      { element with enclosing := element.enclosing + round.declarations.length }

end Round

end StorageMapping
