import StorageMapping.Source.Reader
import StorageMapping.Text.SnakeCase
import StorageMapping.TypeModel

namespace StorageMapping

/-! Names of generated units and of their files, and the names by which generated code refers to
mapped types. -/

/-- The families of generated code. -/
inductive UnitKind where
  | put
  | get
  | delete
  | mapping
deriving DecidableEq, Repr

namespace UnitKind

def text : UnitKind → String
  | .put => "Put"
  | .get => "Get"
  | .delete => "Delete"
  | .mapping => "Mapping"

def all : List UnitKind := [.put, .get, .delete, .mapping]

end UnitKind

/-- The name parts of a backend. The slugs stand in file names. -/
structure UnitNaming where
  resolverPart : String
  resolverSlug : String
  mappingPart : String
  mappingSlug : String
deriving DecidableEq, Repr

/-- A text that generated code cannot contain as a name. -/
structure IllegalName where
  text : String
deriving DecidableEq, Repr

namespace Naming

open Source

/-- The name of a type without the mark of a raw identifier. -/
def bareName (name : String) : String :=
  match name.toList with
  | 'r' :: '#' :: rest => String.ofList rest
  | _ => name

/-- Has the text the letters of an identifier? It may still be a keyword. -/
def isWord (text : String) : Bool :=
  match text.toList with
  | [] => false
  | c :: rest => Text.isIdentifierStart c && rest.all Text.isIdentifierContinue

/-- The words that stand in a path as they are. -/
def pathWords : List String := ["crate", "self", "super", "Self"]

/-- The name that stands for a path segment. A keyword is written raw. -/
def pathName (segment : String) : Except IllegalName Identifier :=
  if pathWords.contains segment then return .plain segment
  else
    match Reader.identifier segment with
    | .ok name => return name
    | .error _ =>
        if isWord segment && !neverRaw.contains segment then return ⟨segment, true⟩
        else throw ⟨segment⟩

/-- A path of plain segments. -/
def pathTokens : List Identifier → List Token
  | [] => []
  | [name] => [.ofIdentifier name]
  | name :: rest => .ofIdentifier name :: (Token.ofOperator "::" ++ pathTokens rest)

/-- The names of a mapped type from its outermost module on. -/
def hostNames (model : TypeModel) : Except IllegalName (List Identifier) :=
  (model.modulePath ++ [model.name]).mapM pathName

/-- The path by which generated code refers to a mapped type. -/
def hostPath (model : TypeModel) : Except IllegalName (List Token) :=
  pathTokens <$> hostNames model

end Naming

namespace UnitNaming

open Naming

/-- The name of the item that a unit defines. -/
def unitName (naming : UnitNaming) (typeName : String) (kind : UnitKind) : String :=
  match kind with
  | .mapping => bareName typeName ++ naming.mappingPart ++ "TypeMapping"
  | _ => bareName typeName ++ naming.resolverPart ++ kind.text ++ "Resolver"

/-- The unit name as an identifier. -/
def unitIdentifier (naming : UnitNaming) (typeName : String) (kind : UnitKind) :
    Except IllegalName Source.Identifier :=
  let name := naming.unitName typeName kind
  if isWord name then return .plain name else throw ⟨name⟩

/-- The name of the file of a unit, without its extension. -/
def fileStem (naming : UnitNaming) (typeName : String) (kind : UnitKind) : String :=
  let typePart := Text.snakeCase (bareName typeName)
  match kind with
  | .mapping => typePart ++ "_" ++ naming.mappingSlug ++ "_type_mapping"
  | _ =>
      typePart ++ "_" ++ naming.resolverSlug ++ "_" ++ Text.snakeCase kind.text ++ "_resolver"

end UnitNaming

end StorageMapping
