import StorageMapping.Unit.Template

namespace StorageMapping

/-! What a successful run leaves: types in the order of their declarations, and their units. -/

/-- The units of a type stand together, in the order of the strategies. -/
structure Output where
  types : List TypeModel
  units : List GeneratedUnit
deriving Repr

namespace Output

def empty : Output := ⟨[], []⟩

/-- The text behind the last double colon. The colons are taken in pairs from the end. -/
def lastPiece (name : String) : String :=
  String.ofList (lastPieceReversed [] name.toList.reverse)
where
  lastPieceReversed (piece : List Char) : List Char → List Char
    | ':' :: ':' :: _ => piece
    | c :: rest => lastPieceReversed (c :: piece) rest
    | [] => piece

/-- Is a unit meant by a name, qualified or simple? -/
def isNamed (name : String) (unit : GeneratedUnit) : Bool :=
  unit.typeName == name || lastPiece unit.typeName == name

/-- The units of every type of a name. -/
def unitsFor (output : Output) (name : String) : List GeneratedUnit :=
  output.units.filter (isNamed name)

/-- The first unit of a name and a kind. -/
def unit? (output : Output) (name : String) (kind : UnitKind) : Option GeneratedUnit :=
  (output.unitsFor name).find? fun unit => unit.kind == kind

/-- The first type of a name, qualified or simple. -/
def type? (output : Output) (name : String) : Option TypeModel :=
  output.types.find? fun model => model.qualifiedName == name || model.name == name

/-- Searches units with those already seen, the latest of them first. -/
def collisionAmong (seen : List GeneratedUnit) :
    List GeneratedUnit → Option (GeneratedUnit × GeneratedUnit)
  | [] => none
  | unit :: rest =>
      match seen.find? fun earlier => earlier.fileName == unit.fileName with
      | some earlier => some (earlier, unit)
      | none => collisionAmong (unit :: seen) rest

/-- The first unit whose file name an earlier unit has, with that one in front. -/
def collision? (output : Output) : Option (GeneratedUnit × GeneratedUnit) :=
  collisionAmong [] output.units

/-- All units in one stream. -/
def tokens (output : Output) : List Source.Token := output.units.flatMap (·.tokens)

def isEmpty (output : Output) : Bool := output.units.isEmpty

end Output

end StorageMapping
