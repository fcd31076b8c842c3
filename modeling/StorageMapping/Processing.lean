import StorageMapping.Config
import StorageMapping.Processing.Output
import StorageMapping.Processing.Shells

namespace StorageMapping

/-! Processing of a round: from marked elements to types, and from these to units.

Every marked declaration becomes a type without columns, every marked element becomes a column and
is attached to its type, and the types are checked as a whole. The first failure ends the run, and
nothing is generated. -/

namespace Processing

/-- A type for every marked declaration, under its number. -/
def buildShells (backend : Backend) :
    List (Nat × Declaration) → Shells → Except Diagnostic Shells
  | [], shells => return shells
  | (id, declaration) :: rest, shells =>
      match buildType backend declaration with
      | .error problem => throw (problem.report backend declaration.location)
      | .ok model => buildShells backend rest (shells.insert id model)

/-- Builds the column of an element and attaches it. -/
def addColumn (backend : Backend) (introspect : Introspector) (round : Round) (shells : Shells)
    (element : MarkedElement) : Except Diagnostic Shells :=
  match buildColumn introspect round element >>= shells.attach with
  | .error problem => throw (problem.report backend element.location)
  | .ok shells => return shells

/-- The types of a round with their columns. -/
def types (backend : Backend) (introspect : Introspector) (round : Round) :
    Except Diagnostic (List TypeModel) := do
  let shells ← buildShells backend round.marked []
  let shells ← round.columns.foldlM (addColumn backend introspect round) shells
  shells.validate backend
  return shells.map (·.2)

end Processing

/-- Why a run ends without units. -/
inductive RunFailure where
  | diagnostic (diagnostic : Diagnostic)
  | illegalName (name : IllegalName)
deriving Repr

/-- All that a run depends on besides its round. -/
structure Processor where
  backend : Backend
  introspect : Introspector
  generators : List Generator
  context : GenerationContext

namespace Processor

/-- A processor with the strategies of the backend. It exists where the runtime path is one. -/
def ofConfig (backend : Backend) (config : Config) : Except String Processor := do
  let runtime ← config.runtimePathOr backend.defaultRuntime
  return ⟨backend, Column.classify, backend.generators, ⟨runtime, config.documented⟩⟩

/-- The units of one type. -/
def unitsOf (processor : Processor) (model : TypeModel) :
    Except IllegalName (List GeneratedUnit) :=
  processor.generators.mapM (·.generate processor.context model)

def process (processor : Processor) (round : Round) : Except RunFailure Output :=
  match Processing.types processor.backend processor.introspect round with
  | .error diagnostic => throw (.diagnostic diagnostic)
  | .ok types =>
      match types.mapM processor.unitsOf with
      | .error name => throw (.illegalName name)
      | .ok units => return ⟨types, units.flatten⟩

end Processor

end StorageMapping
