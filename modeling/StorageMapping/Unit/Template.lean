import StorageMapping.Backend
import StorageMapping.Unit.Statement

namespace StorageMapping

open Source Fragment

/-! Generated units: the code that maps one type to its store, one unit for each kind. -/

/-- What all units of a run share. -/
structure GenerationContext where
  /-- The path of the runtime module. -/
  runtime : TypeExpr
  /-- Do generated items carry documentation? -/
  documented : Bool

/-- Generated code of one kind for one type. -/
structure GeneratedUnit where
  kind : UnitKind
  /-- The qualified name of the mapped type. -/
  typeName : String
  unitName : String
  fileStem : String
  tokens : Fragment
deriving Repr

namespace GeneratedUnit

/-- The text of the code. -/
def code (unit : GeneratedUnit) : String := render unit.tokens

def fileName (unit : GeneratedUnit) : String := unit.fileStem ++ ".rs"

def summary (unit : GeneratedUnit) : String :=
  unit.kind.text ++ " " ++ unit.unitName ++ " for " ++ unit.typeName

end GeneratedUnit

namespace Template

/-- A documentation attribute, where documentation is wanted. -/
def documentation (context : GenerationContext) (sentence : String) : Fragment :=
  if context.documented then
    mark "#" ++ brackets (word "doc" ++ mark "=" ++ text (" " ++ sentence))
  else []

/-- The definition of a unit: an empty struct. -/
def definition (context : GenerationContext) (sentence : String) (name : Identifier) :
    Fragment :=
  documentation context sentence
    ++ mark "#" ++ brackets (word "derive"
      ++ parens (listed (["Debug", "Clone", "Copy", "Default"].map word)))
    ++ words ["pub", "struct"] ++ Fragment.name name ++ mark ";"

def angled (inner : Fragment) : Fragment := mark "<" ++ inner ++ mark ">"

/-- A method with its receiver and its arguments. -/
def function (name : String) (arguments result body : Fragment) : Fragment :=
  words ["fn", name] ++ parens arguments ++ mark "->" ++ result ++ braces body

def implementation (trait self body : Fragment) : Fragment :=
  word "impl" ++ trait ++ word "for" ++ self ++ braces body

/-- An argument that borrows the object. -/
def borrowed (name : String) (host : Fragment) : Fragment :=
  mark "&" ++ word "self" ++ mark "," ++ word name ++ mark ":" ++ mark "&" ++ host

/-- A query: its builder, the locator and perhaps the condition on the key. -/
def query (backend : Backend) (runtime : Fragment) (name locator : String)
    (condition : Option KeyCondition) : Fragment :=
  runtime ++ below [name, "builder"] ++ parens []
    ++ method backend.locatorMethod (text locator)
    ++ (match condition with
      | some condition =>
          method "where_clause" (text condition.clause)
            ++ method "where_args" (condition.arguments runtime)
      | none => [])
    ++ method "build" []

/-- The implementation of a put: two queries and the column values. -/
def putBody (backend : Backend) (runtime host : Fragment) (model : TypeModel) : Fragment :=
  let values := runtime ++ below ["ContentValues"]
  let condition := KeyCondition.ofModel model
  function "map_to_insert_query" (borrowed "_object" host) (runtime ++ below ["InsertQuery"])
      (query backend runtime "InsertQuery" (model.locators.resolve .insert) none)
    ++ function "map_to_update_query" (borrowed "object" host) (runtime ++ below ["UpdateQuery"])
      (query backend runtime "UpdateQuery" (model.locators.resolve .update) (some condition))
    ++ function "map_to_content_values" (borrowed "object" host) values
      (words ["let", "mut", "content_values"] ++ mark "=" ++ values ++ below ["with_capacity"]
        ++ parens [Token.literal (toString model.columns.length ++ "usize") .start] ++ mark ";"
        ++ model.contentPuts.flatMap (·.tokens) ++ word "content_values")

/-- The implementation of a get: a default object whose fields are read from a row. -/
def getBody (runtime host : Fragment) (model : TypeModel) : Fragment :=
  function "map_from_cursor"
    (mark "&" ++ word "self" ++ mark "," ++ word "cursor" ++ mark ":" ++ mark "&"
      ++ runtime ++ below ["Cursor"] ++ mark ",")
    (below ["core", "result", "Result"]
      ++ angled (host ++ mark "," ++ runtime ++ below ["Error"]))
    (words ["let", "mut", "object"] ++ mark "="
      ++ angled (host ++ word "as" ++ below ["core", "default", "Default"])
      ++ below ["default"] ++ parens [] ++ mark ";"
      ++ model.cursorReads.flatMap (·.tokens)
      ++ below ["core", "result", "Result", "Ok"] ++ parens (word "object"))

/-- The implementation of a delete: one query for the row of an object. -/
def deleteBody (backend : Backend) (runtime host : Fragment) (model : TypeModel) : Fragment :=
  function "map_to_delete_query" (borrowed "object" host) (runtime ++ below ["DeleteQuery"])
    (query backend runtime "DeleteQuery" (model.locators.resolve .delete)
      (some (.ofModel model)))

/-- The trait that a resolver implements for its type. -/
def resolverTrait (runtime host : Fragment) (kind : UnitKind) : Fragment :=
  runtime ++ below [kind.text ++ "Resolver"] ++ angled host

def boxed (name : Identifier) : Fragment :=
  below ["std", "boxed", "Box", "new"] ++ parens (Fragment.name name)

/-- The implementations of a mapping: it holds the three resolvers and belongs to its type. -/
def mappingItems (backend : Backend) (runtime host : Fragment)
    (mapping put get delete : Identifier) : Fragment :=
  let mappingType := runtime ++ below [backend.mappingType]
  let self := Fragment.name mapping
  implementation (below ["core", "convert", "From"] ++ angled self)
      (mappingType ++ angled host)
      (function "from" (word "_" ++ mark ":" ++ self) (word "Self")
        (mappingType ++ below ["new"] ++ parens
          ([put, get, delete].flatMap fun resolver => boxed resolver ++ mark ",")))
    ++ implementation (runtime ++ below ["TypeMapped"]) host
      (function "type_mapping" [] (mappingType ++ angled (word "Self"))
        (below ["core", "convert", "From", "from"] ++ parens self))

/-- The documentation of a unit. -/
def sentence (backend : Backend) (kind : UnitKind) (qualifiedName : String) : String :=
  let what := match kind with
    | .put => "put resolver"
    | .get => "get resolver"
    | .delete => "delete resolver"
    | .mapping => "`" ++ backend.mappingType ++ "`"
  "Generated " ++ what ++ " for `" ++ qualifiedName ++ "`."

end Template

/-- One generation strategy: the units of one kind for one backend. -/
structure Generator where
  backend : Backend
  kind : UnitKind
deriving DecidableEq, Repr

namespace Generator

/-- The name of a strategy. -/
def text (generator : Generator) : String := "Generator(" ++ generator.kind.text ++ ")"

/-- The code of a unit. It cannot be written where the type, its modules or the unit have no
legal name. -/
def tokens (generator : Generator) (context : GenerationContext) (model : TypeModel) :
    Except IllegalName Fragment := do
  let backend := generator.backend
  let runtime := context.runtime.tokens
  let host ← Naming.hostPath model
  let identifier := backend.naming.unitIdentifier model.name
  let name ← identifier generator.kind
  let items ← match generator.kind with
    | .put => pure (resolver runtime host name (Template.putBody backend runtime host model))
    | .get => pure (resolver runtime host name (Template.getBody runtime host model))
    | .delete => pure (resolver runtime host name (Template.deleteBody backend runtime host model))
    | .mapping =>
        pure (Template.mappingItems backend runtime host name (← identifier .put)
          (← identifier .get) (← identifier .delete))
  let sentence := Template.sentence backend generator.kind model.qualifiedName
  return Template.definition context sentence name ++ items
where
  resolver (runtime host : Fragment) (name : Identifier) (body : Fragment) : Fragment :=
    Template.implementation (Template.resolverTrait runtime host generator.kind)
      (Fragment.name name) body

/-- The unit of one type. -/
def generate (generator : Generator) (context : GenerationContext) (model : TypeModel) :
    Except IllegalName GeneratedUnit := do
  let naming := generator.backend.naming
  return {
    kind := generator.kind
    typeName := model.qualifiedName
    unitName := naming.unitName model.name generator.kind
    fileStem := naming.fileStem model.name generator.kind
    tokens := ← generator.tokens context model
  }

end Generator

/-- A backend's own strategies, in the order in which they run. -/
def Backend.generators (backend : Backend) : List Generator :=
  UnitKind.all.map fun kind => ⟨backend, kind⟩

end StorageMapping
