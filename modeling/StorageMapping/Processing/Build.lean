import StorageMapping.Processing.Problem

namespace StorageMapping

namespace Processing

/-! From a marked declaration to a type without columns, and from a marked element to a column. -/

/-- The operations without a locator of their own. -/
def missingOperations (backend : Backend) (locators : Locators) : List Operation :=
  backend.operations.filter fun operation => (locators.own operation).isEmpty

/-- The common locator alone is enough. Without it, every operation that may have its own locator
needs one, and there has to be such an operation. The first one that has none is named, unless all
of them have none. -/
def checkLocators (backend : Backend) (qualifiedName : String) (locators : Locators) :
    Except Problem Unit :=
  let missing := missingOperations backend locators
  if !locators.common.isEmpty then return ()
  else if backend.operations.isEmpty || !missing.isEmpty then
    throw (.missingLocator qualifiedName
      (if missing.length < backend.operations.length then missing.head? else none))
  else return ()

/-- The type of a declaration, without its columns. -/
def buildType (backend : Backend) (declaration : Declaration) : Except Problem TypeModel := do
  let locators := declaration.marker.getD .empty
  if declaration.kind ≠ .struct then
    throw (.notAStruct declaration.kind declaration.qualifiedName)
  checkLocators backend declaration.qualifiedName locators
  return ⟨declaration.name, declaration.modulePath, locators, [], declaration.location⟩

/-- An element has to be a field of a struct that carries the type marker. Whether its declaration
is there at all is seen when its column is attached. -/
def checkPlace (round : Round) (element : MarkedElement) : Except Problem Unit :=
  if element.kind ≠ .field then throw (.notAField element.kind element.name.text)
  else
    match round.declaration? element.enclosing with
    | none => return ()
    | some declaration =>
        if declaration.kind ≠ .struct then throw (.enclosingNotAStruct element.name.text)
        else if !declaration.isMarked then throw (.enclosingUnmarked declaration.name)
        else return ()

/-- Generated code has to be able to read the field and to set it. -/
def checkAccess (element : MarkedElement) : Except Problem Unit :=
  if element.isPrivate then throw (.privateField element.name.text)
  else if element.isImmutable then throw (.immutableField element.name.text)
  else return ()

/-- The declared type of an element with its column representation. -/
def classifyElement (introspect : Introspector) (element : MarkedElement) :
    Except Problem (Source.TypeExpr × FieldType) :=
  match element.type with
  | none => throw (.untyped element.name.text)
  | some type =>
      match introspect type with
      | .ok fieldType => return (type, fieldType)
      | .error description => throw (.unsupportedType description)

/-- Only a value that can be absent can be skipped, and a column needs a name. -/
def checkOptions (marker : ColumnMarker) (type : Source.TypeExpr) (fieldType : FieldType) :
    Except Problem Unit :=
  if marker.ignoresNull && fieldType.isNonNullablePrimitive then
    throw (.skippedPrimitive type.text)
  else if marker.name.isEmpty then throw .unnamedColumn
  else return ()

/-- The column of an element. The first problem counts: its place, the access to it, its type, its
options. -/
def buildColumn (introspect : Introspector) (round : Round) (element : MarkedElement) :
    Except Problem Column := do
  checkPlace round element
  checkAccess element
  let (type, fieldType) ← classifyElement introspect element
  checkOptions element.marker type fieldType
  return {
    owner := element.enclosing
    field := element.name
    storageName := element.marker.name
    type := fieldType
    isKey := element.marker.isKey
    ignoresNull := element.marker.ignoresNull
    location := element.location
  }

end Processing

end StorageMapping
