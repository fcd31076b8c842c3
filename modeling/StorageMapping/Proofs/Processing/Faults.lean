import StorageMapping.Processing
import StorageMapping.Proofs.Processing.Assembly

namespace StorageMapping

/-! # Faults

What can be wrong with a round, listed in the order in which it counts: the declarations, then the
elements one by one with those before them, then the types as a whole. -/

/-- Two elements of one declaration that would have the same column or the same field. -/
def MarkedElement.Clash (earlier later : MarkedElement) : Prop :=
  earlier.enclosing = later.enclosing ∧
    (earlier.marker.name = later.marker.name ∨ earlier.name.text = later.name.text)

instance (earlier later : MarkedElement) : Decidable (MarkedElement.Clash earlier later) :=
  inferInstanceAs (Decidable (_ ∧ _))

namespace Processing

/-- A problem that is there under a condition. -/
def raisedIf (condition : Prop) [Decidable condition] (problem : Problem) : Option Problem :=
  if condition then some problem else none

def firstProblem? (problems : List (Option Problem)) : Option Problem := problems.findSome? id

def typeProblem? (introspect : Introspector) (element : MarkedElement) : Option Problem :=
  match element.type with
  | none => some (.untyped element.name.text)
  | some type =>
      match introspect type with
      | .error description => some (.unsupportedType description)
      | .ok _ => none

/-- A value that is always there cannot be skipped for want of one. -/
def skipProblem? (introspect : Introspector) (element : MarkedElement) : Option Problem := do
  let type ← element.type
  let fieldType ← (introspect type).toOption
  raisedIf (element.marker.ignoresNull ∧ fieldType.isNonNullablePrimitive)
    (.skippedPrimitive type.text)

/-- What the place of an element can have wrong. A declaration that is not there is no fault of
the place. -/
def placeProblems (round : Round) (element : MarkedElement) : List (Option Problem) :=
  let enclosing? := round.declaration? element.enclosing
  [ raisedIf (element.kind ≠ .field) (.notAField element.kind element.name.text),
    enclosing?.bind fun enclosing =>
      raisedIf (enclosing.kind ≠ .struct) (.enclosingNotAStruct element.name.text),
    enclosing?.bind fun enclosing =>
      raisedIf (¬ enclosing.isMarked) (.enclosingUnmarked enclosing.name) ]

def accessProblems (element : MarkedElement) : List (Option Problem) :=
  [ raisedIf element.isPrivate (.privateField element.name.text),
    raisedIf element.isImmutable (.immutableField element.name.text) ]

def optionProblems (introspect : Introspector) (element : MarkedElement) :
    List (Option Problem) :=
  [ skipProblem? introspect element, raisedIf (element.marker.name = "") .unnamedColumn ]

/-- What an element can have wrong whatever stands before it. -/
def elementProblems (introspect : Introspector) (round : Round) (element : MarkedElement) :
    List (Option Problem) :=
  placeProblems round element ++ accessProblems element ++ [typeProblem? introspect element]
    ++ optionProblems introspect element

/-- What keeps an element from being attached behind those before it. -/
def attachmentProblems (round : Round) (earlier : List MarkedElement) (element : MarkedElement) :
    List (Option Problem) :=
  [ raisedIf (∀ entry ∈ round.marked, entry.1 ≠ element.enclosing) .orphan,
    raisedIf (∃ other ∈ earlier, other.Clash element) (.duplicate element.marker.name) ]

def columnProblem? (introspect : Introspector) (round : Round) (earlier : List MarkedElement)
    (element : MarkedElement) : Option Problem :=
  firstProblem? (elementProblems introspect round element
    ++ attachmentProblems round earlier element)

/-- A type needs a column and a key among its columns. -/
def lackingProblem? (round : Round) (id : Nat) : Option Problem :=
  if ∀ element ∈ round.columns, element.enclosing ≠ id then some .noColumns
  else if ∀ element ∈ round.columns, element.enclosing = id → ¬ element.marker.isKey then
    some .noKey
  else none

variable (backend : Backend) (introspect : Introspector) (round : Round)

def refusal? (declaration : Declaration) : Option Diagnostic :=
  match buildType backend declaration with
  | .error problem => some (problem.report backend declaration.location)
  | .ok _ => none

def declarationFault? : Option Diagnostic :=
  round.marked.findSome? fun entry => refusal? backend entry.2

/-- The report on the first faulty element of a list, behind the elements before the list. -/
def columnFault? (earlier : List MarkedElement) : List MarkedElement → Option Diagnostic
  | [] => none
  | element :: rest =>
      match columnProblem? introspect round earlier element with
      | some problem => some (problem.report backend element.location)
      | none => columnFault? (earlier ++ [element]) rest

def typeFault? : Option Diagnostic :=
  round.marked.findSome? fun entry =>
    (lackingProblem? round entry.1).map (·.report backend entry.2.location)

end Processing

end StorageMapping
