import StorageMapping.Source.Token

namespace StorageMapping

/-! Diagnostics: what is wrong with the marked elements of a round, and where. -/

inductive DiagnosticKind where
  /-- The type of the field has no column representation. -/
  | unsupportedType
  /-- The column marker stands on a private or an immutable field. -/
  | access
  /-- A marker stands where it has no meaning. -/
  | structural
  /-- Absent values are to be skipped, but the field cannot be absent. -/
  | conflictingOptions
  | invalidName
  /-- The enclosing declaration is no mapped type. -/
  | orphanColumn
  | duplicateColumn
  /-- Some operation has no locator. -/
  | invalidLocator
  /-- A mapped type without columns. -/
  | emptyType
  | missingKey
  /-- A marker that cannot be read. -/
  | malformedMarker
deriving DecidableEq, Repr

/-- The name of an element, and its place in a file where it was found in one. -/
structure Location where
  element : String
  file : Option String
  position : Source.Position
deriving DecidableEq, Repr

namespace Location

/-- The location of an element that stands in no file. -/
def detached (element : String) : Location := ⟨element, none, .start⟩

def text (location : Location) : String :=
  match location.file with
  | some file =>
      let position := location.position
      s!"{location.element} ({file}:{position.line}:{position.column})"
  | none => location.element

end Location

structure Diagnostic where
  kind : DiagnosticKind
  location : Location
  message : String
deriving DecidableEq, Repr

namespace Diagnostic

/-- The message with its location behind it. -/
def text (diagnostic : Diagnostic) : String :=
  diagnostic.message ++ " [" ++ diagnostic.location.text ++ "]"

/-- A macro call that makes a compiler report the message. -/
def compileError (diagnostic : Diagnostic) : List Source.Token :=
  Source.Token.ofOperator "::" ++ [.ofWord "core"] ++ Source.Token.ofOperator "::"
    ++ [.ofWord "compile_error"] ++ Source.Token.ofOperator "!"
    ++ [.enclosed .brace [.ofText diagnostic.message]]

end Diagnostic

end StorageMapping
