import Mathlib.Logic.Function.Basic
import StorageMapping.Proofs.Code.Language
import StorageMapping.Proofs.Code.Runtime
import StorageMapping.Unit.Statement

namespace StorageMapping.Code

/-! # The meaning of generated statements

Statements run in a frame: an object, the row that is read, the content values that are filled, and
local names. A run is stuck where code has no meaning, such as a method that the runtime does not
have, and it ends early where the runtime reports an error. -/

open Source

/-- The fields of an object by their names. Writing a field raw makes no difference. -/
abbrev Object (floats : Floats) (Foreign : Type) := String → FieldValue floats Foreign

inductive Value (floats : Floats) (Foreign : Type) where
  | held (value : FieldValue floats Foreign)
  | text (value : String)
  | number (digits : String)
  | index (place : Nat)
  | success (value : Value floats Foreign)
  | failure (error : RuntimeError)

inductive Stop where
  | stuck
  | failed (error : RuntimeError)
deriving DecidableEq, Repr

structure Frame (floats : Floats) (Foreign : Type) where
  object : Object floats Foreign
  row : Row floats
  values : ContentValues floats
  locals : List (String × Value floats Foreign)

variable {floats : Floats} {Foreign : Type}

namespace Value

def ofResult {α : Type} (wrap : α → Value floats Foreign) :
    Except RuntimeError α → Value floats Foreign
  | .ok result => .success (wrap result)
  | .error error => .failure error

def scalar (value : Scalar floats) : Value floats Foreign := .held (.plain value)

end Value

namespace Expression

/-- A function at a path: a copy of a value, or a value made optional. -/
def apply (path : List String) (argument : Value floats Foreign) :
    Except Stop (Value floats Foreign) :=
  if path = ["core", "clone", "Clone", "clone"] then .ok argument
  else if path = ["core", "option", "Option", "Some"] then
    match argument with
    | .held (.plain value) => .ok (.held (.optional (some value)))
    | _ => .error .stuck
  else .error .stuck

/-- A method of the row that is read. -/
def ask (row : Row floats) (called : String) (argument : Value floats Foreign) :
    Except Stop (Value floats Foreign) :=
  match argument with
  | .text name =>
      if called = "column_index_or_err" then .ok (.ofResult .index (row.indexOf name))
      else .error .stuck
  | .index place =>
      if called = "is_null" then .ok (.scalar (.boolean (row.isNull place)))
      else
        match row.getter? called place with
        | some result => .ok (.ofResult .scalar result)
        | none => .error .stuck
  | _ => .error .stuck

/-- The number that a literal of plain digits denotes. -/
def decimal? (digits : String) : Option Nat :=
  if digits.toList.all Text.isDigit then
    some (digits.toList.foldl (fun value digit => value * 10 + (digit.toNat - '0'.toNat)) 0)
  else none

def same (number literal : Value floats Foreign) :
    Except Stop (Value floats Foreign) :=
  match number, literal with
  | .held (.plain (.int32 value)), .number digits =>
      match decimal? digits with
      | some literal => .ok (.scalar (.boolean (value.toInt == literal)))
      | none => .error .stuck
  | _, _ => .error .stuck

def eval (frame : Frame floats Foreign) : Expression → Except Stop (Value floats Foreign)
  | .variable name =>
      match frame.locals.lookup name with
      | some value => .ok value
      | none => .error .stuck
  | .number digits => .ok (.number digits)
  | .text value => .ok (.text value)
  | .constant path =>
      if path = ["core", "option", "Option", "None"] then .ok (.held (.optional none))
      else .error .stuck
  | .call path argument => do apply path (← argument.eval frame)
  | .field holder name =>
      if holder = "object" then .ok (.held (frame.object name.text)) else .error .stuck
  | .borrowed holder name =>
      if holder = "object" then .ok (.held (frame.object name.text)) else .error .stuck
  | .method receiver called argument => do
      if receiver = "cursor" then ask frame.row called (← argument.eval frame) else .error .stuck
  | .attempt inner => do
      match ← inner.eval frame with
      | .success value => .ok value
      | .failure error => .error (.failed error)
      | _ => .error .stuck
  | .equal left right => do same (← left.eval frame) (← right.eval frame)
  | .choice condition accepted refused => do
      match ← condition.eval frame with
      | .held (.plain (.boolean true)) => accepted.eval frame
      | .held (.plain (.boolean false)) => refused.eval frame
      | _ => .error .stuck

section

variable {frame : Frame floats Foreign} {argument : Expression} {value : Value floats Foreign}

theorem eval_variable {name : String} (bound : frame.locals.lookup name = some value) :
    (Expression.variable name).eval frame = .ok value := by
  change (match frame.locals.lookup name with | some value => _ | none => _) = _
  rw [bound]

theorem eval_call (path : List String) (known : argument.eval frame = .ok value) :
    (call path argument).eval frame = apply path value := by
  change argument.eval frame >>= apply path = _
  rw [known]
  rfl

theorem eval_asked (called : String) (known : argument.eval frame = .ok value) :
    (method "cursor" called argument).eval frame = ask frame.row called value := by
  change argument.eval frame >>= ask frame.row called = _
  rw [known]
  rfl

theorem eval_attempt (known : argument.eval frame = .ok (.success value)) :
    (attempt argument).eval frame = .ok value := by
  change argument.eval frame >>= _ = _
  rw [known]
  rfl

theorem eval_choice {truth : Bool} (accepted refused : Expression)
    (known : argument.eval frame = .ok (.scalar (.boolean truth))) :
    (choice argument accepted refused).eval frame =
      if truth then accepted.eval frame else refused.eval frame := by
  change argument.eval frame >>= _ = _
  rw [known]
  cases truth <;> rfl

end

end Expression

namespace Step

/-- The only method with an effect: a pair is put into the content values. -/
def put (frame : Frame floats Foreign) :
    List (Value floats Foreign) → Except Stop (Frame floats Foreign)
  | [.text name, .held value] =>
      match value.stored? with
      | some stored => .ok { frame with values := frame.values.put name stored }
      | none => .error .stuck
  | _ => .error .stuck

def exec (frame : Frame floats Foreign) : Step → Except Stop (Frame floats Foreign)
  | .perform receiver called arguments => do
      if receiver = "content_values" ∧ called = "put" then
        put frame (← arguments.mapM (·.eval frame))
      else .error .stuck
  | .bind name value => do
      return { frame with locals := (name, ← value.eval frame) :: frame.locals }
  | .assign holder field value => do
      match ← value.eval frame with
      | .held value =>
          if holder = "object" then
            return { frame with object := Function.update frame.object field.text value }
          else .error .stuck
      | _ => .error .stuck

end Step

namespace Statement

/-- Runs steps; the local names that they bind are forgotten. -/
def execInside (frame : Frame floats Foreign) (steps : List Step)
    (bound : List (String × Value floats Foreign)) : Except Stop (Frame floats Foreign) := do
  let after ← steps.foldlM Step.exec { frame with locals := bound ++ frame.locals }
  return { after with locals := frame.locals }

theorem execInside_eq (frame : Frame floats Foreign) {after : Frame floats Foreign}
    {steps : List Step} (bound : List (String × Value floats Foreign))
    (ran : steps.foldlM Step.exec { frame with locals := bound ++ frame.locals } = .ok after) :
    execInside frame steps bound = .ok { after with locals := frame.locals } := by
  rw [execInside, ran]
  rfl

def exec (frame : Frame floats Foreign) : Statement → Except Stop (Frame floats Foreign)
  | .single step => step.exec frame
  | .block steps => execInside frame steps []
  | .ifPresent name tested steps => do
      match ← tested.eval frame with
      | .held (.optional (some value)) => execInside frame steps [(name, .scalar value)]
      | .held (.optional none) => return frame
      | _ => .error .stuck

end Statement

def run (frame : Frame floats Foreign) (code : List Fragment) :
    Except Stop (Frame floats Foreign) :=
  match code.mapM readStatement with
  | none => .error .stuck
  | some statements => statements.foldlM Statement.exec frame

/-- The content values that statements fill from an object. -/
def valuesOf (object : Object floats Foreign) (code : List Fragment) :
    Except Stop (ContentValues floats) :=
  (run ⟨object, [], [], []⟩ code).map (·.values)

/-- The object that statements fill from a row, beginning with a given one. -/
def objectOf (initial : Object floats Foreign) (row : Row floats) (code : List Fragment) :
    Except Stop (Object floats Foreign) :=
  (run ⟨initial, row, [], []⟩ code).map (·.object)

end StorageMapping.Code
