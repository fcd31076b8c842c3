import StorageMapping.Backend

namespace StorageMapping.CommandLine

/-! The arguments of the command line. They are read from left to right: the first fault ends the
reading, and so does a request for help or for the version. -/

/-- What a user asks for. -/
structure Invocation where
  backend : Backend
  modulePath : Option String
  runtimePath : Option String
  configPath : Option String
  outputDirectory : Option String
  undocumented : Bool
  inputs : List String
deriving Repr

inductive Request where
  | run (invocation : Invocation)
  | version
  | help
deriving Repr

/-- The options that take a value. -/
inductive ValueOption where
  | backend
  | modulePath
  | runtimePath
  | configPath
  | outputDirectory
deriving DecidableEq, Repr

namespace ValueOption

def ofLong? : String → Option ValueOption
  | "backend" => some .backend
  | "module" => some .modulePath
  | "runtime" => some .runtimePath
  | "config" => some .configPath
  | "out-dir" => some .outputDirectory
  | _ => none

def ofShort? : Char → Option ValueOption
  | 'b' => some .backend
  | 'm' => some .modulePath
  | 'c' => some .configPath
  | 'o' => some .outputDirectory
  | _ => none

/-- Can the option have this value? Paths are not empty. -/
def accepts (option : ValueOption) (value : String) : Bool :=
  match option with
  | .backend => (Backend.named? value).isSome
  | .modulePath => true
  | .runtimePath => true
  | .configPath => !value.isEmpty
  | .outputDirectory => !value.isEmpty

end ValueOption

/-- What has been read so far. -/
structure Progress where
  values : List (ValueOption × String)
  undocumented : Bool
  inputs : List String

namespace Progress

def start : Progress := ⟨[], false, []⟩

def value? (progress : Progress) (option : ValueOption) : Option String :=
  (progress.values.find? (·.1 = option)).map (·.2)

/-- Gives an option its value, which it can have only once. -/
def give (progress : Progress) (option : ValueOption) (value : String) : Option Progress :=
  if (progress.value? option).isSome || !option.accepts value then none
  else some { progress with values := (option, value) :: progress.values }

def leaveUndocumented (progress : Progress) : Option Progress :=
  if progress.undocumented then none else some { progress with undocumented := true }

def addInput (progress : Progress) (input : String) : Option Progress :=
  if input.isEmpty then none else some { progress with inputs := progress.inputs ++ [input] }

/-- The invocation at the end of the arguments. A backend and an input have to be there; the
environment may name the runtime path. -/
def finish (progress : Progress) (environment : Option String) : Option Request := do
  let backend ← (progress.value? .backend).bind Backend.named?
  if progress.inputs.isEmpty then none
  return .run {
    backend := backend
    modulePath := progress.value? .modulePath
    runtimePath := progress.value? .runtimePath <|> environment
    configPath := progress.value? .configPath
    outputDirectory := progress.value? .outputDirectory
    undocumented := progress.undocumented
    inputs := progress.inputs
  }

end Progress

/-- A value behind its option's letter may have an equals sign in front. -/
def attachedValue : List Char → String
  | '=' :: rest => String.ofList rest
  | rest => String.ofList rest

/-- Splits a long option at its equals sign. -/
def splitLong (text : List Char) : String × Option String :=
  let name := text.takeWhile (· ≠ '=')
  match text.drop name.length with
  | _ :: value => (String.ofList name, some (String.ofList value))
  | [] => (String.ofList name, none)

/-- What one argument is by itself. -/
inductive Argument where
  | input (text : String)
  /-- All further arguments are inputs. -/
  | inputsOnly
  | undocumented
  | help
  | version
  /-- An option; without an attached value the next argument is its value. -/
  | valued (option : ValueOption) (attached : Option String)
  | unknown
deriving Repr

namespace Argument

def ofLong (text : List Char) : Argument :=
  match splitLong text with
  | ("help", none) => .help
  | ("version", none) => .version
  | ("no-docs", none) => .undocumented
  | (name, attached) =>
      match ValueOption.ofLong? name with
      | some option => .valued option attached
      | none => .unknown

def ofShort (letter : Char) (attached : List Char) : Argument :=
  if letter = 'h' then .help
  else if letter = 'V' then .version
  else
    match ValueOption.ofShort? letter with
    | some option =>
        .valued option (if attached.isEmpty then none else some (attachedValue attached))
    | none => .unknown

def ofText (text : String) : Argument :=
  match text.toList with
  | ['-', '-'] => .inputsOnly
  | '-' :: '-' :: long => ofLong long
  | '-' :: letter :: attached => ofShort letter attached
  | _ => .input text

def isInput : Argument → Bool
  | .input _ => true
  | _ => false

end Argument

/-- Reads the arguments; the answer is nothing where they cannot be used. An option may wait for
its value, which is never an argument that looks like an option. -/
def readArguments (environment : Option String) :
    Option ValueOption → Progress → List String → Option Request
  | none, progress, [] => progress.finish environment
  | some _, _, [] => none
  | some option, progress, text :: rest =>
      if (Argument.ofText text).isInput then
        (progress.give option text).bind fun next => readArguments environment none next rest
      else none
  | none, progress, text :: rest =>
      match Argument.ofText text with
      | .input input =>
          (progress.addInput input).bind fun next => readArguments environment none next rest
      | .inputsOnly =>
          (rest.foldlM Progress.addInput progress).bind fun next => next.finish environment
      | .undocumented =>
          progress.leaveUndocumented.bind fun next => readArguments environment none next rest
      | .help => some .help
      | .version => some .version
      | .valued option (some value) =>
          (progress.give option value).bind fun next => readArguments environment none next rest
      | .valued option none => readArguments environment (some option) progress rest
      | .unknown => none

end StorageMapping.CommandLine
