import StorageMapping.CommandLine.Arguments
import StorageMapping.CommandLine.Files
import StorageMapping.Run

namespace StorageMapping.CommandLine

/-! What a run of the command line will do. All inputs are read and processed before anything is
printed or written. -/

/-- Either a text to print, or files to write into a directory. -/
inductive Plan where
  | print (text : String)
  | write (directory : String) (files : List (String × String))
deriving Repr

/-- Why a run of the command line fails. -/
inductive PlanFailure where
  | failure (failure : Failure)
  | unreadable (path : String)
  | unparsable (path : String)
  | unsupported (path : String)
  | collision (earlier later : GeneratedUnit)
deriving Repr

namespace PlanFailure

def text : PlanFailure → String
  | .failure found => found.text
  | .unreadable path => "Failed to read " ++ path
  | .unparsable path => "Failed to parse " ++ path
  | .unsupported path => "Unsupported input " ++ path ++ ", expected a .rs or .toml file"
  | .collision earlier later =>
      earlier.typeName ++ " and " ++ later.typeName ++ " both generate " ++ later.fileName
        ++ ", rename one of the types"

end PlanFailure

variable (read : String → Except ReadFault String)

/-- The configuration file with the options of the command line over it. -/
def configOf (invocation : Invocation) : Except PlanFailure Config := do
  let written ←
    match invocation.configPath with
    | none => pure Config.standard
    | some path =>
        match read path with
        | .error fault => throw (.failure (unreadableFile "config" path fault))
        | .ok text => (Config.ofText text).mapError .failure
  return {
    runtimePath := invocation.runtimePath <|> written.runtimePath
    documented := written.documented && !invocation.undocumented
    modulePath := invocation.modulePath.getD written.modulePath
  }

/-- The round of one input. -/
def inputRound (backend : Backend) (config : Config) (path : String) :
    Except PlanFailure Round :=
  match read path with
  | .error _ => throw (.unreadable path)
  | .ok text =>
      match Path.extension? path with
      | some "rs" =>
          match scanSource backend config (some path) text with
          | .error (.source _) => throw (.unparsable path)
          | .error other => throw (.failure other)
          | .ok round => return round
      | some "toml" => (scanSnapshot backend text).mapError .failure
      | _ => throw (.unsupported path)

/-- The rounds of all inputs, one after the other. -/
def inputsRound (backend : Backend) (config : Config) :
    List String → Round → Except PlanFailure Round
  | [], round => return round
  | path :: rest, round => do
      inputsRound backend config rest (round.extend (← inputRound read backend config path))

/-- The first line of every file. -/
def fileHeader : String := "// @generated by storio-codegen. Do not edit.\n\n"

def fileText (unit : GeneratedUnit) : String := fileHeader ++ unit.code ++ "\n"

def printedText (unit : GeneratedUnit) : String :=
  "// " ++ unit.fileName ++ "\n" ++ unit.code ++ "\n\n"

/-- What to do with the units of a run. -/
def planOf (outputDirectory : Option String) (units : List GeneratedUnit) : Plan :=
  match outputDirectory with
  | some directory => .write directory (units.map fun unit => (unit.fileName, fileText unit))
  | none => .print (String.join (units.map printedText))

/-- The plan of an invocation. It needs nothing but the texts of its files. -/
def plan (invocation : Invocation) : Except PlanFailure Plan := do
  let config ← configOf read invocation
  let round ← inputsRound read invocation.backend config invocation.inputs .empty
  let output ← (processRound invocation.backend config round).mapError .failure
  match output.collision? with
  | some (earlier, later) => throw (.collision earlier later)
  | none => return planOf invocation.outputDirectory output.units

end StorageMapping.CommandLine
