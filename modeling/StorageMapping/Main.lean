import StorageMapping.CommandLine.Outcome

/-! The program: reads the named files, makes the plan and carries it out. -/

namespace StorageMapping.CommandLine

/-- The fault of a failed attempt to read a file. -/
def readFaultOf : IO.Error → ReadFault
  | .inappropriateType _ code _ => if code = 21 then .isDirectory else .notADirectory
  | _ => .missing

def readText (path : String) : IO (Except ReadFault String) := do
  try
    let bytes ← IO.FS.readBinFile path
    return match String.fromUTF8? bytes with
      | some text => .ok text
      | none => .error .notText
  catch error => return .error (readFaultOf error)

/-- The files that an invocation names, with what they hold. -/
def readNamed (paths : List String) : IO (String → Except ReadFault String) := do
  let texts ← paths.mapM fun path => return (path, ← readText path)
  return fun path => ((texts.find? (·.1 == path)).map (·.2)).getD (.error .missing)

/-- Tries an action; the answer tells whether it succeeded. -/
def succeeds (action : IO Unit) : IO Bool := do
  try
    action
    return true
  catch _ => return false

def writeUnits (directory : String) : List (String × String) → IO Ending
  | [] => return .success ""
  | (name, text) :: rest => do
      if ← succeeds (IO.FS.writeFile (Path.inside directory name) text) then
        writeUnits directory rest
      else return writeFailure directory name

def carryOut : Plan → IO Ending
  | .print text => return .success text
  | .write directory units => do
      if ← succeeds (IO.FS.createDirAll directory) then writeUnits directory units
      else return createFailure directory

def invoke (invocation : Invocation) : IO Ending := do
  let read ← readNamed (invocation.configPath.toList ++ invocation.inputs)
  match plan read invocation with
  | .error failure => return ofFailure failure
  | .ok plan => carryOut plan

end StorageMapping.CommandLine

open StorageMapping.CommandLine

def main (arguments : List String) : IO UInt32 := do
  let environment ← IO.getEnv runtimeVariable
  let ending ←
    match request arguments environment with
    | none => pure .unusable
    | some .version => pure (.success versionText)
    | some .help => pure (.success (helpText environment))
    | some (.run invocation) => invoke invocation
  match ending with
  | .success text => IO.print text
  | .failure message => IO.eprintln ("Error: " ++ message)
  | .unusable => IO.eprint (helpText environment)
  | .broken => IO.eprintln "a type or a module has no legal name"
  return ending.code.toUInt32
