import StorageMapping.CommandLine.Plan

namespace StorageMapping.CommandLine

/-! Runs of the command line, from the arguments to what they leave behind. -/

/-- How a run ends. -/
inductive Ending where
  | success (printed : String)
  | failure (message : String)
  | unusable
  /-- A type or a module has no legal name. -/
  | broken
deriving DecidableEq, Repr

namespace Ending

def code : Ending → Nat
  | .success _ => 0
  | .failure _ => 1
  | .unusable => 2
  | .broken => 101

end Ending

def versionText : String := "storio-codegen 0.1.0\n"

/-- The variable of the environment that may name the runtime path. -/
def runtimeVariable : String := "STORIO_RUNTIME_PATH"

/-- The text that explains the options. It shows what the environment names. -/
def helpText (environment : Option String) : String :=
  "Generate StorIO put/get/delete resolvers and type mappings\n\n"
    ++ "Usage: storio-codegen [OPTIONS] --backend <BACKEND> <INPUTS>...\n\n"
    ++ "Arguments:\n"
    ++ "  <INPUTS>...  Rust sources or TOML element snapshots\n\n"
    ++ "Options:\n"
    ++ "  -b, --backend <BACKEND>  Storage backend whose markers are processed "
    ++ "[possible values: sqlite, content-resolver]\n"
    ++ "  -m, --module <MODULE>    Module path of the scanned sources, e.g. `crate::models`\n"
    ++ "      --runtime <RUNTIME>  Runtime module generated code refers to "
    ++ "[env: " ++ runtimeVariable ++ "=" ++ environment.getD "" ++ "]\n"
    ++ "  -c, --config <CONFIG>    Processor configuration file (TOML)\n"
    ++ "  -o, --out-dir <OUT_DIR>  Directory to write units to; prints them when absent\n"
    ++ "      --no-docs            Leave doc comments out of generated code\n"
    ++ "  -h, --help               Print help\n"
    ++ "  -V, --version            Print version\n"

/-- Reads the arguments of a run. -/
def request (arguments : List String) (environment : Option String) : Option Request :=
  readArguments environment none .start arguments

def createFailure (directory : String) : Ending :=
  .failure ("Failed to create output directory " ++ directory)

def writeFailure (directory name : String) : Ending :=
  .failure ("Failed to write " ++ Path.inside directory name)

def ofFailure : PlanFailure → Ending
  | .failure (.illegalName _) => .broken
  | failure => .failure failure.text

/-- Writes files into a directory that is there, up to the first one that cannot be written. -/
def writeAll (directory : String) (place : List String) :
    List (String × String) → Files → Ending × Files
  | [], files => (.success "", files)
  | (name, text) :: rest, files =>
      match files.write (place ++ [name]) text with
      | none => (writeFailure directory name, files)
      | some files => writeAll directory place rest files

/-- Carries out a plan. -/
def perform (files : Files) : Plan → Ending × Files
  | .print text => (.success text, files)
  | .write directory units =>
      match files.createDirectories [] (Path.parts directory) with
      | none => (createFailure directory, files)
      | some (files, place) => writeAll directory place units files

/-- A run of the command line on files. -/
def run (arguments : List String) (environment : Option String) (files : Files) :
    Ending × Files :=
  match request arguments environment with
  | none => (.unusable, files)
  | some .version => (.success versionText, files)
  | some .help => (.success (helpText environment), files)
  | some (.run invocation) =>
      match plan files.read invocation with
      | .error failure => (ofFailure failure, files)
      | .ok plan => perform files plan

end StorageMapping.CommandLine
