import StorageMapping.Document.Decoder
import StorageMapping.Source.Reader
import StorageMapping.Text.Segments

namespace StorageMapping

/-! The configuration of a run. -/

structure Config where
  /-- The runtime module that generated code refers to; the backend knows one of its own. -/
  runtimePath : Option String
  /-- Do generated items carry documentation? -/
  documented : Bool
  /-- The module in which the items of a text stand. -/
  modulePath : String
deriving DecidableEq, Repr

namespace Config

def standard : Config := ⟨none, true, "crate"⟩

/-- The path of the runtime module, or why it is none. -/
def runtimePathOr (config : Config) (fallback : String) : Except String Source.TypeExpr :=
  let path := config.runtimePath.getD fallback
  match Source.Reader.path path with
  | .ok found => return found
  | .error error => throw ("Invalid runtime path '" ++ path ++ "': " ++ error.message)

/-- A configuration as a document. -/
def decoder : Document.Decoder Config :=
  .record "ProcessorConfig" [
    .optional "runtime_path" .text fun config path => { config with runtimePath := some path },
    .optional "generated_docs" .boolean
      fun config documented => { config with documented := documented },
    .optional "module_path" .text fun config path => { config with modulePath := path }] standard

def moduleSegments (config : Config) : List String := Text.moduleSegments config.modulePath

end Config

end StorageMapping
