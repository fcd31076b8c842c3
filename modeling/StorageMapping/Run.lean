import StorageMapping.Document.Reader
import StorageMapping.Processing
import StorageMapping.Round.Discovery
import StorageMapping.Round.SnapshotDocument

namespace StorageMapping

/-! Whole runs: from the text of a source, of a snapshot or of a configuration to a result. -/

/-- Why a run fails. -/
inductive Failure where
  | diagnostic (diagnostic : Diagnostic)
  /-- A source text that cannot be parsed. -/
  | source (error : Source.SyntaxError)
  /-- A text that is no document; with a problem, a document that holds other data. -/
  | document (problem : Option Document.Problem)
  | configuration (message : String)
  | illegalName (name : IllegalName)
deriving Repr

namespace Failure

/-- The first line of the report. -/
def text : Failure → String
  | .diagnostic found => found.text
  | .source error => "Failed to parse Rust source: " ++ error.message
  | .document _ => "Failed to decode TOML"
  | .configuration message => "Configuration error: " ++ message
  | .illegalName name => "\"" ++ name.text ++ "\" is not a valid Ident"

def ofRun : RunFailure → Failure
  | .diagnostic found => .diagnostic found
  | .illegalName name => .illegalName name

/-- The result of one stage as the result of a run. -/
def during {ε α : Type} (cause : ε → Failure) (result : Except ε α) : Except Failure α :=
  result.mapError cause

end Failure

/-- Why a file yields no text. -/
inductive ReadFault where
  | missing
  | isDirectory
  | notADirectory
  | notText
deriving DecidableEq, Repr

def ReadFault.message : ReadFault → String
  | .missing => "No such file or directory (os error 2)"
  | .isDirectory => "Is a directory (os error 21)"
  | .notADirectory => "Not a directory (os error 20)"
  | .notText => "stream did not contain valid UTF-8"

/-- The failure to read a file of a certain purpose. -/
def unreadableFile (purpose path : String) (fault : ReadFault) : Failure :=
  .configuration ("Failed to read " ++ purpose ++ " file '" ++ path ++ "': " ++ fault.message)

open Failure

/-- Decodes the text of a document. -/
def decodeDocument {α : Type} (decoder : Document.Decoder α) (text : String) :
    Except Failure α :=
  match Document.read text with
  | none => throw (.document none)
  | some entries =>
      during (fun problem => .document (some problem)) (decoder (.table .defined entries))

def Config.ofText (text : String) : Except Failure Config := decodeDocument Config.decoder text

def Snapshot.ofText (text : String) : Except Failure Snapshot :=
  decodeDocument Snapshot.decoder text

/-- The round of a source text. The file name appears in locations. -/
def scanSource (backend : Backend) (config : Config) (file : Option String) (text : String) :
    Except Failure Round := do
  let items ← during .source (Source.Reader.file text)
  during .diagnostic (Discovery.ofItems ⟨backend.markers, file⟩ config.moduleSegments items)

/-- The round of a snapshot. -/
def scanSnapshot (backend : Backend) (text : String) : Except Failure Round := do
  let snapshot ← Snapshot.ofText text
  during .diagnostic (snapshot.toRound backend.markers)

/-- The round of a single definition, which stands in no module. -/
def scanDefinition (backend : Backend) (text : String) : Except Failure Round := do
  let input ← during .source (Source.Reader.definition text)
  during .diagnostic (Discovery.ofDerive ⟨backend.markers, none⟩ input)

def Processor.make (backend : Backend) (config : Config) : Except Failure Processor :=
  during .configuration (Processor.ofConfig backend config)

/-- Processes a round with a backend's own strategies. -/
def processRound (backend : Backend) (config : Config) (round : Round) : Except Failure Output := do
  let processor ← Processor.make backend config
  during .ofRun (processor.process round)

def processSource (backend : Backend) (config : Config) (file : Option String) (text : String) :
    Except Failure Output := do
  processRound backend config (← scanSource backend config file text)

def processSnapshot (backend : Backend) (config : Config) (text : String) :
    Except Failure Output := do
  processRound backend config (← scanSnapshot backend text)

/-- The units of a single definition, with the standard configuration. -/
def processDefinition (backend : Backend) (text : String) : Except Failure Output := do
  processRound backend .standard (← scanDefinition backend text)

end StorageMapping
