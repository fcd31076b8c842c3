import StorageMapping.CommandLine.Plan
import StorageMapping.Proofs.Processing.Configured
import StorageMapping.Proofs.Unit.FileNames

namespace StorageMapping

/-! # Plans

An invocation has a plan exactly where all its inputs are scanned, their rounds are processed as
one, and no two units have one file. -/

open Results

namespace CommandLine

section Inputs

variable (read : String → Except ReadFault String) (backend : Backend) (config : Config)

variable {read backend config} {path : String} {round : Round}

end Inputs

variable {read : String → Except ReadFault String} {invocation : Invocation} {output : Output}

end CommandLine

end StorageMapping
