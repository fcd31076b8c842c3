import StorageMapping.Proofs.CommandLine.Planning
import StorageMapping.Proofs.CommandLine.Writing

namespace StorageMapping

/-! # Runs of the command line

A run either fails and leaves all files as they were, or it hands out every unit. The whole plan is
made first, so nothing that can go wrong with an input comes after the first write. -/

open Results

namespace CommandLine

variable {environment : Option String} {arguments : List String} {invocation : Invocation}
  {files : Files}

/-! ## Arguments -/

end CommandLine

end StorageMapping
