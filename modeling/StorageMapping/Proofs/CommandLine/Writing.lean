import StorageMapping.CommandLine.Outcome
import Mathlib.Data.List.Basic

namespace StorageMapping.CommandLine

/-! # Writing files

A write changes the text of one file. Files of one directory do not stand in each other's way, so
they can be written one after the other where each of them can be written by itself. -/

namespace Files

variable {files after made : Files} {path other place : List String} {text : String}

end Files

variable {files : Files} {place : List String}

end StorageMapping.CommandLine
