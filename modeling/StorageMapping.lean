import StorageMapping.Main
import StorageMapping.Proofs.Processing.Lossless
import StorageMapping.Proofs.Source.Parsing
import StorageMapping.Proofs.Source.Traces
import StorageMapping.Proofs.Round.Composition
import StorageMapping.Proofs.CommandLine.Planning
import StorageMapping.Proofs.CommandLine.Runs
import StorageMapping.Proofs.Processing.Legality
import StorageMapping.Proofs.Round.Drafts
import StorageMapping.Proofs.Round.FrontEnds
import StorageMapping.Proofs.Processing.SnapshotNames
import StorageMapping.Proofs.Processing.Orphans
import StorageMapping.Proofs.Processing.Quoted
import StorageMapping.Proofs.Processing.Outlined
import StorageMapping.Proofs.Processing.Addressed
import StorageMapping.Proofs.Processing.Keyed
import StorageMapping.Proofs.Processing.Boxes
import StorageMapping.Proofs.Processing.Derived
import StorageMapping.Proofs.Code.Classified
import StorageMapping.Proofs.Round.MarkerGrammar
import StorageMapping.Proofs.Processing.Placeholders
import StorageMapping.Proofs.Processing.Found
import StorageMapping.Proofs.Processing.Associated
import StorageMapping.Proofs.Processing.HostPaths
import StorageMapping.Proofs.Processing.Undisturbed
import StorageMapping.Proofs.Processing.Lookups
import StorageMapping.Proofs.Processing.Parameters
import StorageMapping.Proofs.Processing.RuntimePaths
import StorageMapping.Proofs.Round.ModuleTexts
import StorageMapping.Proofs.Processing.Histories
import StorageMapping.Proofs.Processing.ExactNames
import StorageMapping.Proofs.Round.TupleFields
