import StorageMapping.Proofs.Processing.Legality
import StorageMapping.Proofs.Round.Composition
import StorageMapping.Proofs.Source.Single

namespace StorageMapping

/-! # Definitions handed over by themselves

A definition that stands by itself has no module, and neither have the items of a file whose
configuration names none. So it makes no difference in which of the two ways a definition comes:
what is found in it, what is wrong with it and the code that it gets are the same. -/

open Source

theorem Discovery.ofItems_single (scope : Scope) (input : DeriveInput) :
    ofItems scope [] [.data input.item] = ofDerive scope input := by
  rw [ofItems_cons, ofItems, ofItem, ofDerive_eq]
  exact Round.joined_empty _

namespace Processing

/-- The configuration of files whose items stand in no module. -/
def rootless : Config := { Config.standard with modulePath := "" }

theorem rootless_segments : rootless.moduleSegments = [] := by decide

variable {text : String} {input : DeriveInput}

/-- The round of a definition is that of the file that holds just this item. -/
theorem scanSource_of_definition (backend : Backend)
    (unmarked : text.toList.head? ≠ some Lexer.byteOrderMark)
    (read : Reader.definition text = .ok input) :
    scanSource backend rootless none text = scanDefinition backend text := by
  rw [scanSource, scanDefinition, Reader.file_of_definition unmarked read, read]
  exact congrArg (Failure.during .diagnostic)
    (rootless_segments ▸ Discovery.ofItems_single ⟨backend.markers, none⟩ input)

/-- A definition is processed like the file that holds just this item: the module that a
configuration names matters to the scan alone. -/
theorem processSource_of_definition (backend : Backend)
    (unmarked : text.toList.head? ≠ some Lexer.byteOrderMark)
    (read : Reader.definition text = .ok input) :
    processSource backend rootless none text = processDefinition backend text := by
  rw [processSource, scanSource_of_definition backend unmarked read]
  rfl

/-- Deriving agrees with scanning. Whatever the markers are, a definition gives the same round or
the same fault by itself and as the only item of a file without modules. So the text of a definition
is also the text of such a file, and it expands to the units of that file, one behind the other. -/
theorem derive_eq_scan (input : DeriveInput) :
    (∀ scope, Discovery.ofDerive scope input = Discovery.ofItems scope [] [.data input.item]) ∧
    ∀ text : String, text.toList.head? ≠ some Lexer.byteOrderMark →
      Reader.definition text = .ok input →
        Reader.file text = .ok [.data input.item] ∧
        ∀ backend,
          scanDefinition backend text = scanSource backend rootless none text ∧
          (processDefinition backend text).map Output.tokens =
            (processSource backend rootless none text).map
              fun output => (output.units.map GeneratedUnit.tokens).flatten := by
  refine ⟨fun scope => (Discovery.ofItems_single scope input).symm, fun text unmarked read => ?_⟩
  refine ⟨Reader.file_of_definition unmarked read, fun backend => ⟨?_, ?_⟩⟩
  · exact (scanSource_of_definition backend unmarked read).symm
  · have concatenated :
        Output.tokens = fun output => (output.units.map GeneratedUnit.tokens).flatten :=
      funext fun output => List.flatMap_def
    rw [← concatenated, processSource_of_definition backend unmarked read]

/-- The least text of a mapped type is a definition, and it expands to units. -/
theorem derive_eq_scan_least :
    ∃ input output, Reader.definition Backend.sqlite.leastText = .ok input ∧
      Reader.file Backend.sqlite.leastText = .ok [.data input.item] ∧
      processSource .sqlite rootless none Backend.sqlite.leastText = .ok output ∧
      output.types ≠ [] ∧
      (processDefinition .sqlite Backend.sqlite.leastText).map Output.tokens =
        .ok (output.units.map GeneratedUnit.tokens).flatten := by
  have single : (Reader.definition Backend.sqlite.leastText).toOption.isSome = true := by
    decide +kernel
  have mapped := Backend.leastText_mapped (List.mem_cons_self : Backend.sqlite ∈ Backend.all)
  obtain ⟨input, read⟩ : ∃ input, Reader.definition Backend.sqlite.leastText = .ok input := by
    generalize Reader.definition Backend.sqlite.leastText = found at single
    cases found with
    | error fault => cases single
    | ok input => exact ⟨input, rfl⟩
  obtain ⟨output, completed, typed⟩ : ∃ output,
      processSource .sqlite rootless none Backend.sqlite.leastText = .ok output ∧
        output.types ≠ [] := by
    change (processSource .sqlite rootless none Backend.sqlite.leastText).toOption.any
      (!·.types.isEmpty) = true at mapped
    generalize processSource .sqlite rootless none Backend.sqlite.leastText = found at mapped
    cases found with
    | error failure => cases mapped
    | ok output => exact ⟨output, rfl, by simpa [Except.toOption] using mapped⟩
  obtain ⟨file, agrees⟩ := (derive_eq_scan input).2 _ (by decide +kernel) read
  have expanded := (agrees .sqlite).2
  rw [completed] at expanded
  exact ⟨input, output, read, file, completed, typed, expanded⟩

end Processing

end StorageMapping
