import StorageMapping.Proofs.Unit.HostNames

namespace StorageMapping

/-! # Runs that end with an output

A round without a fault has an output if its types and their modules can be named. Nothing of the
code has to be looked at for that. -/

open Naming Results

instance Naming.decidableNameable : DecidablePred Nameable :=
  fun _ => decidable_of_iff _ nameable_iff.symm

namespace Generator

variable {generator : Generator} {context : GenerationContext} {model : TypeModel}

/-- A type that can be named has units of all kinds. -/
theorem generate_ok (offered : generator.backend ∈ Backend.all) (named : Nameable model.name)
    (reachable : ∀ segment ∈ model.modulePath, Expressible segment) :
    ∃ unit, generator.generate context model = .ok unit := by
  cases hosted : hostNames model with
  | error name =>
      obtain ⟨member, inexpressible⟩ := illegal_of_hostNames named hosted
      exact absurd (reachable _ member) inexpressible
  | ok names =>
      obtain ⟨tokens, written⟩ := tokens_of_hostNames offered named hosted generator.kind
      exact ⟨_, generate_eq_ok.mpr ⟨tokens, written, rfl⟩⟩

end Generator

namespace Processor

variable {processor : Processor} {round : Round}

theorem process_ok (faultless : Processing.Faultless processor.backend processor.introspect round)
    (offered : ∀ generator ∈ processor.generators, generator.backend ∈ Backend.all)
    (named : ∀ declaration ∈ round.declarations, Nameable declaration.name ∧
      ∀ segment ∈ declaration.modulePath, Nameable segment) :
    ∃ output, processor.process round = .ok output ∧ output.types =
      round.marked.map
        (Processing.modelWith (Processing.carried processor.introspect round.columns)) := by
  cases written : (round.marked.map (Processing.modelWith
      (Processing.carried processor.introspect round.columns))).mapM processor.unitsOf with
  | ok units =>
      exact ⟨⟨_, _⟩, Processing.process_eq_ok.mpr ⟨faultless, units, written, rfl, rfl⟩, rfl⟩
  | error name =>
      obtain ⟨model, member, failed⟩ := mem_of_mapM_eq_error written
      obtain ⟨generator, inside, unwritten⟩ := mem_of_mapM_eq_error failed
      obtain ⟨entry, marked, rfl⟩ := List.mem_map.mp member
      obtain ⟨nameable, reachable⟩ :=
        named entry.2 (List.mem_of_getElem? (Round.mem_marked.mp marked).1)
      obtain ⟨unit, made⟩ : ∃ unit, generator.generate processor.context (Processing.modelWith
          (Processing.carried processor.introspect round.columns) entry) = .ok unit :=
        Generator.generate_ok (offered generator inside) nameable
          fun segment inPath => (reachable segment inPath).expressible
      cases unwritten.symm.trans made

end Processor

end StorageMapping
