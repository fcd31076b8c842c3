import StorageMapping.Proofs.Processing.Legality
import StorageMapping.Proofs.Processing.Runs
import StorageMapping.Proofs.Round.Fields
import StorageMapping.Proofs.Unit.Parallel

namespace StorageMapping

/-! # Markers stay quoted

The printed code of a unit has the tokens of the unit, whatever the markers say. What they say gets
into string literals, and nothing else depends on it. -/

open Source Results TypeModel

namespace Processing

variable {processor : Processor} {round : Round} {output : Output}

/-- The columns of the types come from the fields of the round. -/
theorem field_of_type (completed : processor.process round = .ok output) {model : TypeModel}
    (member : model ∈ output.types) {column : Column} (inside : column ∈ model.columns) :
    ∃ element ∈ round.columns, element.kind = .field ∧ column.field = element.name := by
  obtain ⟨faultless, _, _, _, mapped⟩ := process_eq_ok.mp completed
  rw [mapped] at member
  obtain ⟨entry, _, rfl⟩ := List.mem_map.mp member
  obtain ⟨element, inRound, carries, _, sound⟩ :=
    faultless.attachable (List.mem_filter.mp inside).1
  exact ⟨element, inRound, sound.isField, carries.field⟩

theorem wellFormed_of_type (completed : processor.process round = .ok output)
    {model : TypeModel} (member : model ∈ output.types) : model.WellFormed := by
  obtain ⟨faultless, _, _, _, mapped⟩ := process_eq_ok.mp completed
  rw [mapped] at member
  obtain ⟨entry, marked, rfl⟩ := List.mem_map.mp member
  exact faultless.wellFormed marked

/-- The units of an output are those of its types. -/
theorem units_of_types (completed : processor.process round = .ok output) :
    (∀ unit ∈ output.units, ∃ model ∈ output.types, ∃ generator ∈ processor.generators,
        generator.generate processor.context model = .ok unit) ∧
      ∀ model ∈ output.types, ∃ units, processor.unitsOf model = .ok units ∧
        ∀ unit ∈ units, unit ∈ output.units := by
  refine ⟨fun unit => processor.mem_units completed, fun model member => ?_⟩
  obtain ⟨_, units, written, flat, _⟩ := process_eq_ok.mp completed
  obtain ⟨group, inUnits, grouped⟩ := exists_of_mapM_eq_ok written member
  rw [flat]
  exact ⟨group, grouped, fun unit inGroup => List.mem_flatten.mpr ⟨group, inUnits, inGroup⟩⟩

/-- Every type has a unit of every strategy. -/
theorem unit_of_type (completed : processor.process round = .ok output) {model : TypeModel}
    (member : model ∈ output.types) {generator : Generator}
    (offered : generator ∈ processor.generators) :
    ∃ unit ∈ output.units, generator.generate processor.context model = .ok unit := by
  obtain ⟨units, written, inside⟩ := (units_of_types completed).2 model member
  obtain ⟨unit, found, made⟩ := exists_of_mapM_eq_ok written offered
  exact ⟨unit, inside unit found, made⟩

/-- Units of types that differ in their markers. -/
structure AlikeUnits (first second : TypeModel) (unit other : GeneratedUnit) : Prop where
  kind : unit.kind = other.kind
  unitName : unit.unitName = other.unitName
  tokens : Parallel (Marked first second) unit.tokens other.tokens

theorem generate_alike {first second : TypeModel} {generator : Generator}
    {context : GenerationContext} {unit : GeneratedUnit} (same : first.SameBut second)
    (generated : generator.generate context first = .ok unit) :
    ∃ other, generator.generate context second = .ok other ∧
      AlikeUnits first second unit other := by
  obtain ⟨tokens, written, rfl⟩ := Generator.generate_eq_ok.mp generated
  obtain ⟨others, writtenToo, parallel⟩ := Generator.tokens_parallel same written
  exact ⟨_, Generator.generate_eq_ok.mpr ⟨others, writtenToo, rfl⟩, rfl, by simp [same.name],
    parallel⟩

theorem unitsOf_alike {first second : TypeModel} {units : List GeneratedUnit}
    (same : first.SameBut second) (written : processor.unitsOf first = .ok units) :
    ∃ others, processor.unitsOf second = .ok others ∧
      List.Forall₂ (AlikeUnits first second) units others := by
  rw [Processor.unitsOf] at written ⊢
  exact mapM_related (fun _ _ _ => generate_alike same) written

/-- No marker gets out of its quotes. The names of fields are words, the path of the runtime module
was read, and the templates are those of the backends; then the printed code of every unit falls
into the tokens of the unit again, and the units of another type with other markers have the same
tokens except for literals of marked values. -/
theorem process_quoted {text : String}
    (offered : ∀ generator ∈ processor.generators, generator.backend ∈ Backend.all)
    (runtime : Reader.path text = .ok processor.context.runtime)
    (legal : ∀ element ∈ round.columns, element.kind = .field → element.name.Legal)
    (completed : processor.process round = .ok output) :
    (∀ unit ∈ output.units, ∃ found, tokenize unit.code.toList = some found ∧
        unplacedTokens found = unplacedTokens unit.tokens) ∧
      ∀ model ∈ output.types, ∃ units, processor.unitsOf model = .ok units ∧
        (∀ unit ∈ units, unit ∈ output.units) ∧
        ∀ other : TypeModel, model.SameBut other →
          ∃ others, processor.unitsOf other = .ok others ∧
            List.Forall₂ (AlikeUnits model other) units others := by
  obtain ⟨sources, groups⟩ := units_of_types completed
  constructor
  · intro unit member
    obtain ⟨model, inTypes, generator, inList, generated⟩ := sources unit member
    obtain ⟨tokens, written, rfl⟩ := Generator.generate_eq_ok.mp generated
    refine tokenize_render (Generator.tokens_tidy (offered _ inList) (Reader.path_tidy runtime)
      (fun column inside => ?_) written)
    obtain ⟨element, inRound, isField, named⟩ := field_of_type completed inTypes inside
    rw [named]
    exact legal element inRound isField
  · intro model inTypes
    obtain ⟨units, written, inUnits⟩ := groups model inTypes
    exact ⟨units, written, inUnits, fun other same => unitsOf_alike same written⟩

set_option maxRecDepth 100000 in
theorem process_quoted_lending :
    ∃ output, lendingProcessor.process lendingRound = .ok output ∧
      (∀ unit ∈ output.units, ∃ found, tokenize unit.code.toList = some found ∧
        unplacedTokens found = unplacedTokens unit.tokens) ∧
      ∀ model ∈ output.types, ∀ locators : Locators, ∃ units others,
        lendingProcessor.unitsOf model = .ok units ∧
          lendingProcessor.unitsOf { model with locators := locators } = .ok others ∧
          List.Forall₂ (AlikeUnits model { model with locators := locators }) units others := by
  obtain ⟨output, completed⟩ := lending_completes
  have runtime : Reader.path "runtime" = .ok lendingProcessor.context.runtime := rfl
  have legal : ∀ element ∈ lendingRound.columns, element.kind = .field → element.name.Legal := by
    have words : ∀ element ∈ lendingRound.columns,
        Naming.isWord element.name.text = true ∧ element.name.isRaw = false := by decide
    intro element member _
    obtain ⟨word, plain⟩ := words element member
    exact ⟨word, by simp [plain]⟩
  obtain ⟨printed, alike⟩ := process_quoted (by decide) runtime legal completed
  refine ⟨output, completed, printed, fun model member locators => ?_⟩
  obtain ⟨units, written, _, twins⟩ := alike model member
  obtain ⟨others, writtenToo, related⟩ := twins _ (.locators model locators)
  exact ⟨units, others, written, writtenToo, related⟩

end Processing

end StorageMapping
