import StorageMapping.Proofs.Code.Queries
import StorageMapping.Proofs.Processing.Quoted
import StorageMapping.Proofs.Unit.UnitNames

namespace StorageMapping.Processing

/-! # What a mapping holds

A mapping names the resolvers of its type. Where no two files have one name, no two structs have,
so each of these names is that of the one struct that was meant. -/

open Source Code Results

variable {processor : Processor} {round : Round} {output : Output} {backend : Backend}

/-- Where a key differs for all members, it selects the one that has it. -/
theorem filter_eq_singleton {α β : Type} [DecidableEq β] {key : α → β} {xs : List α}
    (distinct : (xs.map key).Nodup) {x : α} (member : x ∈ xs) :
    xs.filter (fun other => key other == key x) = [x] := by
  induction xs with
  | nil => contradiction
  | cons head rest ih =>
      obtain ⟨fresh, others⟩ := List.nodup_cons.mp distinct
      rcases List.mem_cons.mp member with rfl | later
      · have none : rest.filter (fun other => key other == key x) = [] := by
          refine List.filter_eq_nil_iff.mpr fun other inRest same => fresh ?_
          exact eq_of_beq same ▸ List.mem_map_of_mem inRest
        rw [List.filter_cons, if_pos (beq_self_eq_true _), none]
      · have different : ¬ (key head == key x) = true := fun same =>
          fresh (eq_of_beq same ▸ List.mem_map_of_mem later)
        rw [List.filter_cons, if_neg different, ih others later]

theorem unit_of_backend (generated : processor.generators = backend.generators)
    (completed : processor.process round = .ok output) {unit : GeneratedUnit}
    (member : unit ∈ output.units) :
    ∃ model ∈ output.types,
      Generator.generate ⟨backend, unit.kind⟩ processor.context model = .ok unit := by
  obtain ⟨model, inTypes, generator, offered, made⟩ := (units_of_types completed).1 unit member
  rw [generated] at offered
  obtain ⟨kind, _, rfl⟩ := List.mem_map.mp offered
  obtain ⟨code, _, rfl⟩ := Generator.generate_eq_ok.mp made
  exact ⟨model, inTypes, made⟩

theorem unit_of_kind (generated : processor.generators = backend.generators)
    (completed : processor.process round = .ok output) {model : TypeModel}
    (member : model ∈ output.types) (kind : UnitKind) :
    ∃ unit ∈ output.units,
      Generator.generate ⟨backend, kind⟩ processor.context model = .ok unit ∧ unit.kind = kind ∧
        unit.unitName = backend.naming.unitName model.name kind ∧
        unit.typeName = model.qualifiedName := by
  have offered : ⟨backend, kind⟩ ∈ processor.generators := by
    rw [generated]
    exact List.mem_map.mpr ⟨kind, by cases kind <;> decide, rfl⟩
  obtain ⟨unit, inUnits, made⟩ := unit_of_type completed member offered
  obtain ⟨code, _, rfl⟩ := Generator.generate_eq_ok.mp made
  exact ⟨_, inUnits, made, rfl, rfl, rfl⟩

/-- Units of one name are put into files of one name. -/
theorem unitNames_distinct (generated : processor.generators = backend.generators)
    (completed : processor.process round = .ok output) (apart : output.collision? = none) :
    (output.units.map (·.unitName)).Nodup := by
  have files := List.pairwise_map.mp (Output.collision?_eq_none.mp apart)
  refine List.pairwise_map.mpr (files.imp_of_mem ?_)
  intro unit other member otherMember differ same
  obtain ⟨_, _, made⟩ := unit_of_backend generated completed member
  obtain ⟨_, _, otherMade⟩ := unit_of_backend generated completed otherMember
  obtain ⟨_, _, known⟩ := Generator.generate_eq_ok.mp made
  obtain ⟨_, _, otherKnown⟩ := Generator.generate_eq_ok.mp otherMade
  rw [known, otherKnown] at same
  have stems := UnitNaming.fileStem_eq same
  refine differ ?_
  rw [GeneratedUnit.fileName, GeneratedUnit.fileName, known, otherKnown]
  exact congrArg (· ++ ".rs") stems

/-- A unit declares a struct of its name, so it is the only one that does. -/
theorem declares_only (generated : processor.generators = backend.generators)
    (completed : processor.process round = .ok output)
    (distinct : (output.units.map (·.unitName)).Nodup) {unit : GeneratedUnit}
    (member : unit ∈ output.units) :
    output.units.filter (fun other => declared? other.tokens == some unit.unitName) = [unit] := by
  have declared {other : GeneratedUnit} (member : other ∈ output.units) :
      declared? other.tokens = some other.unitName := by
    obtain ⟨_, _, made⟩ := unit_of_backend generated completed member
    obtain ⟨code, coded, known⟩ := Generator.generate_eq_ok.mp made
    rw [known]
    exact declared?_unit coded
  rw [← filter_eq_singleton distinct member]
  refine List.filter_congr fun other otherMember => ?_
  rw [declared otherMember]
  rfl

/-- Unit names are those of the types and kinds, and the names of files follow them. So in a run
without colliding files all unit names differ, and every mapping boxes three structs, each declared
by one unit alone: the put, the get and the delete of the type of the mapping. -/
theorem process_boxes (generated : processor.generators = backend.generators)
    (completed : processor.process round = .ok output) :
    (∀ (naming : UnitNaming) (typeName otherName : String) (kind otherKind : UnitKind),
        naming.unitName typeName kind = naming.unitName otherName otherKind →
          Naming.bareName typeName = Naming.bareName otherName ∧ kind = otherKind ∧
            naming.fileStem typeName kind = naming.fileStem otherName otherKind) ∧
      (output.collision? = none →
        (output.units.map (·.unitName)).Nodup ∧
          ∀ mapping ∈ output.units, mapping.kind = .mapping →
            ∃ model ∈ output.types, ∃ template put get delete,
              Generator.generate ⟨backend, .mapping⟩ processor.context model = .ok mapping ∧
              filled processor.context.runtime.tokens template = mapping.tokens ∧
              boxes? template = some ([put, get, delete].map (·.unitName)) ∧
              [put, get, delete].map (·.kind) = [.put, .get, .delete] ∧
              ∀ unit ∈ [put, get, delete],
                Generator.generate ⟨backend, unit.kind⟩ processor.context model = .ok unit ∧
                unit.typeName = mapping.typeName ∧
                output.units.filter (fun other =>
                  declared? other.tokens == some unit.unitName) = [unit]) := by
  refine ⟨fun naming typeName otherName kind otherKind same => ?_, fun apart => ?_⟩
  · obtain ⟨names, kinds⟩ := UnitNaming.unitName_injective same
    exact ⟨names, kinds, UnitNaming.fileStem_eq same⟩
  have distinct := unitNames_distinct generated completed apart
  refine ⟨distinct, fun mapping member isMapping => ?_⟩
  obtain ⟨model, inTypes, made⟩ := unit_of_backend generated completed member
  rw [isMapping] at made
  obtain ⟨code, coded, known⟩ := Generator.generate_eq_ok.mp made
  obtain ⟨template, vacant, filled⟩ := Generator.tokens_vacant coded
  have resolver := unit_of_kind generated completed inTypes
  obtain ⟨put, putMember, putMade, putKind, putName, putType⟩ := resolver .put
  obtain ⟨get, getMember, getMade, getKind, getName, getType⟩ := resolver .get
  obtain ⟨delete, deleteMember, deleteMade, deleteKind, deleteName, deleteType⟩ := resolver .delete
  have typed : mapping.typeName = model.qualifiedName := by rw [known]
  refine ⟨model, inTypes, template, put, get, delete, made, ?_, ?_, ?_, ?_⟩
  · rw [filled, known]
  · rw [boxes?_mapping vacant]
    simp only [List.map_cons, List.map_nil, putName, getName, deleteName]
  · simp only [List.map_cons, List.map_nil, putKind, getKind, deleteKind]
  · simp only [List.forall_mem_cons, putKind, getKind, deleteKind, putType, getType, deleteType,
      typed]
    exact ⟨⟨putMade, trivial, declares_only generated completed distinct putMember⟩,
      ⟨getMade, trivial, declares_only generated completed distinct getMember⟩,
      ⟨deleteMade, trivial, declares_only generated completed distinct deleteMember⟩, nofun⟩

theorem process_boxes_lending :
    ∃ output, lendingProcessor.process lendingRound = .ok output ∧ output.collision? = none ∧
      ∃ mapping ∈ output.units, mapping.kind = .mapping ∧ ∃ template put get delete,
        filled lendingProcessor.context.runtime.tokens template = mapping.tokens ∧
        boxes? template = some ([put, get, delete].map (·.unitName)) ∧
        ∀ unit ∈ [put, get, delete],
          output.units.filter (fun other => declared? other.tokens == some unit.unitName) =
            [unit] := by
  have held : (lendingProcessor.process lendingRound).toOption.any (fun output =>
      output.collision?.isNone && output.units.any (·.kind == .mapping)) = true := by
    decide +kernel
  cases completed : lendingProcessor.process lendingRound with
  | error failure =>
      rw [completed] at held
      contradiction
  | ok output =>
      rw [completed] at held
      obtain ⟨apart, mapped⟩ := Bool.and_eq_true_iff.mp held
      have apart := Option.isNone_iff_eq_none.mp apart
      obtain ⟨mapping, member, isMapping⟩ := List.any_eq_true.mp mapped
      have isMapping : mapping.kind = .mapping := by simpa using isMapping
      have generated : lendingProcessor.generators = Backend.contentResolver.generators := rfl
      obtain ⟨_, boxed⟩ := process_boxes generated completed
      obtain ⟨_, _, template, put, get, delete, _, filled, boxes, _, alone⟩ :=
        (boxed apart).2 mapping member isMapping
      exact ⟨output, rfl, apart, mapping, member, isMapping, template, put, get, delete, filled,
        boxes, fun unit found => (alone unit found).2.2⟩

end StorageMapping.Processing
