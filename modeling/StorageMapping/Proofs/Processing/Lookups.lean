import StorageMapping.Proofs.Processing.Quoted
import StorageMapping.Proofs.Processing.SnapshotNames

namespace StorageMapping

/-! # Lookups in an output

A type is looked up by its two names, and units by the qualified name of their type and by what
stands behind its last double colon. Both ask for the same: no name of a struct has a colon. -/

open Source Results

/-! ## The last piece of a qualified name -/

namespace Output

theorem lastPieceReversed_append {piece name rest : List Char} (unbroken : ':' ∉ name) :
    lastPiece.lastPieceReversed piece (name ++ ':' :: ':' :: rest) = name.reverse ++ piece := by
  induction name generalizing piece with
  | nil => simp [lastPiece.lastPieceReversed]
  | cons c name ih =>
      simp only [List.mem_cons, not_or] at unbroken
      rw [List.cons_append, lastPiece.lastPieceReversed, ih unbroken.2]
      · simp
      · rintro _ rfl
        exact absurd rfl unbroken.1

theorem lastPieceReversed_self {piece name : List Char} (unbroken : ':' ∉ name) :
    lastPiece.lastPieceReversed piece name = name.reverse ++ piece := by
  induction name generalizing piece with
  | nil => simp [lastPiece.lastPieceReversed]
  | cons c name ih =>
      simp only [List.mem_cons, not_or] at unbroken
      rw [lastPiece.lastPieceReversed, ih unbroken.2]
      · simp
      · rintro _ rfl
        exact absurd rfl unbroken.1

/-- Behind the module path stands the name, whatever the segments of the path are. -/
theorem lastPiece_qualify (path : List String) {name : String} (unbroken : ':' ∉ name.toList) :
    lastPiece (Text.qualify path name) = name := by
  have reversed : ':' ∉ name.toList.reverse := by simpa using unbroken
  rw [lastPiece, Text.qualify]
  split
  · simp [lastPieceReversed_self reversed]
  · have colons : "::".toList = [':', ':'] := rfl
    rw [String.toList_append, String.toList_append, colons, List.reverse_append,
      List.reverse_append]
    simp [lastPieceReversed_append reversed]

end Output

/-! ## Names of structs -/

/-- A round whose structs have names that can be written. -/
def Round.StructsNamed (round : Round) : Prop :=
  ∀ declaration ∈ round.declarations, declaration.kind = .struct →
    Naming.Nameable declaration.name

theorem Reader.definition_named {text : String} {input : DeriveInput}
    (read : Reader.definition text = .ok input) : Naming.Nameable input.name.text := by
  obtain ⟨_, _, _, _, legal, parsed⟩ := Reader.definition_eq_ok read
  exact (Grammar.deriveInput_eq_ok legal parsed).1

theorem Round.Read.structsNamed {round : Round} (read : round.Read) : round.StructsNamed := by
  induction read with
  | items parsed scanned =>
      have named := Reader.file_named parsed
      exact fun declaration member isStruct => (Discovery.ofItems_namedBelow
        (fun item member => Discovery.ofItem_namedBelow (named item member)) scanned
        declaration member isStruct).named
  | definition parsed scanned =>
      rw [Discovery.ofDerive_eq] at scanned
      intro declaration member _
      rw [(Discovery.record_declarations scanned declaration member).1]
      exact Reader.definition_named parsed
  | snapshot read =>
      intro declaration member _
      exact (Snapshot.entriesRound_inSnapshot read declaration member).named
  | extend _ _ first second =>
      intro declaration member isStruct
      rcases List.mem_append.mp member with front | back
      · exact first declaration front isStruct
      · exact second declaration back isStruct

/-! ## Lookups -/

/-- Is a type meant by a name, qualified or simple? -/
def TypeModel.isNamed (name : String) (model : TypeModel) : Bool :=
  model.qualifiedName == name || model.name == name

namespace Processor

variable {processor : Processor} {models : List TypeModel} {groups : List (List GeneratedUnit)}

/-- The units of a type have a name where their type has it. -/
theorem isNamed_of_unitsOf {model : TypeModel} {units : List GeneratedUnit}
    (unbroken : ':' ∉ model.name.toList) (written : processor.unitsOf model = .ok units)
    (name : String) : ∀ unit ∈ units, Output.isNamed name unit = model.isNamed name := by
  intro unit member
  obtain ⟨generator, _, generated⟩ := mem_of_mapM_eq_ok written member
  obtain ⟨_, _, rfl⟩ := Generator.generate_eq_ok.mp generated
  rw [Output.isNamed, TypeModel.isNamed, TypeModel.qualifiedName,
    Output.lastPiece_qualify model.modulePath unbroken]

theorem filter_units (unbroken : ∀ model ∈ models, ':' ∉ model.name.toList)
    (written : models.mapM processor.unitsOf = .ok groups) (name : String) :
    ∃ found, (models.filter (·.isNamed name)).mapM processor.unitsOf = .ok found ∧
      groups.flatten.filter (Output.isNamed name) = found.flatten := by
  rw [mapM_eq_ok] at written
  induction written with
  | nil => exact ⟨[], rfl, rfl⟩
  | @cons model group models groups here _ ih =>
      obtain ⟨first, others⟩ := List.forall_mem_cons.mp unbroken
      obtain ⟨found, rest, same⟩ := ih others
      have whole := isNamed_of_unitsOf first here name
      rw [List.flatten_cons, List.filter_append, same]
      cases named : model.isNamed name with
      | true =>
          refine ⟨group :: found, ?_, ?_⟩
          · rw [List.filter_cons_of_pos named, mapM_eq_ok]
            exact .cons here (mapM_eq_ok.mp rest)
          · rw [List.filter_eq_self.mpr fun unit member => (whole unit member).trans named]
            rfl
      | false =>
          refine ⟨found, by rwa [List.filter_cons_of_neg (by simp [named])], ?_⟩
          rw [List.filter_eq_nil_iff.mpr fun unit member => by simp [whole unit member, named]]
          rfl

/-- A type has a unit, the first of them from the first strategy. -/
theorem head_of_unitsOf {model : TypeModel} {units : List GeneratedUnit} {generator : Generator}
    {others : List Generator} (strategies : processor.generators = generator :: others)
    (written : processor.unitsOf model = .ok units) :
    ∃ unit rest, units = unit :: rest ∧
      generator.generate processor.context model = .ok unit := by
  rw [unitsOf, strategies, mapM_eq_ok] at written
  cases written with
  | cons generated _ => exact ⟨_, _, rfl, generated⟩

end Processor

namespace Processing

variable {processor : Processor} {round : Round} {output : Output}

/-- The names of types are names of structs. -/
theorem unbroken_of_types (read : round.Read) (completed : processor.process round = .ok output) :
    ∀ model ∈ output.types, ':' ∉ model.name.toList := by
  intro model member
  obtain ⟨faultless, _, _, _, types⟩ := process_eq_ok.mp completed
  rw [types] at member
  obtain ⟨entry, marked, rfl⟩ := List.mem_map.mp member
  have maps := faultless.maps marked
  have inRound := List.mem_of_getElem? (Round.mem_marked.mp marked).1
  rw [maps.name]
  have named := read.structsNamed entry.2 inRound maps.isStruct
  exact mark_notMem_of_isWord named.word (by decide +kernel)

/-- Lookups agree. The units of a name are those of all types that have it as their qualified or
their simple name, one type after the other. There are such units just where there is such a type,
and the first unit was generated for the first type. What is found for a name and a kind is the
first among the units of the name that has the kind. -/
theorem lookups_agree (read : round.Read) (offered : processor.generators ≠ [])
    (completed : processor.process round = .ok output) (name : String) :
    ∃ groups,
      (output.types.filter fun model => model.qualifiedName == name || model.name == name).mapM
        processor.unitsOf = .ok groups ∧
      output.unitsFor name = groups.flatten ∧
      ((output.type? name).isSome = true ↔ output.unitsFor name ≠ []) ∧
      (∀ model, output.type? name = some model →
        ∃ unit rest, output.unitsFor name = unit :: rest ∧
          ∃ generator ∈ processor.generators,
            generator.generate processor.context model = .ok unit) ∧
      ∀ kind, output.unit? name kind = groups.flatten.find? (·.kind == kind) := by
  obtain ⟨generator, others, strategies⟩ := List.exists_cons_of_ne_nil offered
  obtain ⟨_, groups, written, flattened, _⟩ := process_eq_ok.mp completed
  obtain ⟨found, named, same⟩ :=
    Processor.filter_units (unbroken_of_types read completed) written name
  have units : output.unitsFor name = found.flatten := by
    rw [Output.unitsFor, flattened, same]
  have head : output.type? name = (output.types.filter (·.isNamed name)).head? :=
    List.head?_filter.symm
  -- the first type of the name is the one whose units stand in front
  have front : ∀ model, output.type? name = some model → ∃ unit rest,
      output.unitsFor name = unit :: rest ∧
        generator.generate processor.context model = .ok unit := by
    intro model first
    obtain ⟨models, held⟩ := List.head?_eq_some_iff.mp (head.symm.trans first)
    rw [held, mapM_eq_ok] at named
    cases named with
    | cons here _ =>
        obtain ⟨unit, rest, rfl, generated⟩ := Processor.head_of_unitsOf strategies here
        exact ⟨unit, _, units, generated⟩
  refine ⟨found, named, units, ⟨fun known => ?_, fun filled => ?_⟩, fun model first => ?_,
    fun kind => by rw [Output.unit?, units]⟩
  · obtain ⟨model, first⟩ := Option.isSome_iff_exists.mp known
    obtain ⟨unit, rest, held, _⟩ := front model first
    simp [held]
  · by_contra absent
    rw [Bool.not_eq_true, Option.isSome_eq_false_iff, Option.isNone_iff_eq_none, head,
      List.head?_eq_none_iff] at absent
    rw [absent] at named
    cases named
    exact filled units
  · obtain ⟨unit, rest, held, generated⟩ := front model first
    exact ⟨unit, rest, held, generator, strategies ▸ List.mem_cons_self, generated⟩

theorem lookups_agree_least :
    ∃ output processor round, round.Read ∧ processor.generators ≠ [] ∧
      Processor.process processor round = .ok output ∧ output.types ≠ [] ∧
      ∀ name, ((output.type? name).isSome = true ↔ output.unitsFor name ≠ []) := by
  have mapped := Backend.leastText_mapped (List.mem_cons_self : Backend.sqlite ∈ Backend.all)
  obtain ⟨output, completed, typed⟩ := exists_of_any mapped
  obtain ⟨items, round, processor, parsed, scanned, made, processed⟩ :=
    processSource_eq_ok.mp completed
  obtain ⟨runtime, _, rfl⟩ := Processor.make_eq_ok.mp made
  have offered : Backend.sqlite.generators ≠ [] := by decide
  have read : round.Read := .items parsed scanned
  refine ⟨output, _, round, read, offered, processed, by simpa using typed, fun name => ?_⟩
  obtain ⟨_, _, _, agree, _⟩ := lookups_agree read offered processed name
  exact agree

end Processing

end StorageMapping
