import StorageMapping.Proofs.Processing.Configured
import StorageMapping.Proofs.Round.Names
import StorageMapping.Proofs.Round.Relocation
import StorageMapping.Proofs.Unit.HostNames

namespace StorageMapping

/-! # Legal names

Whatever a text names can be named in the code that is generated for it. The modules above the text
come from the configuration, where any text can stand: a run reaches a name that it cannot write
only there. -/

open Source Naming Results

namespace Processor

variable {processor : Processor} {backend : Backend} {config : Config} {round : Round}
  {name : IllegalName}

/-- A run ends with an illegal name where it is the first one of a type. -/
theorem illegal_of_process (failed : processor.process round = .error (.illegalName name)) :
    Processing.Faultless processor.backend processor.introspect round ∧
      ∃ entry ∈ round.marked, ∃ generator ∈ processor.generators,
        generator.tokens processor.context
          (Processing.modelWith (Processing.carried processor.introspect round.columns) entry) =
            .error name := by
  rw [process_eq] at failed
  cases mapped : Processing.types processor.backend processor.introspect round with
  | error fault =>
      rw [mapped] at failed
      cases failed
  | ok models =>
      obtain ⟨faultless, rfl⟩ := Processing.types_eq_ok.mp mapped
      simp only [mapped, finish] at failed
      cases written : (round.marked.map (Processing.modelWith
          (Processing.carried processor.introspect round.columns))).mapM processor.unitsOf with
      | ok units =>
          rw [written] at failed
          contradiction
      | error illegal =>
          rw [written] at failed
          cases failed
          obtain ⟨model, member, unwritten⟩ := mem_of_mapM_eq_error written
          obtain ⟨entry, marked, rfl⟩ := List.mem_map.mp member
          obtain ⟨generator, offered, refused⟩ := mem_of_mapM_eq_error unwritten
          refine ⟨faultless, entry, marked, generator, offered, ?_⟩
          rcases bind_eq_error.mp refused with tokens | ⟨_, _, completed⟩
          · exact tokens
          · contradiction

/-- Units can be written only for types whose modules can be named. -/
theorem expressible_of_units {models : List TypeModel} {units : List (List GeneratedUnit)}
    (written : models.mapM processor.unitsOf = .ok units) {model : TypeModel}
    (member : model ∈ models) {generator : Generator} (offered : generator ∈ processor.generators) :
    ∀ segment ∈ model.modulePath, Expressible segment := by
  obtain ⟨group, _, grouped⟩ := exists_of_mapM_eq_ok written member
  obtain ⟨unit, _, generated⟩ := exists_of_mapM_eq_ok grouped offered
  obtain ⟨tokens, found, _⟩ := Generator.generate_eq_ok.mp generated
  obtain ⟨names, hosted⟩ := Generator.hostNames_of_tokens found
  exact expressible_of_hostNames hosted

/-- Whatever has no fault but a module that cannot be named ends with an illegal name. -/
theorem process_illegal (processor : Processor) {entry : Nat × Declaration}
    {generator : Generator} {segment : String}
    (faultless : Processing.Faultless processor.backend processor.introspect round)
    (marked : entry ∈ round.marked) (offered : generator ∈ processor.generators)
    (member : segment ∈ entry.2.modulePath) (inexpressible : ¬ Expressible segment) :
    ∃ name, processor.process round = .error (.illegalName name) := by
  rw [process_eq, Processing.types_eq_ok.mpr ⟨faultless, rfl⟩]
  simp only [finish]
  cases written : (round.marked.map (Processing.modelWith
      (Processing.carried processor.introspect round.columns))).mapM processor.unitsOf with
  | error name => exact ⟨name, rfl⟩
  | ok units =>
      have expressible := expressible_of_units written (List.mem_map_of_mem marked) offered
      exact absurd (expressible segment member) inexpressible

end Processor

variable {backend : Backend} {config : Config} {name : IllegalName}

/-- A round whose structs are named in a text leads to an illegal name only through the path at
which the text stands. -/
theorem illegal_of_processRound {round : Round} (offered : backend ∈ Backend.all)
    (named : round.NamedBelow config.moduleSegments)
    (failed : processRound backend config round = .error (.illegalName name)) :
    name.text ∈ config.moduleSegments ∧ ¬ Expressible name.text := by
  obtain ⟨processor, made, failed⟩ := processRound_eq_illegal.mp failed
  obtain ⟨_, _, rfl⟩ := Processor.make_eq_ok.mp made
  obtain ⟨faultless, entry, marked, generator, generatorMember, unwritten⟩ :=
    Processor.illegal_of_process failed
  obtain ⟨kind, _, rfl⟩ := List.mem_map.mp generatorMember
  have declared : entry.2 ∈ round.declarations :=
    List.mem_of_getElem? (Round.mem_marked.mp marked).1
  obtain ⟨nameable, modules, path, nameables⟩ :=
    named entry.2 declared (faultless.maps marked).isStruct
  have unhosted := Generator.hostNames_eq_error offered nameable unwritten
  obtain ⟨member, inexpressible⟩ := illegal_of_hostNames nameable unhosted
  refine ⟨?_, inexpressible⟩
  -- the modules of the text itself can be named
  have inPath : name.text ∈ entry.2.modulePath := member
  rw [path, List.mem_append] at inPath
  exact inPath.resolve_right fun inner => inexpressible (nameables _ inner).expressible

theorem processSource_eq_illegal {file : Option String} {text : String} :
    processSource backend config file text = .error (.illegalName name) ↔
      ∃ round, scanSource backend config file text = .ok round ∧
        processRound backend config round = .error (.illegalName name) := by
  rw [processSource, bind_eq_error]
  constructor
  · rintro (unscanned | found)
    · rcases bind_eq_error.mp unscanned with unread | ⟨items, _, unscanned⟩
      · obtain ⟨_, _, same⟩ := mapError_eq_error.mp unread
        cases same
      · obtain ⟨_, _, same⟩ := mapError_eq_error.mp unscanned
        cases same
    · exact found
  · exact .inr

theorem illegal_of_processSource {file : Option String} {text : String}
    (offered : backend ∈ Backend.all)
    (failed : processSource backend config file text = .error (.illegalName name)) :
    name.text ∈ config.moduleSegments ∧ ¬ Expressible name.text := by
  obtain ⟨round, scanned, failed⟩ := processSource_eq_illegal.mp failed
  obtain ⟨items, read, scanned⟩ := bind_eq_ok.mp scanned
  have named := Reader.file_named (mapError_eq_ok.mp read)
  have below : round.NamedBelow config.moduleSegments :=
    Discovery.ofItems_namedBelow
      (fun item member _ scanned => Discovery.ofItem_namedBelow (named item member) scanned)
      (mapError_eq_ok.mp scanned)
  exact illegal_of_processRound offered below failed

/-! ## Paths that cannot be written -/

/-- A short text with one mapped type. -/
def Backend.leastText (backend : Backend) : String :=
  "#[" ++ backend.markers.typeAttribute ++ "(" ++ backend.markers.locatorKeys.common
    ++ "=\"t\")]struct T\x7b#[" ++ backend.markers.columnAttribute
    ++ "(name=\"c\",key)]pub f:i64\x7d"

set_option maxRecDepth 100000 in
theorem Backend.leastText_mapped (offered : backend ∈ Backend.all) :
    (processSource backend ⟨none, true, ""⟩ none backend.leastText).toOption.any
      (!·.types.isEmpty) = true := by
  simp only [Backend.all, List.mem_cons, List.not_mem_nil, or_false] at offered
  rcases offered with rfl | rfl
  · decide +kernel
  · decide +kernel

theorem Backend.leastText_scanned (offered : backend ∈ Backend.all) :
    ∃ items round, Reader.file backend.leastText = .ok items ∧
      Discovery.ofItems ⟨backend.markers, none⟩ [] items = .ok round ∧
      Processing.Faultless backend Column.classify round ∧ round.marked ≠ [] := by
  have mapped := leastText_mapped offered
  cases completed : processSource backend ⟨none, true, ""⟩ none backend.leastText with
  | error failure =>
      rw [completed] at mapped
      contradiction
  | ok output =>
      have typed : output.types ≠ [] := by simpa [completed, Except.toOption] using mapped
      obtain ⟨round, scanned, processed⟩ := bind_eq_ok.mp completed
      obtain ⟨items, read, scanned⟩ := bind_eq_ok.mp scanned
      obtain ⟨processor, made, processed⟩ := processRound_eq_ok.mp processed
      obtain ⟨_, _, rfl⟩ := Processor.make_eq_ok.mp made
      obtain ⟨faultless, _, _, _, same⟩ := Processing.process_eq_ok.mp processed
      have atRoot : Config.moduleSegments ⟨none, true, ""⟩ = [] := by decide
      have scanned := mapError_eq_ok.mp scanned
      rw [atRoot] at scanned
      refine ⟨items, round, mapError_eq_ok.mp read, scanned, faultless, ?_⟩
      intro unmarked
      rw [unmarked] at same
      exact typed same

/-- A path with a segment that cannot be written is met by any text with a mapped type. -/
theorem illegal_of_inexpressible {processor : Processor} {segment : String}
    (offered : backend ∈ Backend.all) (made : Processor.make backend config = .ok processor)
    (member : segment ∈ config.moduleSegments) (inexpressible : ¬ Expressible segment) :
    ∃ name, processSource backend config none backend.leastText = .error (.illegalName name) := by
  obtain ⟨items, round, read, scanned, faultless, marked⟩ := Backend.leastText_scanned offered
  let moved := (Relabelling.below config.moduleSegments).round round
  have scanned : Discovery.ofItems ⟨backend.markers, none⟩ config.moduleSegments items =
      .ok moved := by
    rw [← List.append_nil config.moduleSegments]
    exact Discovery.ofItems_below items scanned
  have found : scanSource backend config none backend.leastText = .ok moved :=
    bind_eq_ok.mpr ⟨items, mapError_eq_ok.mpr read, mapError_eq_ok.mpr scanned⟩
  obtain ⟨runtime, _, rfl⟩ := Processor.make_eq_ok.mp made
  have faultless : Processing.Faultless backend Column.classify moved :=
    (Processing.faultless_relabelled (Relabelling.below_faithful _ _)).mpr faultless
  obtain ⟨entry, entryMember⟩ := List.exists_mem_of_ne_nil _ marked
  have movedMember :
      (entry.1, (Relabelling.below config.moduleSegments).declaration entry.2) ∈ moved.marked := by
    rw [Processing.marked_relabelled]
    exact List.mem_map_of_mem entryMember
  have put : (⟨backend, .put⟩ : Generator) ∈ backend.generators :=
    List.mem_map_of_mem (by decide)
  obtain ⟨name, failed⟩ := Processor.process_illegal
    ⟨backend, Column.classify, backend.generators, ⟨runtime, config.documented⟩⟩ faultless
    movedMember put (List.mem_append_left _ member) inexpressible
  exact ⟨name, processSource_eq_illegal.mpr
    ⟨moved, found, processRound_eq_illegal.mpr ⟨_, made, failed⟩⟩⟩

/-- A run of a text reaches an illegal name only in the configured module path. It is found there
before anything is generated only if the configuration names no runtime module: any other path with
a segment that cannot be written lets some text run into it. -/
theorem processSource_legal (offered : backend ∈ Backend.all) (config : Config) :
    (∀ file text name, processSource backend config file text = .error (.illegalName name) →
        name.text ∈ config.moduleSegments ∧ ¬ Expressible name.text) ∧
      ((∀ file text name, processSource backend config file text ≠ .error (.illegalName name)) ↔
        (∃ message, config.runtimePathOr backend.defaultRuntime = .error message) ∨
          ∀ segment ∈ config.moduleSegments, Expressible segment) := by
  refine ⟨fun file text name failed => illegal_of_processSource offered failed, ?_, ?_⟩
  · intro legal
    rcases exists_ok_or_error (config.runtimePathOr backend.defaultRuntime) with
      ⟨runtime, found⟩ | unconfigured
    · refine .inr fun segment member => ?_
      by_contra inexpressible
      obtain ⟨name, failed⟩ := illegal_of_inexpressible offered
        (Processor.make_eq_ok.mpr ⟨runtime, found, rfl⟩) member inexpressible
      exact legal _ _ name failed
    · exact .inl unconfigured
  · rintro (⟨message, unconfigured⟩ | expressible) file text name failed
    · obtain ⟨_, _, failed⟩ := processSource_eq_illegal.mp failed
      obtain ⟨_, made, _⟩ := processRound_eq_illegal.mp failed
      obtain ⟨_, found, _⟩ := Processor.make_eq_ok.mp made
      cases unconfigured.symm.trans found
    · obtain ⟨member, inexpressible⟩ := illegal_of_processSource offered failed
      exact inexpressible (expressible _ member)

theorem processSource_legal_standard :
    Backend.sqlite ∈ Backend.all ∧ ∀ file text name,
      processSource .sqlite .standard file text ≠ .error (.illegalName name) := by
  have offered : Backend.sqlite ∈ Backend.all := by decide
  refine ⟨offered, (processSource_legal offered .standard).2.mpr (.inr ?_)⟩
  have segments : Config.standard.moduleSegments = ["crate"] := by decide +kernel
  intro segment member
  rw [segments, List.mem_singleton] at member
  rw [member]
  exact .inl (by decide)

/-- Does a run fail with this message for its configuration? -/
def refuses (message : String) : Except Failure Output → Bool
  | .error (.configuration other) => other == message
  | _ => false

theorem eq_of_refuses {result : Except Failure Output} {message : String}
    (refused : refuses message result = true) : result = .error (.configuration message) := by
  unfold refuses at refused
  split at refused
  · rw [eq_of_beq refused]
  · contradiction

def stumblesOver (name : IllegalName) : Except Failure Output → Bool
  | .error (.illegalName other) => other == name
  | _ => false

theorem eq_of_stumblesOver {result : Except Failure Output} {name : IllegalName}
    (stumbled : stumblesOver name result = true) : result = .error (.illegalName name) := by
  unfold stumblesOver at stumbled
  split at stumbled
  · rw [eq_of_beq stumbled]
  · contradiction

set_option maxRecDepth 100000 in
/-- What is no path is refused as the runtime module, and taken as the module of a text. -/
theorem processSource_illegal_module :
    let text := "#[storio_sqlite_type(table=\"t\")]struct T\x7b" ++
      "#[storio_sqlite_column(name=\"c\",key)]pub f:i64\x7d"
    processSource .sqlite ⟨some "crate::my models", true, "crate"⟩ none text =
        .error (.configuration
          "Invalid runtime path 'crate::my models': unexpected token") ∧
      processSource .sqlite ⟨none, true, "crate::my models"⟩ none text =
        .error (.illegalName ⟨"my models"⟩) := by
  exact ⟨eq_of_refuses (by decide +kernel), eq_of_stumblesOver (by decide +kernel)⟩

end StorageMapping
