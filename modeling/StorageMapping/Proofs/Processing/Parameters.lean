import StorageMapping.Proofs.Processing.Derived
import StorageMapping.Proofs.Processing.HostPaths
import StorageMapping.Proofs.Round.Structs
import StorageMapping.Proofs.Source.ModulePaths

namespace StorageMapping

/-! # Types with parameters

A struct may declare parameters, but a round has no place for them. The path by which generated code
names the struct has no arguments, so it names a whole type just where the struct declares none. -/

open Source Source.Grammar Results

/-! ## Types of structs -/

/-- A type has the name and the modules that a definition has below a path. -/
structure TypeModel.Describes (path : List String) (found : List Identifier × DataItem)
    (model : TypeModel) : Prop where
  name : model.name = found.2.name.text
  modulePath : model.modulePath = path ++ found.1.map (·.text)

theorem Round.map_marked (round : Round) :
    round.marked.map (·.2) = round.declarations.filter (·.isMarked) := by
  have numbered : ∀ (declarations : List Declaration) (first : Nat),
      ((number first declarations).filter (·.2.isMarked)).map (·.2) =
        declarations.filter (·.isMarked) := by
    intro declarations
    induction declarations with
    | nil => exact fun _ => rfl
    | cons declaration rest ih =>
        intro first
        rw [number, List.filter_cons, List.filter_cons]
        split
        · exact congrArg _ (ih (first + 1))
        · exact ih (first + 1)
  exact numbered round.declarations 0

namespace Processing

variable {processor : Processor} {round : Round} {output : Output}
  {scope : Discovery.Scope} {root : List String} {items : List Item}

/-- The types of an output are those of the marked structs of its text, in their order. -/
theorem types_of_structs (scanned : Discovery.ofItems scope root items = .ok round)
    (completed : processor.process round = .ok output) :
    List.Forall₂ (TypeModel.Describes root) (scope.markers.structsOf items) output.types := by
  obtain ⟨faultless, _, _, _, types⟩ := process_eq_ok.mp completed
  have structs : List.Forall₂ (Declaration.Declares root) (scope.markers.structsOf items)
      (round.declarations.filter (·.isMarkedStruct)) :=
    Discovery.ofItems_structs items (by simp) scanned
  -- nothing else may carry the marker
  have marked : round.declarations.filter (·.isMarkedStruct) = round.marked.map (·.2) := by
    rw [Round.map_marked]
    refine List.filter_congr fun declaration member => ?_
    cases isMarked : declaration.isMarked with
    | false => simp [Declaration.isMarkedStruct, isMarked]
    | true =>
        obtain ⟨id, here⟩ := List.getElem?_of_mem member
        have isStruct : declaration.kind = .struct :=
          (faultless.maps (Round.mem_marked.mpr ⟨here, isMarked⟩)).isStruct
        simp [Declaration.isMarkedStruct, isMarked, isStruct]
  rw [marked, List.forall₂_map_right_iff] at structs
  rw [types, List.forall₂_map_right_iff]
  exact structs.imp fun found entry declared => ⟨declared.name, declared.modulePath⟩

end Processing

/-! ## The paths of types -/

namespace Source

def PathArguments.list : PathArguments → List PathArgument
  | .mk _ arguments _ => arguments
  | .parenthesized _ _ => []

/-- The arguments that a segment has in angle brackets. -/
def PathSegment.argumentList (segment : PathSegment) : List PathArgument :=
  segment.arguments.elim [] PathArguments.list

/-- The arguments that a path has in angle brackets, on any of its segments. -/
def TypeExpr.arguments : TypeExpr → List PathArgument
  | .path _ segments => segments.flatMap PathSegment.argumentList
  | .qualified _ segments => segments.flatMap PathSegment.argumentList
  | .paren inner => inner.arguments
  | .group inner => inner.arguments
  | .other _ => []

theorem TypeExpr.arguments_eq_nil {type : TypeExpr} {names : List Identifier}
    (same : type.unplaced = Naming.pathType names) : type.arguments = [] := by
  cases type with
  | path rooted segments =>
      rw [unplaced, Naming.pathType, TypeExpr.path.injEq, unplacedSegments_eq_map] at same
      refine List.flatMap_eq_nil_iff.mpr fun segment member => ?_
      have bare : segment.unplaced ∈ names.map fun name => PathSegment.mk name .start none :=
        same.2 ▸ List.mem_map_of_mem member
      obtain ⟨name, _, held⟩ := List.mem_map.mp bare
      obtain ⟨_, _, arguments⟩ := segment
      cases arguments with
      | none => rfl
      | some arguments => cases held
  | _ => cases same

end Source

namespace Naming

/-- The path of a type is read as a type that has no arguments. -/
theorem type_pathTokens {model : TypeModel} {names : List Identifier}
    (written : hostNames model = .ok names) :
    ∃ type, Reader.type (render (pathTokens names)) = .ok type ∧ type.arguments = [] := by
  have named : ∃ type, Reader.type (render (pathTokens names)) = .ok type ∧
      type.unplaced = pathType names := by
    refine Reader.parseAll_render (tidy_pathTokens (hostNames_legal written)) fun {g} deep => ?_
    cases deep with
    | @deepen _ g deep =>
        have taken := (isPlain_hostNames written).takesType (g := g) true [] .nil
        rw [List.append_nil, tokens_pathType, unplaced_pathType] at taken
        exact taken
  obtain ⟨type, read, same⟩ := named
  exact ⟨type, read, TypeExpr.arguments_eq_nil same⟩

end Naming

/-! ## Runs -/

theorem Backend.generators_ne_nil (backend : Backend) : backend.generators ≠ [] := by
  simp [generators, UnitKind.all]

/-- Generated code names a type by a path with so many arguments. -/
def TypeModel.TakesArguments (model : TypeModel) (count : Nat) : Prop :=
  ∃ path type, Naming.hostPath model = .ok path ∧ Reader.type (render path) = .ok type ∧
    type.arguments.length = count

theorem TypeModel.takesArguments_iff {model : TypeModel} {names : List Identifier} {count : Nat}
    (hosted : Naming.hostNames model = .ok names) : model.TakesArguments count ↔ count = 0 := by
  have path := Naming.hostPath_of_hostNames hosted
  obtain ⟨type, read, bare⟩ := Naming.type_pathTokens hosted
  constructor
  · rintro ⟨other, found, samePath, readToo, rfl⟩
    cases path.symm.trans samePath
    cases read.symm.trans readToo
    rw [bare]
    rfl
  · rintro rfl
    exact ⟨_, type, path, read, by rw [bare]; rfl⟩

/-- A type that comes from a struct. All its units are written with one path, which has no
arguments, so the path is that of the whole type just where the struct has no parameters. -/
structure Processing.Hosts (processor : Processor) (output : Output) (root : List String)
    (found : List Identifier × DataItem) (model : TypeModel) : Prop where
  describes : TypeModel.Describes root found model
  written : ∃ path, Naming.hostPath model = .ok path ∧
    ∀ generator ∈ processor.generators, ∃ unit ∈ output.units, ∃ identifier inner,
      generator.generate processor.context model = .ok unit ∧
        generator.Items processor.context.runtime.tokens path model identifier inner ∧
        unit.tokens = Template.definition processor.context (Template.sentence generator.backend
          generator.kind model.qualifiedName) identifier ++ inner
  bare : ∀ count, model.TakesArguments count ↔ count = 0

namespace Processing

variable {processor : Processor} {round : Round} {output : Output} {root : List String}
  {scope : Discovery.Scope} {items : List Item} {backend : Backend}

theorem hosts_of_structs (offered : processor.generators ≠ [])
    (scanned : Discovery.ofItems scope root items = .ok round)
    (completed : processor.process round = .ok output) :
    List.Forall₂ (Hosts processor output root) (scope.markers.structsOf items) output.types := by
  have described := types_of_structs scanned completed
  have written : ∀ model ∈ output.types, ∃ names, Naming.hostNames model = .ok names ∧
      ∀ generator ∈ processor.generators, ∃ unit ∈ output.units, ∃ identifier inner,
        generator.generate processor.context model = .ok unit ∧
          generator.Items processor.context.runtime.tokens (Naming.pathTokens names) model
            identifier inner ∧
          unit.tokens = Template.definition processor.context (Template.sentence
            generator.backend generator.kind model.qualifiedName) identifier ++ inner := by
    intro model member
    obtain ⟨first, _, strategies⟩ := List.exists_cons_of_ne_nil offered
    obtain ⟨_, _, generated⟩ :=
      unit_of_type completed member (strategies ▸ List.mem_cons_self : first ∈ _)
    obtain ⟨_, spelled, _⟩ := Generator.generate_eq_ok.mp generated
    obtain ⟨names, hosted⟩ := Generator.hostNames_of_tokens spelled
    refine ⟨names, hosted, fun generator inList => ?_⟩
    obtain ⟨unit, inUnits, generated⟩ := unit_of_type completed member inList
    obtain ⟨tokens, spelled, rfl⟩ := Generator.generate_eq_ok.mp generated
    obtain ⟨_, identifier, inner, reached, _, itemized, rfl⟩ := Generator.tokens_eq_ok.mp spelled
    cases reached.symm.trans hosted
    exact ⟨_, inUnits, identifier, inner, generated, itemized, rfl⟩
  refine List.forall₂_iff_get.mpr ⟨described.length_eq, fun index first second => ?_⟩
  have describes := described.get first second
  obtain ⟨names, hosted, units⟩ := written _ (List.get_mem output.types ⟨index, second⟩)
  exact ⟨describes, ⟨Naming.pathTokens names, Naming.hostPath_of_hostNames hosted, units⟩,
    fun _ => TypeModel.takesArguments_iff hosted⟩

/-- Generated code names the whole of every type just where no marked struct has parameters. -/
theorem whole_iff {structs : List (List Identifier × DataItem)} {models : List TypeModel}
    (hosts : List.Forall₂ (Hosts processor output root) structs models) :
    List.Forall₂ (fun found model => TypeModel.TakesArguments model found.2.parameters)
        structs models ↔ ∀ found ∈ structs, found.2.parameters = 0 := by
  induction hosts with
  | nil => simp
  | cons here _ ih => rw [List.forall₂_cons, List.forall_mem_cons, ih, here.bare]

/-- Parameters of types are lost. The types of an accepted text are those of its marked structs, one
for each, and all units of a type are written with a path that has no arguments. It is the path of
the whole type in every place just where no marked struct of the text declares a parameter. Nothing
else depends on the parameters: wherever a definition stands, its round is the round of the same
definition without them. -/
theorem process_parameters (backend : Backend) :
    (∀ config file text items output, Reader.file text = .ok items →
      processSource backend config file text = .ok output →
        ∃ processor, Processor.make backend config = .ok processor ∧
          List.Forall₂ (Hosts processor output config.moduleSegments)
            (backend.markers.structsOf items) output.types ∧
          (List.Forall₂ (fun found model => TypeModel.TakesArguments model found.2.parameters)
              (backend.markers.structsOf items) output.types ↔
            ∀ found ∈ backend.markers.structsOf items, found.2.parameters = 0)) ∧
      (∀ text input output, Reader.definition text = .ok input →
        processDefinition backend text = .ok output →
          ∃ processor, Processor.make backend .standard = .ok processor ∧
            List.Forall₂ (Hosts processor output [])
              (backend.markers.structsOf [.data input.item]) output.types ∧
            (List.Forall₂ (fun found model => TypeModel.TakesArguments model found.2.parameters)
                (backend.markers.structsOf [.data input.item]) output.types ↔
              ∀ found ∈ backend.markers.structsOf [.data input.item], found.2.parameters = 0)) ∧
      (∀ scope path items, Discovery.ofItems scope path (Item.allUnparameterized items) =
        Discovery.ofItems scope path items) ∧
      ∀ scope (input : DeriveInput), Discovery.ofDerive scope { input with parameters := 0 } =
        Discovery.ofDerive scope input := by
  have accepted : ∀ config file root items round processor output,
      Processor.make backend config = .ok processor →
      Discovery.ofItems ⟨backend.markers, file⟩ root items = .ok round →
      Processor.process processor round = .ok output →
      List.Forall₂ (Hosts processor output root) (backend.markers.structsOf items)
        output.types := by
    intro config file root items round processor output made scanned completed
    obtain ⟨_, _, rfl⟩ := Processor.make_eq_ok.mp made
    exact hosts_of_structs (Backend.generators_ne_nil backend) scanned completed
  refine ⟨fun config file text items output parsed completed => ?_,
    fun text input output parsed completed => ?_,
    fun scope path items => Discovery.ofItems_unparameterized items path, fun _ _ => rfl⟩
  · obtain ⟨_, _, processor, read, scanned, made, processed⟩ := processSource_eq_ok.mp completed
    cases parsed.symm.trans read
    have hosts := accepted _ _ _ _ _ _ _ made scanned processed
    exact ⟨processor, made, hosts, whole_iff hosts⟩
  · obtain ⟨round, scanned, completed⟩ := bind_eq_ok.mp completed
    obtain ⟨_, read, scanned⟩ := bind_eq_ok.mp scanned
    cases parsed.symm.trans (mapError_eq_ok.mp read)
    rw [Failure.during, mapError_eq_ok, Discovery.ofDerive_eq] at scanned
    obtain ⟨processor, made, processed⟩ := processRound_eq_ok.mp completed
    rw [← Discovery.ofItem, ← Discovery.ofItems_singleton] at scanned
    have hosts := accepted _ _ _ _ _ _ _ made scanned processed
    exact ⟨processor, made, hosts, whole_iff hosts⟩

theorem process_parameters_least :
    ∃ items input output expanded, Reader.file Backend.sqlite.leastText = .ok items ∧
      Reader.definition Backend.sqlite.leastText = .ok input ∧
      processSource .sqlite rootless none Backend.sqlite.leastText = .ok output ∧
      processDefinition .sqlite Backend.sqlite.leastText = .ok expanded ∧ output.types ≠ [] ∧
      List.Forall₂ (fun found model => TypeModel.TakesArguments model found.2.parameters)
        (Backend.sqlite.markers.structsOf items) output.types ∧
      List.Forall₂ (fun found model => TypeModel.TakesArguments model found.2.parameters)
        (Backend.sqlite.markers.structsOf [.data input.item]) expanded.types := by
  have bare : (Reader.file Backend.sqlite.leastText).toOption.any (fun items =>
      (Backend.sqlite.markers.structsOf items).all (·.2.parameters == 0)) = true := by
    decide +kernel
  have bareToo : (Reader.definition Backend.sqlite.leastText).toOption.any (fun input =>
      input.parameters == 0) = true := by
    decide +kernel
  have mapped := Backend.leastText_mapped (List.mem_cons_self : Backend.sqlite ∈ Backend.all)
  obtain ⟨items, parsed, bare⟩ := exists_of_any bare
  obtain ⟨input, read, bareToo⟩ := exists_of_any bareToo
  obtain ⟨output, completed, typed⟩ := exists_of_any mapped
  have expanded := processSource_of_definition .sqlite (by decide +kernel) read
  change processSource .sqlite rootless none Backend.sqlite.leastText = .ok output at completed
  rw [completed] at expanded
  obtain ⟨scanned, derived, _⟩ := process_parameters .sqlite
  obtain ⟨_, _, _, whole⟩ := scanned _ _ _ _ _ parsed completed
  obtain ⟨_, _, _, wholeToo⟩ := derived _ _ _ read expanded.symm
  refine ⟨items, input, output, output, parsed, read, completed, expanded.symm,
    by simpa using typed, whole.mpr (by simpa using bare), wholeToo.mpr fun found member => ?_⟩
  obtain ⟨inItems, _⟩ := List.mem_filter.mp member
  cases List.mem_singleton.mp inItems
  exact eq_of_beq bareToo

/-- A text with a marked struct that has a parameter. -/
def genericText : String :=
  "#[storio_sqlite_type(table=\"t\")]struct T<X>\x7b" ++
    "#[storio_sqlite_column(name=\"c\",key)]pub f:i64\x7d"

/-- A struct with a parameter is accepted, and generated code names it without an argument. -/
theorem generic_accepted :
    ∃ items found output model, Reader.file genericText = .ok items ∧
      Backend.sqlite.markers.structsOf items = [found] ∧ found.2.parameters = 1 ∧
      processSource .sqlite .standard none genericText = .ok output ∧ output.types = [model] ∧
      model.TakesArguments 0 ∧ ¬ model.TakesArguments 1 := by
  have parameters : (Reader.file genericText).toOption.any (fun items =>
      (Backend.sqlite.markers.structsOf items).map (·.2.parameters) == [1]) = true := by
    decide +kernel
  have accepted : (processSource .sqlite .standard none genericText).toOption.isSome = true := by
    decide +kernel
  obtain ⟨items, parsed, parameters⟩ := exists_of_any parameters
  obtain ⟨output, completed⟩ := Option.isSome_iff_exists.mp accepted
  rw [toOption_eq_some] at completed
  obtain ⟨found, structs, parameter⟩ := List.map_eq_singleton_iff.mp (eq_of_beq parameters)
  obtain ⟨_, _, processor, read, scanned, made, processed⟩ := processSource_eq_ok.mp completed
  cases parsed.symm.trans read
  obtain ⟨_, _, rfl⟩ := Processor.make_eq_ok.mp made
  have hosts := hosts_of_structs (Backend.generators_ne_nil .sqlite) scanned processed
  rw [structs] at hosts
  obtain ⟨model, _, here, last, types⟩ := List.forall₂_cons_left_iff.mp hosts
  cases last
  exact ⟨items, found, output, model, parsed, structs, parameter, completed, types,
    (here.bare 0).mpr rfl, fun one => absurd ((here.bare 1).mp one) (by decide)⟩

end Processing

end StorageMapping
