import StorageMapping.Proofs.Processing.Legality
import StorageMapping.Proofs.Processing.Quoted
import StorageMapping.Proofs.Round.Fields
import StorageMapping.Proofs.Unit.Unnamed

namespace StorageMapping

/-! # Generated code is read as code

The text of a unit is a file of its struct and its implementations, and so are the tokens of all
units together. Only a field without a name is in the way: a text may have one, and what puts or gets
it cannot be read. -/

open Source Source.Grammar Results

variable {processor : Processor} {round : Round} {output : Output} {model : TypeModel}
    {unit : GeneratedUnit}

/-- The text of the code is a file, and its items begin like this. -/
def GeneratedUnit.ReadsAs (unit : GeneratedUnit) (headlines : List Headline) : Prop :=
  ∃ tokens outlines, tokenize unit.code.toList = some tokens ∧
    Reader.outline tokens = .ok outlines ∧ Reader.file unit.code = .ok (outlines.map (·.item)) ∧
      List.Forall₂ Headline.Heads headlines outlines

/-- All columns of a type belong to fields with a name. -/
def TypeModel.Named (model : TypeModel) : Prop :=
  ∀ column ∈ model.columns, column.field ≠ .plain "_"

namespace Processing

theorem inField_of_type (read : round.Read) (completed : processor.process round = .ok output)
    (member : model ∈ output.types) : ∀ column ∈ model.columns, column.field.InField := by
  intro column inside
  obtain ⟨element, inRound, isField, same⟩ := field_of_type completed member inside
  rw [same]
  exact read.fieldsNamed element inRound isField

/-- The code of a unit whose tokens are those of items is read as a file of these. -/
theorem readsAs_of_begins {generator : Generator} {context : GenerationContext}
    {headlines : List Headline} {pieces : List Tokens}
    (offered : generator.backend ∈ Backend.all) (tidy : Tidy context.runtime.tokens)
    (legal : ∀ column ∈ model.columns, column.field.Legal)
    (generated : generator.generate context model = .ok unit)
    (split : unit.tokens = pieces.flatten)
    (begins : List.Forall₂ Headline.Begins headlines pieces) : unit.ReadsAs headlines := by
  obtain ⟨found, read, alike, unmarked⟩ := Generator.read_code offered tidy legal generated
  obtain ⟨outlines, outlined, file, heads⟩ := Reader.file_eq_ok begins read (split ▸ alike) unmarked
  exact ⟨found, outlines, read, outlined, file, heads⟩

/-- The pieces of units, one behind the other, are those of all their items. -/
theorem begins_units {units : List GeneratedUnit} {headlines : GeneratedUnit → List Headline}
    (each : ∀ unit ∈ units, ∃ pieces, unit.tokens = pieces.flatten ∧
      List.Forall₂ Headline.Begins (headlines unit) pieces) :
    ∃ pieces, units.flatMap (·.tokens) = pieces.flatten ∧
      List.Forall₂ Headline.Begins (units.flatMap headlines) pieces := by
  induction units with
  | nil => exact ⟨[], rfl, .nil⟩
  | cons unit units ih =>
      obtain ⟨first, others⟩ := List.forall_mem_cons.mp each
      obtain ⟨pieces, split, begins⟩ := first
      obtain ⟨more, splits, behind⟩ := ih others
      refine ⟨pieces ++ more, ?_, List.rel_append begins behind⟩
      rw [List.flatMap_cons, split, splits, List.flatten_append]

/-- A unit belongs to a type of the run, and its tokens are those of its items where what it puts or
gets has a name. -/
theorem begins_of_unit (offered : ∀ generator ∈ processor.generators, generator.backend ∈ Backend.all)
    (plain : IsPlain processor.context.runtime) (read : round.Read)
    (completed : processor.process round = .ok output) (member : unit ∈ output.units) :
    ∃ headlines, ∃ model ∈ output.types, ∃ generator ∈ processor.generators, ∃ names,
      generator.generate processor.context model = .ok unit ∧
      Naming.hostNames model = .ok names ∧
      headlines = unit.headlines generator.backend.mappingType processor.context.runtime
        (Naming.pathType names) ∧
      ((unit.kind = .put ∨ unit.kind = .get → model.Named) →
        ∃ pieces, unit.tokens = pieces.flatten ∧
          List.Forall₂ Headline.Begins headlines pieces) := by
  obtain ⟨model, inTypes, generator, inList, generated⟩ := (units_of_types completed).1 unit member
  obtain ⟨tokens, written, _⟩ := Generator.generate_eq_ok.mp generated
  obtain ⟨names, hosted⟩ := Generator.hostNames_of_tokens written
  refine ⟨_, model, inTypes, generator, inList, names, generated, hosted, rfl, fun named => ?_⟩
  refine Generator.begins (offered _ inList) plain hosted generated fun used column inside => ?_
  exact (inField_of_type read completed inTypes column inside).named.resolve_right
    (named used column inside)

/-- The text of every unit of a round that was read is a file of its items: a public struct of the
name of the unit, with the implementations that stand between it and the path of the type. Of a type
with an unnamed field this holds for what neither puts nor gets it, and the text of what does is no
file. The tokens of all units are those of all items, in the order of the units. -/
theorem process_outlined {text : String}
    (offered : ∀ generator ∈ processor.generators, generator.backend ∈ Backend.all)
    (runtime : Reader.path text = .ok processor.context.runtime)
    (plain : IsPlain processor.context.runtime) (read : round.Read)
    (completed : processor.process round = .ok output) :
    ∃ headlines : GeneratedUnit → List Headline,
      (∀ unit ∈ output.units, ∃ model ∈ output.types, ∃ generator ∈ processor.generators, ∃ names,
        generator.generate processor.context model = .ok unit ∧
          Naming.hostNames model = .ok names ∧
          headlines unit = unit.headlines generator.backend.mappingType processor.context.runtime
            (Naming.pathType names) ∧
          ((unit.kind = .put ∨ unit.kind = .get → model.Named) → unit.ReadsAs (headlines unit)) ∧
          (unit.kind = .put ∨ unit.kind = .get → ¬ model.Named →
            ∃ fault, Reader.file unit.code = .error fault)) ∧
      ((∀ model ∈ output.types, model.Named) →
        ∃ outlines, Reader.outline output.tokens = .ok outlines ∧
          Reader.items output.tokens = .ok (outlines.map (·.item)) ∧
            List.Forall₂ Headline.Heads (output.units.flatMap headlines) outlines) := by
  have tidy := Reader.path_tidy runtime
  have begins := fun unit (member : unit ∈ output.units) =>
    begins_of_unit offered plain read completed member
  choose! headlines spec using begins
  refine ⟨headlines, fun unit member => ?_, fun named => ?_⟩
  · obtain ⟨model, inTypes, generator, inList, names, generated, hosted, same, each⟩ :=
      spec unit member
    have fields := inField_of_type read completed inTypes
    refine ⟨model, inTypes, generator, inList, names, generated, hosted, same, fun named => ?_,
      fun used unnamed => ?_⟩
    · obtain ⟨pieces, split, begins⟩ := each named
      exact readsAs_of_begins (offered _ inList) tidy
        (fun column inside => (fields column inside).legal) generated split begins
    · have one : ∃ column ∈ model.columns, column.field = .plain "_" := by
        simpa [TypeModel.Named] using unnamed
      exact generator.file_eq_error (offered _ inList) runtime plain fields generated used one
  · have each : ∀ unit ∈ output.units, ∃ pieces, unit.tokens = pieces.flatten ∧
        List.Forall₂ Headline.Begins (headlines unit) pieces := by
      intro unit member
      obtain ⟨model, inTypes, _, _, _, _, _, _, each⟩ := spec unit member
      exact each fun _ => named model inTypes
    obtain ⟨pieces, split, begins⟩ := begins_units each
    exact Reader.outline_eq_ok begins (congrArg unplacedTokens split)

/-! ## Two texts -/

/-- The path of the runtime that a backend brings along is plain. -/
theorem defaultRuntime_plain {backend : Backend} (offered : backend ∈ Backend.all) :
    ∃ runtime, Reader.path backend.defaultRuntime = .ok runtime ∧ IsPlain runtime := by
  have each : ∀ backend ∈ Backend.all,
      (Reader.path backend.defaultRuntime).toOption.any (IsPlain ·) = true := by decide +kernel
  have plain := each backend offered
  generalize Reader.path backend.defaultRuntime = found at plain
  cases found with
  | error fault => cases plain
  | ok runtime => exact ⟨runtime, rfl, of_decide_eq_true plain⟩

/-- With the standard configuration, a text is processed as a round that was read, and with the
runtime that the backend brings along. -/
theorem process_of_standard {backend : Backend} {text : String} (offered : backend ∈ Backend.all)
    (completed : processSource backend .standard none text = .ok output) :
    ∃ round runtime, round.Read ∧ Reader.path backend.defaultRuntime = .ok runtime ∧
      IsPlain runtime ∧ Processor.process
        ⟨backend, Column.classify, backend.generators, ⟨runtime, true⟩⟩ round = .ok output := by
  obtain ⟨round, scanned, completed⟩ := bind_eq_ok.mp completed
  obtain ⟨items, parsed, scanned⟩ := bind_eq_ok.mp scanned
  obtain ⟨processor, made, completed⟩ := processRound_eq_ok.mp completed
  obtain ⟨runtime, found, rfl⟩ := Processor.make_eq_ok.mp made
  obtain ⟨known, path, plain⟩ := defaultRuntime_plain offered
  simp only [Config.runtimePathOr, Config.standard, Option.getD_none, path] at found
  cases found
  exact ⟨round, _, .items (mapError_eq_ok.mp parsed) (mapError_eq_ok.mp scanned), path, plain,
    completed⟩

/-- A text with one column, of a field that is called like this. -/
def singleText (field : String) : String :=
  "#[storio_sqlite_type(table=\"t\")]pub struct T\x7b#[storio_sqlite_column(name=\"c\",key)]pub " ++
    field ++ ":i64\x7d"

theorem single_completes {field : String} {check : Output → Bool}
    (checked :
      (processSource .sqlite .standard none (singleText field)).toOption.any check = true) :
    ∃ output, processSource .sqlite .standard none (singleText field) = .ok output ∧
      check output = true :=
  Results.exists_of_any checked

theorem process_outlined_single :
    ∃ output, processSource .sqlite .standard none (singleText "f") = .ok output ∧
      output.types ≠ [] ∧ (∀ unit ∈ output.units, ∃ headlines, unit.ReadsAs headlines) ∧
      ∃ outlines, Reader.outline output.tokens = .ok outlines ∧
        Reader.items output.tokens = .ok (outlines.map (·.item)) := by
  obtain ⟨output, completed, named⟩ :
      ∃ output, processSource .sqlite .standard none (singleText "f") = .ok output ∧
        (!output.types.isEmpty &&
          output.types.all (·.columns.all (·.field != .plain "_"))) = true :=
    single_completes (by decide +kernel)
  obtain ⟨typed, named⟩ : output.types ≠ [] ∧ ∀ model ∈ output.types, model.Named := by
    simpa [TypeModel.Named] using named
  have offered : Backend.sqlite ∈ Backend.all := List.mem_cons_self
  obtain ⟨round, runtime, read, path, plain, processed⟩ := process_of_standard offered completed
  obtain ⟨headlines, each, all⟩ := process_outlined (by
    intro generator member
    obtain ⟨kind, _, rfl⟩ := List.mem_map.mp member
    exact offered) path plain read processed
  obtain ⟨outlines, outlined, items, _⟩ := all named
  refine ⟨output, completed, typed, fun unit member => ?_, outlines, outlined, items⟩
  obtain ⟨model, inTypes, _, _, _, _, _, _, reads, _⟩ := each unit member
  exact ⟨_, reads fun _ => named model inTypes⟩

/-- A text whose field is unnamed is accepted, and what puts or gets the field cannot be read. -/
theorem unnamed_unreadable :
    ∃ output, processSource .sqlite .standard none (singleText "_") = .ok output ∧
      (∃ put ∈ output.units, put.kind = .put) ∧ (∃ get ∈ output.units, get.kind = .get) ∧
      ∀ unit ∈ output.units, unit.kind = .put ∨ unit.kind = .get →
        ∃ fault, Reader.file unit.code = .error fault := by
  obtain ⟨output, completed, unnamed⟩ :
      ∃ output, processSource .sqlite .standard none (singleText "_") = .ok output ∧
        (!output.types.isEmpty &&
          output.types.all (·.columns.any (·.field == .plain "_"))) = true :=
    single_completes (by decide +kernel)
  obtain ⟨typed, unnamed⟩ : output.types ≠ [] ∧
      ∀ model ∈ output.types, ∃ column ∈ model.columns, column.field = .plain "_" := by
    simpa using unnamed
  have offered : Backend.sqlite ∈ Backend.all := List.mem_cons_self
  obtain ⟨round, runtime, read, path, plain, processed⟩ := process_of_standard offered completed
  obtain ⟨model, member⟩ := List.exists_mem_of_ne_nil _ typed
  have generated : ∀ kind, ∃ unit ∈ output.units, unit.kind = kind := by
    intro kind
    have inList : ⟨.sqlite, kind⟩ ∈ Backend.sqlite.generators :=
      List.mem_map_of_mem (by cases kind <;> decide)
    obtain ⟨unit, inside, generated⟩ := unit_of_type processed member inList
    obtain ⟨tokens, _, rfl⟩ := Generator.generate_eq_ok.mp generated
    exact ⟨_, inside, rfl⟩
  refine ⟨output, completed, generated .put, generated .get, fun unit inside used => ?_⟩
  obtain ⟨model, inTypes, generator, inList, written⟩ := (units_of_types processed).1 unit inside
  obtain ⟨kind, _, rfl⟩ := List.mem_map.mp inList
  exact Generator.file_eq_error offered path plain (inField_of_type read processed inTypes) written
    used (unnamed model inTypes)

end Processing

end StorageMapping
