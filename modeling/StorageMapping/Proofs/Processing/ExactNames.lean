import StorageMapping.Proofs.Processing.Derived
import StorageMapping.Proofs.Processing.Lookups

namespace StorageMapping

/-! # Lookups by qualified names

A lookup takes a text for a qualified and for a simple name at once, and finds the first type that
has it. So the qualified name of a type finds another type where one in front of it has that text
for its simple name, which only the name of a type outside of all modules can be. -/

open Source Results

/-! ## Pieces behind double colons -/

namespace Output

theorem lastPieceReversed_unbroken {piece rest : List Char}
    (unbroken : ¬ [':', ':'] <:+: piece)
    (apart : piece.head? = some ':' → rest.head? ≠ some ':') :
    ¬ [':', ':'] <:+: lastPiece.lastPieceReversed piece rest := by
  fun_induction lastPiece.lastPieceReversed piece rest with
  | case1 => exact unbroken
  | case2 piece c rest single ih =>
      apply ih
      · rw [List.infix_cons_iff]
        rintro (front | later)
        · obtain ⟨rfl, last⟩ := List.cons_prefix_cons.mp front
          obtain ⟨_, rfl⟩ := last
          exact apart rfl rfl
        · exact unbroken later
      · intro colon next
        obtain ⟨others, rfl⟩ := List.head?_eq_some_iff.mp next
        exact single others (Option.some.inj colon) rfl
  | case3 => exact unbroken

/-- What stands behind the last double colon has none. -/
theorem lastPiece_unbroken (name : String) : ¬ [':', ':'] <:+: (lastPiece name).toList := by
  rw [lastPiece, String.toList_ofList]
  exact lastPieceReversed_unbroken (by simp) (by simp)

/-- The qualified name of a type in a module is no last piece. -/
theorem lastPiece_ne_qualify (other : String) {path : List String} (inModule : path ≠ [])
    (name : String) : lastPiece other ≠ Text.qualify path name := by
  intro same
  have unbroken := lastPiece_unbroken other
  rw [same, Text.qualify, if_neg (by simpa using inModule), String.toList_append,
    String.toList_append] at unbroken
  exact unbroken ⟨_, _, rfl⟩

end Output

/-! ## The first type of a name -/

namespace Processing

/-- An element that passes a check is the first one just where none in front of it passes. -/
theorem find?_eq_front {α : Type} {check : α → Bool} {before behind : List α} {x : α}
    (passes : check x = true) (apart : x ∉ before) :
    (before ++ x :: behind).find? check = some x ↔ ∀ y ∈ before, check y = false := by
  rw [List.find?_append]
  constructor
  · intro first y member
    cases found : before.find? check with
    | none => simpa using List.find?_eq_none.mp found y member
    | some z =>
        rw [found] at first
        cases first
        exact absurd (List.mem_of_find?_eq_some found) apart
  · intro fails
    rw [List.find?_eq_none.mpr (by simpa using fails), List.find?_cons_of_pos passes]
    rfl

end Processing

/-- Are the units of a type meant by a name? -/
def TypeModel.isAddressed (name : String) (model : TypeModel) : Bool :=
  model.qualifiedName == name || Output.lastPiece model.qualifiedName == name

namespace Processor

variable {processor : Processor} {models : List TypeModel} {groups : List (List GeneratedUnit)}
  {backend : Backend} {kind : UnitKind}

/-- Generators of several kinds make one unit of each. -/
theorem find?_generated {context : GenerationContext} {model : TypeModel} {kinds : List UnitKind}
    (inList : kind ∈ kinds) {units : List GeneratedUnit}
    (made : (kinds.map (Generator.mk backend)).mapM (·.generate context model) = .ok units) :
    ∃ unit, Generator.generate ⟨backend, kind⟩ context model = .ok unit ∧
      units.find? (·.kind == kind) = some unit := by
  induction kinds generalizing units with
  | nil => exact absurd inList List.not_mem_nil
  | cons first rest ih =>
      cases mapM_eq_ok.mp made with
      | @cons _ unit _ others here later =>
          obtain ⟨_, _, held⟩ := Generator.generate_eq_ok.mp here
          have ofKind : unit.kind = first := congrArg GeneratedUnit.kind held
          by_cases same : first = kind
          · subst same
            exact ⟨unit, here, List.find?_cons_of_pos (by simp [ofKind])⟩
          · have inRest := (List.mem_cons.mp inList).resolve_left (Ne.symm same)
            rw [List.find?_cons_of_neg (by simp [ofKind, same])]
            exact ih inRest (mapM_eq_ok.mpr later)

/-- Of the units of a type, one is of each kind. -/
theorem find?_unitsOf {model : TypeModel} {units : List GeneratedUnit}
    (strategies : processor.generators = backend.generators)
    (written : processor.unitsOf model = .ok units) (kind : UnitKind) :
    ∃ unit, Generator.generate ⟨backend, kind⟩ processor.context model = .ok unit ∧
      units.find? (·.kind == kind) = some unit := by
  rw [unitsOf, strategies] at written
  exact find?_generated (by cases kind <;> decide : kind ∈ UnitKind.all) written

/-- The unit of a name and a kind is the one of the first type whose units are meant. -/
theorem find?_units (strategies : processor.generators = backend.generators)
    (written : models.mapM processor.unitsOf = .ok groups) (name : String) (kind : UnitKind) :
    (groups.flatten.filter (Output.isNamed name)).find? (·.kind == kind) =
      (models.find? (·.isAddressed name)).bind fun model =>
        (Generator.generate ⟨backend, kind⟩ processor.context model).toOption := by
  rw [mapM_eq_ok] at written
  induction written with
  | nil => rfl
  | @cons model group models groups here _ ih =>
      have whole : ∀ unit ∈ group, Output.isNamed name unit = model.isAddressed name := by
        intro unit member
        obtain ⟨_, _, made⟩ := mem_of_mapM_eq_ok here member
        obtain ⟨_, _, rfl⟩ := Generator.generate_eq_ok.mp made
        rfl
      rw [List.flatten_cons, List.filter_append, List.find?_append, ih]
      cases addressed : model.isAddressed name with
      | true =>
          obtain ⟨unit, made, found⟩ := find?_unitsOf strategies here kind
          rw [List.filter_eq_self.mpr fun unit member => (whole unit member).trans addressed,
            List.find?_cons_of_pos addressed, found]
          simp [made, Except.toOption]
      | false =>
          rw [List.filter_eq_nil_iff.mpr fun unit member => by simp [whole unit member, addressed],
            List.find?_cons_of_neg (by simp [addressed])]
          rfl

end Processor

namespace Processing

variable {processor : Processor} {round : Round} {output : Output} {model : TypeModel}
  {before behind : List TypeModel}

theorem unit?_eq (strategies : processor.generators = processor.backend.generators)
    (completed : processor.process round = .ok output) (name : String) (kind : UnitKind) :
    output.unit? name kind = (output.types.find? (·.isAddressed name)).bind fun model =>
      (Generator.generate ⟨processor.backend, kind⟩ processor.context model).toOption := by
  obtain ⟨_, groups, written, flattened, _⟩ := process_eq_ok.mp completed
  rw [Output.unit?, Output.unitsFor, flattened]
  exact Processor.find?_units strategies written name kind

/-- A name without colons is a qualified name only outside of all modules. -/
theorem eq_qualify_iff {path : List String} {name other : String} (unbroken : ':' ∉ other.toList) :
    other = Text.qualify path name ↔ path = [] ∧ other = name := by
  cases path with
  | nil => simp [Text.qualify]
  | cons first rest =>
      simp only [reduceCtorEq, false_and, iff_false]
      rintro rfl
      apply unbroken
      rw [Text.qualify, if_neg (by simp), String.toList_append, String.toList_append]
      simp

/-- Among types of other qualified names, a type is found by its own just where no type in front has
that text for its simple name. -/
theorem type?_qualifiedName (split : output.types = before ++ model :: behind)
    (sole : ∀ other ∈ before ++ behind, other.qualifiedName ≠ model.qualifiedName) :
    output.type? model.qualifiedName = some model ↔
      ∀ earlier ∈ before, earlier.name ≠ model.qualifiedName := by
  have apart : model ∉ before := fun member => sole model (List.mem_append_left _ member) rfl
  rw [Output.type?, split, find?_eq_front (by simp) apart]
  refine forall₂_congr fun earlier member => ?_
  simp [sole earlier (List.mem_append_left _ member)]

/-- Its units are found just where no type in front has the text behind the last double colon of its
qualified name. -/
theorem unit?_qualifiedName (strategies : processor.generators = processor.backend.generators)
    (completed : processor.process round = .ok output)
    (split : output.types = before ++ model :: behind)
    (sole : ∀ other ∈ before ++ behind, other.qualifiedName ≠ model.qualifiedName)
    {kind : UnitKind} {unit : GeneratedUnit}
    (made : Generator.generate ⟨processor.backend, kind⟩ processor.context model = .ok unit) :
    output.unit? model.qualifiedName kind = some unit ↔
      ∀ earlier ∈ before, Output.lastPiece earlier.qualifiedName ≠ model.qualifiedName := by
  have apart : model ∉ before := fun member => sole model (List.mem_append_left _ member) rfl
  have first : output.unit? model.qualifiedName kind = some unit ↔
      output.types.find? (·.isAddressed model.qualifiedName) = some model := by
    rw [unit?_eq strategies completed, Option.bind_eq_some_iff]
    constructor
    · rintro ⟨found, here, written⟩
      -- a unit tells the qualified name of its type, and no other type has this one
      obtain ⟨_, _, known⟩ := Generator.generate_eq_ok.mp (toOption_eq_some.mp written)
      obtain ⟨_, _, held⟩ := Generator.generate_eq_ok.mp made
      have same : found.qualifiedName = model.qualifiedName := by
        rw [known] at held
        exact congrArg GeneratedUnit.typeName held
      have member := List.mem_of_find?_eq_some here
      rw [split, List.mem_append, List.mem_cons] at member
      rcases member with front | rfl | back
      · exact absurd same (sole found (List.mem_append_left _ front))
      · exact here
      · exact absurd same (sole found (List.mem_append_right _ back))
    · intro here
      exact ⟨model, here, toOption_eq_some.mpr made⟩
  rw [first, split, find?_eq_front (by simp [TypeModel.isAddressed]) apart]
  refine forall₂_congr fun earlier member => ?_
  simp [TypeModel.isAddressed, sole earlier (List.mem_append_left _ member)]

/-- In a round that was read, only a type outside of all modules can have its qualified name for the
simple name of another type. -/
theorem simpleNames_apart (read : round.Read) (completed : processor.process round = .ok output)
    (split : output.types = before ++ model :: behind) :
    (∀ earlier ∈ before, Output.lastPiece earlier.qualifiedName = earlier.name) ∧
      ((∀ earlier ∈ before, earlier.name ≠ model.qualifiedName) ↔
        model.modulePath ≠ [] ∨ ∀ earlier ∈ before, earlier.name ≠ model.name) := by
  have unbroken : ∀ earlier ∈ before, ':' ∉ earlier.name.toList := fun earlier member =>
    unbroken_of_types read completed earlier (split ▸ List.mem_append_left _ member)
  refine ⟨fun earlier member => Output.lastPiece_qualify _ (unbroken earlier member), ?_⟩
  have each : ∀ earlier ∈ before, (earlier.name ≠ model.qualifiedName ↔
      model.modulePath ≠ [] ∨ earlier.name ≠ model.name) := fun earlier member => by
    rw [TypeModel.qualifiedName, Ne, eq_qualify_iff (unbroken earlier member), not_and_or]
  rw [forall₂_congr each]
  by_cases inModule : model.modulePath = [] <;> simp [inModule]

/-- The lookup of a type by its qualified name finds it just where no type in front has that text
for its simple name. The lookup of a unit finds that of the type just where no type in front has the
text behind the last double colon of its qualified name; this is always so for a type in a module.
In a round that was read, either finds what is asked for just where the type stands in a module or
no type in front has its simple name. -/
theorem exactName_found (strategies : processor.generators = processor.backend.generators)
    (completed : processor.process round = .ok output)
    (split : output.types = before ++ model :: behind)
    (sole : ∀ other ∈ before ++ behind, other.qualifiedName ≠ model.qualifiedName) :
    (output.type? model.qualifiedName = some model ↔
      ∀ earlier ∈ before, earlier.name ≠ model.qualifiedName) ∧
    (round.Read → (output.type? model.qualifiedName = some model ↔
      model.modulePath ≠ [] ∨ ∀ earlier ∈ before, earlier.name ≠ model.name)) ∧
    ∀ kind, ∃ unit ∈ output.units, unit.kind = kind ∧
      Generator.generate ⟨processor.backend, kind⟩ processor.context model = .ok unit ∧
      (output.unit? model.qualifiedName kind = some unit ↔
        ∀ earlier ∈ before, Output.lastPiece earlier.qualifiedName ≠ model.qualifiedName) ∧
      (model.modulePath ≠ [] → output.unit? model.qualifiedName kind = some unit) ∧
      (round.Read → (output.unit? model.qualifiedName kind = some unit ↔
        model.modulePath ≠ [] ∨ ∀ earlier ∈ before, earlier.name ≠ model.name)) := by
  have typeFound := type?_qualifiedName split sole
  refine ⟨typeFound, fun read => typeFound.trans (simpleNames_apart read completed split).2,
    fun kind => ?_⟩
  have offered : (⟨processor.backend, kind⟩ : Generator) ∈ processor.generators := by
    rw [strategies]
    exact List.mem_map.mpr ⟨kind, by cases kind <;> decide, rfl⟩
  have inTypes : model ∈ output.types := split ▸ List.mem_append_right _ List.mem_cons_self
  obtain ⟨unit, inUnits, made⟩ := unit_of_type completed inTypes offered
  obtain ⟨_, _, held⟩ := Generator.generate_eq_ok.mp made
  have unitFound := unit?_qualifiedName strategies completed split sole made
  refine ⟨unit, inUnits, congrArg GeneratedUnit.kind held, made, unitFound, fun inModule => ?_,
    fun read => ?_⟩
  · exact unitFound.mpr fun earlier _ =>
      Output.lastPiece_ne_qualify earlier.qualifiedName inModule model.name
  · obtain ⟨pieces, names⟩ := simpleNames_apart read completed split
    rw [unitFound, ← names]
    exact forall₂_congr fun earlier member => by rw [pieces earlier member]

/-- A type outside of all modules. -/
def outerBook : Declaration :=
  ⟨"Book", [], .struct, some ⟨"books", "", "", ""⟩, .detached "Book"⟩

/-- A type of the same name in a module. -/
def innerBook : Declaration :=
  ⟨"Book", ["library"], .struct, some ⟨"copies", "", "", ""⟩, .detached "library::Book"⟩

def twinRound : Round where
  declarations := [outerBook, innerBook]
  columns := [plainElement 0 "id" "i64" true, plainElement 1 "id" "i64" true]

theorem exactName_found_twin :
    ∃ output first second, lendingProcessor.process twinRound = .ok output ∧
      output.types = [first, second] ∧ first.name = second.name ∧
      output.type? second.qualifiedName = some second ∧
      ∀ kind, ∃ unit ∈ output.units, unit.kind = kind ∧ unit.typeName = second.qualifiedName ∧
        output.unit? second.qualifiedName kind = some unit := by
  obtain ⟨output, completed, types⟩ := @lending_process_ok twinRound
    ⟨by decide, by decide, by decide⟩ (by decide +kernel)
  have split : output.types =
      [modelWith (carried Column.classify twinRound.columns) (0, outerBook)] ++
        modelWith (carried Column.classify twinRound.columns) (1, innerBook) :: [] := types
  obtain ⟨typeFound, -, units⟩ := exactName_found rfl completed split (by decide)
  refine ⟨output, _, _, completed, split, rfl, typeFound.mpr (by decide), fun kind => ?_⟩
  obtain ⟨unit, inUnits, ofKind, generated, -, found, -⟩ := units kind
  obtain ⟨_, _, held⟩ := Generator.generate_eq_ok.mp generated
  exact ⟨unit, inUnits, ofKind, congrArg GeneratedUnit.typeName held, found (by decide)⟩

/-- A mapped struct inside a module, and once more outside. -/
def shadowingText : String :=
  "mod a\x7b" ++ Backend.sqlite.leastText ++ "\x7d" ++ Backend.sqlite.leastText

/-- The qualified name of the struct outside finds the one inside the module, and all its units. -/
theorem exactName_shadowed :
    ∃ output first second,
      processSource .sqlite rootless none shadowingText = .ok output ∧
        output.types = [first, second] ∧ first.qualifiedName ≠ second.qualifiedName ∧
        (output.type? second.qualifiedName).map (·.qualifiedName) = some first.qualifiedName ∧
        ∀ kind, (output.unit? second.qualifiedName kind).map (·.typeName) =
          some first.qualifiedName := by
  have mapped : (processSource .sqlite rootless none
      shadowingText).toOption.any (fun output =>
        output.types.map (·.qualifiedName) == ["a::T", "T"] &&
          (output.type? "T").map (·.qualifiedName) == some "a::T" &&
          UnitKind.all.all fun kind =>
            (output.unit? "T" kind).map (·.typeName) == some "a::T") = true := by
    decide +kernel
  obtain ⟨output, completed, found⟩ := exists_of_any mapped
  simp only [Bool.and_eq_true, beq_iff_eq, List.all_eq_true] at found
  obtain ⟨⟨listed, typeFound⟩, unitsFound⟩ := found
  obtain ⟨first, _, types, front, listed⟩ := List.map_eq_cons_iff.mp listed
  obtain ⟨second, rfl, back⟩ := List.map_eq_singleton_iff.mp listed
  refine ⟨output, first, second, completed, types, ?_, ?_, fun kind => ?_⟩
  · rw [front, back]
    decide
  · rw [front, back]
    exact typeFound
  · rw [front, back]
    exact unitsFound kind (by cases kind <;> decide)

end Processing

end StorageMapping
