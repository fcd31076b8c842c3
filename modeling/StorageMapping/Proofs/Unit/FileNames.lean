import Mathlib.Data.List.Nodup
import StorageMapping.Processing.Output
import StorageMapping.Proofs.Processing.Outcome
import StorageMapping.Proofs.Results
import StorageMapping.Proofs.Text.SnakeCase

namespace StorageMapping

/-! # Names of files

Whatever a type is called, the file of a unit is an entry of the directory in which it is put. Two
units collide exactly where their files have one name. -/

open Results

namespace UnitNaming

variable {naming : UnitNaming}

end UnitNaming

theorem Generator.generate_eq_ok {generator : Generator} {context : GenerationContext}
    {model : TypeModel} {unit : GeneratedUnit} :
    generator.generate context model = .ok unit ↔
      ∃ tokens, generator.tokens context model = .ok tokens ∧
        unit = {
          kind := generator.kind
          typeName := model.qualifiedName
          unitName := generator.backend.naming.unitName model.name generator.kind
          fileStem := generator.backend.naming.fileStem model.name generator.kind
          tokens := tokens } := by
  rw [generate, bind_eq_ok]
  exact exists_congr fun tokens => and_congr_right fun _ =>
    ⟨fun same => (Except.ok.inj same).symm, fun same => congrArg Except.ok same.symm⟩

/-- Every unit comes from one of the strategies and one of the types. -/
theorem Processor.mem_units {processor : Processor} {round : Round} {output : Output}
    (completed : processor.process round = .ok output) {unit : GeneratedUnit}
    (member : unit ∈ output.units) :
    ∃ model ∈ output.types, ∃ generator ∈ processor.generators,
      generator.generate processor.context model = .ok unit := by
  obtain ⟨_, groups, written, flattened, _⟩ := Processing.process_eq_ok.mp completed
  rw [flattened] at member
  obtain ⟨group, groupMember, inGroup⟩ := List.mem_flatten.mp member
  obtain ⟨model, modelMember, generated⟩ := mem_of_mapM_eq_ok written groupMember
  obtain ⟨generator, generatorMember, made⟩ := mem_of_mapM_eq_ok generated inGroup
  exact ⟨model, modelMember, generator, generatorMember, made⟩

namespace Output

theorem find?_fileName_eq_none {seen : List GeneratedUnit} {name : String} :
    seen.find? (fun earlier => earlier.fileName == name) = none ↔
      ∀ earlier ∈ seen, earlier.fileName ≠ name := by
  simp only [List.find?_eq_none, beq_iff_eq, ne_eq]

/-- A search finds nothing exactly where all names differ, from each other and from those seen. -/
theorem collisionAmong_eq_none {seen units : List GeneratedUnit} :
    collisionAmong seen units = none ↔
      (units.map (·.fileName)).Nodup ∧
        ∀ unit ∈ units, ∀ earlier ∈ seen, earlier.fileName ≠ unit.fileName := by
  induction units generalizing seen with
  | nil => simp [collisionAmong]
  | cons unit rest ih =>
      rw [collisionAmong]
      cases found : seen.find? fun earlier => earlier.fileName == unit.fileName with
      | some earlier =>
          have same := List.find?_some found
          have member := List.mem_of_find?_eq_some found
          simp only [reduceCtorEq, false_iff, not_and]
          intro _ distinct
          exact distinct unit List.mem_cons_self earlier member (eq_of_beq same)
      | none =>
          have unseen := find?_fileName_eq_none.mp found
          simp only [ih, List.map_cons, List.nodup_cons, List.mem_map, List.mem_cons,
            forall_eq_or_imp]
          constructor
          · rintro ⟨distinct, apart⟩
            refine ⟨⟨?_, distinct⟩, unseen, fun other member => (apart other member).2⟩
            rintro ⟨other, member, same⟩
            exact (apart other member).1 same.symm
          · rintro ⟨⟨fresh, distinct⟩, _, apart⟩
            refine ⟨distinct, fun other member => ⟨?_, apart other member⟩⟩
            exact fun same => fresh ⟨other, member, same.symm⟩

theorem collision?_eq_none {output : Output} :
    output.collision? = none ↔ (output.units.map (·.fileName)).Nodup := by
  rw [collision?, collisionAmong_eq_none]
  simp

/-- Among units seen that all differ, at most one has a name, and a search finds it. -/
theorem find?_fileName_eq_some {seen : List GeneratedUnit}
    (distinct : (seen.map (·.fileName)).Nodup) {name : String} {unit : GeneratedUnit} :
    seen.find? (fun earlier => earlier.fileName == name) = some unit ↔
      unit ∈ seen ∧ unit.fileName = name := by
  constructor
  · intro found
    have matching := List.find?_some found
    exact ⟨List.mem_of_find?_eq_some found, eq_of_beq matching⟩
  · rintro ⟨member, rfl⟩
    cases found : seen.find? fun earlier => earlier.fileName == unit.fileName with
    | none => exact absurd rfl (find?_fileName_eq_none.mp found unit member)
    | some other =>
        have otherMember := List.mem_of_find?_eq_some found
        have matching := List.find?_some found
        have same := List.inj_on_of_nodup_map distinct otherMember member (eq_of_beq matching)
        rw [same]

/-- Names seen stay distinct by a unit with another name than all of them. -/
theorem nodup_fileName_cons {seen : List GeneratedUnit} {unit : GeneratedUnit}
    (distinct : (seen.map (·.fileName)).Nodup)
    (unseen : ∀ earlier ∈ seen, earlier.fileName ≠ unit.fileName) :
    ((unit :: seen).map (·.fileName)).Nodup := by
  rw [List.map_cons, List.nodup_cons]
  refine ⟨fun repeated => ?_, distinct⟩
  obtain ⟨earlier, member, same⟩ := List.mem_map.mp repeated
  exact unseen earlier member same

/-- The first unit passed has another name than every unit seen in front of it. -/
theorem unseen_of_nodup {seen front : List GeneratedUnit} {unit : GeneratedUnit}
    (distinct : (((unit :: front).reverse ++ seen).map (·.fileName)).Nodup) :
    ∀ earlier ∈ seen, earlier.fileName ≠ unit.fileName := by
  intro earlier member same
  rw [List.reverse_cons, List.append_assoc, List.map_append, List.nodup_append] at distinct
  have unrepeated := (List.nodup_cons.mp distinct.2.1).1
  exact unrepeated (List.mem_map.mpr ⟨earlier, member, same⟩)

/-- A search stops at the first unit with the name of one that was passed. All names passed by then
differ. -/
theorem collisionAmong_eq_some {seen units : List GeneratedUnit} {earlier later : GeneratedUnit}
    (distinct : (seen.map (·.fileName)).Nodup) :
    collisionAmong seen units = some (earlier, later) ↔
      ∃ front back, units = front ++ later :: back ∧
        ((front.reverse ++ seen).map (·.fileName)).Nodup ∧
        earlier ∈ front.reverse ++ seen ∧ earlier.fileName = later.fileName := by
  -- What is seen grows at the front by the unit passed, and its names stay distinct.
  induction units generalizing seen with
  | nil => simp [collisionAmong]
  | cons unit rest ih =>
      rw [collisionAmong]
      cases found : seen.find? fun earlier => earlier.fileName == unit.fileName with
      | some other =>
          obtain ⟨otherMember, same⟩ := (find?_fileName_eq_some distinct).mp found
          constructor
          · rintro ⟨rfl⟩
            exact ⟨[], rest, rfl, distinct, otherMember, same⟩
          · rintro ⟨front, back, split, allDistinct, member, matching⟩
            cases front with
            | nil =>
                obtain ⟨rfl, rfl⟩ := List.cons.inj split
                have earlierFound := (find?_fileName_eq_some distinct).mpr ⟨member, matching⟩
                rw [found] at earlierFound
                rw [Option.some.inj earlierFound]
            | cons head front =>
                obtain ⟨rfl, _⟩ := List.cons.inj split
                exact absurd same (unseen_of_nodup allDistinct other otherMember)
      | none =>
          have unseen := find?_fileName_eq_none.mp found
          refine (ih (nodup_fileName_cons distinct unseen)).trans ⟨?_, ?_⟩
          · rintro ⟨front, back, rfl, allDistinct, member, matching⟩
            exact ⟨unit :: front, back, rfl, by simpa using allDistinct, by simpa using member,
              matching⟩
          · rintro ⟨front, back, split, allDistinct, member, matching⟩
            cases front with
            | nil =>
                obtain ⟨rfl, rfl⟩ := List.cons.inj split
                exact absurd matching (unseen earlier member)
            | cons head front =>
                obtain ⟨rfl, rfl⟩ := List.cons.inj split
                exact ⟨front, back, rfl, by simpa using allDistinct, by simpa using member,
                  matching⟩

/-- Nothing is found exactly where all names differ. A pair is found exactly where the second unit
of it is the first that repeats a name, and the first is the one unit in front of it that has that
name. -/
theorem collision_exact (output : Output) :
    (output.collision? = none ↔ (output.units.map (·.fileName)).Nodup) ∧
      ∀ earlier later, output.collision? = some (earlier, later) ↔
        ∃ front between back, output.units = front ++ earlier :: between ++ later :: back ∧
          ((front ++ earlier :: between).map (·.fileName)).Nodup ∧
          earlier.fileName = later.fileName := by
  refine ⟨collision?_eq_none, fun earlier later => ?_⟩
  have start : (([] : List GeneratedUnit).map (·.fileName)).Nodup := List.nodup_nil
  rw [collision?, collisionAmong_eq_some start]
  simp only [List.append_nil, List.map_reverse, List.nodup_reverse, List.mem_reverse]
  constructor
  · rintro ⟨passed, back, split, distinct, member, matching⟩
    obtain ⟨front, between, rfl⟩ := List.append_of_mem member
    exact ⟨front, between, back, split, distinct, matching⟩
  · rintro ⟨front, between, back, split, distinct, matching⟩
    exact ⟨front ++ earlier :: between, back, split, distinct, by simp, matching⟩

end Output

end StorageMapping
