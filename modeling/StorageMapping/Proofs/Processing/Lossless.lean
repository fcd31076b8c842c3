import StorageMapping.Proofs.Code.PutGet
import StorageMapping.Proofs.Code.Types
import StorageMapping.Proofs.Processing.Runs

namespace StorageMapping.Processing

/-! # No value is lost

The types of a successful run have what their statements rely on: names that differ, and columns
with room for the values of the declared types. -/

open Code

variable {floats : Floats} {Foreign : Type}

/-- The marked fields of a declaration hold values of their declared types. -/
def Fits (round : Round) (id : Nat) (object : Object floats Foreign) : Prop :=
  ∀ element ∈ round.columns, element.enclosing = id →
    ∃ type, element.type = some type ∧ (object element.name.text).Inhabits type

theorem Faultless.holds {backend : Backend} {round : Round} {entry : Nat × Declaration}
    {object : Object floats Foreign} (faultless : Faultless backend Column.classify round)
    (fits : Fits round entry.1 object) :
    ∀ column ∈ (modelWith (carried Column.classify round.columns) entry).columns,
      column.type.Holds (object column.fieldName) := by
  intro column member
  obtain ⟨columnMember, owner⟩ := List.mem_filter.mp member
  obtain ⟨element, elementMember, carries, _⟩ := faultless.attachable columnMember
  have enclosing : element.enclosing = entry.1 := carries.owner.symm.trans (eq_of_beq owner)
  obtain ⟨type, declared, inhabits⟩ := fits element elementMember enclosing
  obtain ⟨known, knownDeclared, classified⟩ := carries.classified
  have same : type = known := Option.some.inj (declared.symm.trans knownDeclared)
  rw [carries.fieldName]
  exact inhabits.holds (same ▸ classified)

/-- The fields of the columns of a type are those of the elements of its declaration. -/
theorem Faultless.mem_fieldNames {backend : Backend} {introspect : Introspector} {round : Round}
    {entry : Nat × Declaration} (faultless : Faultless backend introspect round) {name : String} :
    name ∈ (modelWith (carried introspect round.columns) entry).columns.map (·.fieldName) ↔
      ∃ element ∈ round.columns, element.enclosing = entry.1 ∧ element.name.text = name := by
  have fields := exists_carried (fun column => column.owner = entry.1 ∧ column.fieldName = name)
    (fun element => element.enclosing = entry.1 ∧ element.name.text = name) faultless.typed
    fun element column carries => by rw [carries.owner, carries.fieldName]
  rw [← fields]
  simp [modelWith, and_assoc]

/-- Put, insert and get give every marked field its value back and leave every other field as it
was. What is not written is absent, and it was to be skipped. -/
theorem process_put_get (floats : Floats) (Foreign : Type) (processor : Processor) (round : Round)
    (output : Output) (introspects : processor.introspect = Column.classify)
    (completed : processor.process round = .ok output) :
    List.Forall₂
      (fun entry model => ∀ object initial : Object floats Foreign, Fits round entry.1 object →
        ∃ values restored,
          valuesOf object (model.contentPuts.map (·.tokens)) = .ok values ∧
          objectOf initial (inserted (model.columns.map (·.storageName)) values)
            (model.cursorReads.map (·.tokens)) = .ok restored ∧
          (∀ element ∈ round.columns, element.enclosing = entry.1 →
            restored element.name.text = object element.name.text) ∧
          (∀ name, (∀ element ∈ round.columns, element.enclosing = entry.1 →
              element.name.text ≠ name) → restored name = initial name) ∧
          ∀ column ∈ model.columns, column.storageName ∉ values.names ↔ column.LeftOut object)
      round.marked output.types := by
  obtain ⟨faultless, _, _, _, mapped⟩ := process_eq_ok.mp completed
  rw [introspects] at faultless mapped
  rw [mapped, List.forall₂_map_right_iff, List.forall₂_same]
  intro entry member object initial fits
  obtain ⟨values, filled, written, read⟩ := put_get initial
    (faultless.wellFormed member).storageNamesDistinct (faultless.holds fits)
  refine ⟨values, _, filled, read, ?_, ?_, written⟩
  · intro element elementMember owned
    exact if_pos (faultless.mem_fieldNames.mpr ⟨element, elementMember, owned, rfl⟩)
  · intro name unmarked
    refine if_neg fun marked => ?_
    obtain ⟨element, elementMember, owned, same⟩ := faultless.mem_fieldNames.mp marked
    exact unmarked element elementMember owned same

/-- A type with a name that can be absent and is then skipped. -/
def memberRound : Round where
  declarations := [
    ⟨"Member", ["library"], .struct, some ⟨"members", "", "", ""⟩, .detached "library::Member"⟩]
  columns := [
    plainElement 0 "id" "i64" true,
    plainElement 0 "active" "bool" false,
    { plainElement 0 "name" "String" false with
      type := some (.path false [.mk (.plain "Option") .start (some
        (.mk false [.type (.path false [.mk (.plain "String") .start none])] false))])
      marker := ⟨"name", false, true⟩ }]

/-- Numbers that are their own wider forms. -/
def plainFloats : Floats := ⟨Int, Int, id, id, fun _ => rfl⟩

def nameless : Object plainFloats Unit
  | "id" => .plain (.int64 7)
  | "active" => .plain (.boolean true)
  | "name" => .optional none
  | _ => .foreign ()

theorem nameless_fits (id : Nat) : Fits memberRound id nameless := by
  intro element member _
  simp only [memberRound, List.mem_cons, List.not_mem_nil, or_false] at member
  rcases member with rfl | rfl | rfl
  · exact ⟨_, rfl, .start, .path rfl⟩
  · exact ⟨_, rfl, .start, .path rfl⟩
  · exact ⟨_, rfl, _, ⟨.start, false, false, .path rfl⟩, fun _ present => nomatch present⟩

set_option maxRecDepth 10000 in
theorem process_put_get_nameless :
    ∃ output, lendingProcessor.process memberRound = .ok output ∧
      List.Forall₂
        (fun _ model => ∃ values restored,
          valuesOf nameless (model.contentPuts.map (·.tokens)) = .ok values ∧
          objectOf (fun _ => .foreign ()) (inserted (model.columns.map (·.storageName)) values)
            (model.cursorReads.map (·.tokens)) = .ok restored ∧
          restored "id" = .plain (.int64 7) ∧ restored "name" = .optional none)
        memberRound.marked output.types := by
  obtain ⟨output, completed⟩ : ∃ output, lendingProcessor.process memberRound = .ok output :=
    ⟨_, rfl⟩
  refine ⟨output, completed, ?_⟩
  have lossless :=
    process_put_get plainFloats Unit lendingProcessor memberRound output rfl completed
  have marked : memberRound.marked = [(0, memberRound.declarations[0])] := rfl
  rw [marked] at lossless ⊢
  generalize output.types = models at lossless ⊢
  cases lossless with
  | cons here others =>
      obtain ⟨values, restored, filled, read, kept, _⟩ := here nameless (fun _ => .foreign ())
        (nameless_fits 0)
      cases others
      refine .cons ⟨values, restored, filled, read, ?_, ?_⟩ .nil
      · exact kept memberRound.columns[0] (List.getElem_mem _) rfl
      · exact kept memberRound.columns[2] (List.getElem_mem _) rfl

end StorageMapping.Processing
