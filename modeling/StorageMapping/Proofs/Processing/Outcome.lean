import StorageMapping.Proofs.Processing.Sound

namespace StorageMapping

/-! # The outcome of a run

A run reports the first fault of its round. A round without one is mapped: its types stand in the
order of their declarations, and each column with its owner. -/

namespace Processor

/-- The output of a run whose types have no fault: their units, unless a name is illegal. -/
def finish (processor : Processor) (types : List TypeModel) : Except RunFailure Output :=
  match types.mapM processor.unitsOf with
  | .error name => .error (.illegalName name)
  | .ok units => .ok ⟨types, units.flatten⟩

theorem process_eq (processor : Processor) (round : Round) :
    processor.process round =
      match Processing.types processor.backend processor.introspect round with
      | .error fault => .error (.diagnostic fault)
      | .ok types => processor.finish types := by
  rw [process]
  cases Processing.types processor.backend processor.introspect round with
  | error fault => rfl
  | ok types =>
      simp only [finish]
      cases types.mapM processor.unitsOf <;> rfl

end Processor

/-- What is relied on where code is generated for a type. -/
structure TypeModel.WellFormed (model : TypeModel) : Prop where
  named : ∀ column ∈ model.columns, column.storageName ≠ ""
  storageNamesDistinct : (model.columns.map (·.storageName)).Nodup
  fieldNamesDistinct : (model.columns.map (·.fieldName)).Nodup
  keyed : ∃ column ∈ model.columns, column.isKey = true
  skipsNoPrimitive : ∀ column ∈ model.columns,
    ¬ (column.ignoresNull = true ∧ column.type.isNonNullablePrimitive = true)

namespace Processing

/-- A type tells of a declaration what the declaration says itself. Its columns are those among the
given ones that the declaration owns, in their order. -/
structure Maps (columns : List Column) (entry : Nat × Declaration) (model : TypeModel) : Prop where
  isStruct : entry.2.kind = .struct
  name : model.name = entry.2.name
  modulePath : model.modulePath = entry.2.modulePath
  locators : entry.2.marker = some model.locators
  location : model.location = entry.2.location
  columns : model.columns = columns.filter fun column => column.owner == entry.1

structure Faultless (backend : Backend) (introspect : Introspector) (round : Round) : Prop where
  declarations : declarationFault? backend round = none
  columns : columnFault? backend introspect round [] round.columns = none
  types : typeFault? backend round = none

variable {backend : Backend} {introspect : Introspector} {round : Round}
  {entry : Nat × Declaration}

theorem types_eq_ok {models : List TypeModel} :
    types backend introspect round = .ok models ↔
      Faultless backend introspect round ∧
        models = round.marked.map (modelWith (carried introspect round.columns)) := by
  rw [types_eq]
  constructor
  · intro completed
    split at completed
    · contradiction
    · contradiction
    · contradiction
    · rename_i declarations columns lacks
      exact ⟨⟨declarations, columns, lacks⟩, (Except.ok.inj completed).symm⟩
  · rintro ⟨⟨declarations, columns, lacks⟩, rfl⟩
    rw [declarations, columns, lacks]

/-- A run ends with an output exactly where its round has no fault and all names are legal. -/
theorem process_eq_ok {processor : Processor} {output : Output} :
    processor.process round = .ok output ↔
      Faultless processor.backend processor.introspect round ∧
        ∃ units, output.types.mapM processor.unitsOf = .ok units ∧ output.units = units.flatten ∧
          output.types =
            round.marked.map (modelWith (carried processor.introspect round.columns)) := by
  rw [Processor.process_eq]
  constructor
  · intro completed
    cases mapped : types processor.backend processor.introspect round with
    | error fault => simp [mapped] at completed
    | ok models =>
        obtain ⟨faultless, same⟩ := types_eq_ok.mp mapped
        simp only [mapped, Processor.finish] at completed
        cases written : models.mapM processor.unitsOf with
        | error name => simp [written] at completed
        | ok units =>
            simp only [written, Except.ok.injEq] at completed
            subst output
            exact ⟨faultless, units, written, rfl, same⟩
  · rintro ⟨faultless, units, written, unitsEq, typesEq⟩
    rw [types_eq_ok.mpr ⟨faultless, typesEq⟩]
    simp only [Processor.finish, written, ← unitsEq]

namespace Faultless

theorem typed (faultless : Faultless backend introspect round) :
    Typed introspect round.columns := by
  have all := typed_of_columnFault? .nil faultless.columns
  rwa [List.nil_append] at all

theorem carried_forall₂ (faultless : Faultless backend introspect round) :
    List.Forall₂ (Carries introspect) round.columns (carried introspect round.columns) :=
  Processing.carried_forall₂ faultless.typed

theorem attachable (faultless : Faultless backend introspect round) {column : Column}
    (member : column ∈ carried introspect round.columns) :
    ∃ element ∈ round.columns, Carries introspect element column ∧
      ∃ before, Attachable introspect round before element := by
  obtain ⟨element, elementMember, known⟩ := List.mem_filterMap.mp member
  exact ⟨element, elementMember, carries_of_carry? known,
    attachable_of_mem faultless.columns elementMember⟩

theorem owned (faultless : Faultless backend introspect round) {column : Column}
    (member : column ∈ carried introspect round.columns) :
    ∃ entry ∈ round.marked, entry.1 = column.owner := by
  obtain ⟨element, _, carries, _, sound⟩ := faultless.attachable member
  rw [carries.owner]
  exact sound.owned

theorem maps (faultless : Faultless backend introspect round) (member : entry ∈ round.marked) :
    Maps (carried introspect round.columns) entry
      (modelWith (carried introspect round.columns) entry) := by
  have isMarked := (Round.mem_marked.mp member).2
  refine ⟨(declarationFault?_eq_none faultless.declarations member).1, rfl, rfl, ?_, rfl, rfl⟩
  obtain ⟨locators, marked⟩ := Option.isSome_iff_exists.mp isMarked
  simp [modelWith, shell, marked]

theorem resolve_ne_empty (faultless : Faultless backend introspect round)
    (offered : backend ∈ Backend.all) (member : entry ∈ round.marked) (operation : Operation) :
    (modelWith (carried introspect round.columns) entry).locators.resolve operation ≠ "" :=
  resolve_of_checked offered (declarationFault?_eq_none faultless.declarations member).2 operation

/-- Columns of one owner differ in both names, since none of their elements rivals another. -/
theorem columns_pairwise (faultless : Faultless backend introspect round) :
    (carried introspect round.columns).Pairwise fun former latter =>
      ¬ Column.Clash former latter := by
  refine (unrivalled_of_columnFault? faultless.columns).filterMap _ ?_
  intro former latter unrivalled first firstKnown second secondKnown clash
  have before := carries_of_carry? firstKnown
  have after := carries_of_carry? secondKnown
  simp only [Column.Clash, before.owner, before.storageName, before.fieldName, after.owner,
    after.storageName, after.fieldName] at clash
  exact unrivalled clash

theorem keyed (faultless : Faultless backend introspect round) (member : entry ∈ round.marked) :
    ∃ column ∈ (modelWith (carried introspect round.columns) entry).columns,
      column.isKey = true := by
  have accepted := List.findSome?_eq_none_iff.mp faultless.types entry member
  rw [Option.map_eq_none_iff, ← lack?_carried faultless.typed] at accepted
  cases keys : (modelWith (carried introspect round.columns) entry).keyColumns with
  | nil =>
      simp only [Shells.lack?, keys, List.isEmpty_nil, if_true] at accepted
      split at accepted <;> contradiction
  | cons column rest =>
      have found : column ∈ (modelWith (carried introspect round.columns) entry).keyColumns := by
        simp [keys]
      exact ⟨column, List.mem_filter.mp found⟩

theorem wellFormed (faultless : Faultless backend introspect round)
    (member : entry ∈ round.marked) :
    (modelWith (carried introspect round.columns) entry).WellFormed := by
  have distinct : (modelWith (carried introspect round.columns) entry).columns.Pairwise
      fun former latter =>
        former.storageName ≠ latter.storageName ∧ former.fieldName ≠ latter.fieldName := by
    -- the columns of a type have the same owner, so they may share neither of their names
    refine (faultless.columns_pairwise.filter _).imp_of_mem ?_
    intro former latter formerMember latterMember unrivalled
    have formerOwner := eq_of_beq (List.mem_filter.mp formerMember).2
    have latterOwner := eq_of_beq (List.mem_filter.mp latterMember).2
    have owners : former.owner = latter.owner := formerOwner.trans latterOwner.symm
    exact ⟨fun same => unrivalled ⟨owners, .inl same⟩, fun same => unrivalled ⟨owners, .inr same⟩⟩
  refine ⟨?_, List.pairwise_map.mpr (distinct.imp And.left),
    List.pairwise_map.mpr (distinct.imp And.right), faultless.keyed member, ?_⟩
  · intro column columnMember
    obtain ⟨element, _, carries, _, sound⟩ :=
      faultless.attachable (List.mem_filter.mp columnMember).1
    rw [carries.storageName]
    exact sound.named
  · intro column columnMember
    obtain ⟨element, _, carries, _, sound⟩ :=
      faultless.attachable (List.mem_filter.mp columnMember).1
    exact sound.skipsNoPrimitive column carries

end Faultless

/-! ## Columns and their owners -/

/-- Columns that are sorted by their owners are the same columns in another order. -/
theorem perm_of_owners {ids : List Nat} (distinct : ids.Nodup) {columns : List Column}
    (owned : ∀ column ∈ columns, column.owner ∈ ids) :
    (ids.flatMap fun id => columns.filter (·.owner == id)).Perm columns := by
  induction ids generalizing columns with
  | nil =>
      have none : columns = [] := List.eq_nil_iff_forall_not_mem.mpr fun column member => by
        simpa using owned column member
      rw [none]
      exact .refl _
  | cons id rest ih =>
      obtain ⟨absent, restDistinct⟩ := List.nodup_cons.mp distinct
      have others : ∀ other ∈ rest, columns.filter (·.owner == other) =
          (columns.filter fun column => !(column.owner == id)).filter (·.owner == other) := by
        intro other member
        rw [List.filter_filter]
        refine List.filter_congr fun column _ => ?_
        have different : other ≠ id := fun same => absent (same ▸ member)
        by_cases here : column.owner = other <;> simp [here, different]
      have following : ∀ column ∈ columns.filter (fun column => !(column.owner == id)),
          column.owner ∈ rest := by
        intro column member
        obtain ⟨columnMember, elsewhere⟩ := List.mem_filter.mp member
        rcases List.mem_cons.mp (owned column columnMember) with here | later
        · simp [here] at elsewhere
        · exact later
      -- the columns of the first owner go to the front, and the rest has one owner less
      rw [List.flatMap_cons, List.flatMap_congr others]
      exact ((ih restDistinct following).append_left _).trans (List.filter_append_perm _ columns)

end Processing

end StorageMapping
