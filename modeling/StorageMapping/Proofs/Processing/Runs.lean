import StorageMapping.Proofs.Processing.Extension
import StorageMapping.Proofs.Processing.Totality

namespace StorageMapping.Processing

/-! # Runs

How every run ends, what a successful run tells of its round, and what becomes of two rounds that
are processed as one. -/

/-- A successful run has one type for every marked declaration, in the order of the declarations,
and every column of the round in exactly one of them. Each type is well formed and has a locator
for every operation. -/
theorem process_types (processor : Processor) (round : Round) (output : Output)
    (offered : processor.backend ∈ Backend.all) (completed : processor.process round = .ok output) :
    ∃ columns, List.Forall₂ (Carries processor.introspect) round.columns columns ∧
      List.Forall₂ (Maps columns) round.marked output.types ∧
      (∀ element ∈ round.columns, ∃! entry, entry ∈ round.marked ∧ entry.1 = element.enclosing) ∧
      (output.types.flatMap (·.columns)).Perm columns ∧
      ∀ model ∈ output.types, model.WellFormed ∧
        ∀ operation, model.locators.resolve operation ≠ "" := by
  obtain ⟨faultless, units, _, _, mapped⟩ := process_eq_ok.mp completed
  refine ⟨carried processor.introspect round.columns, faultless.carried_forall₂, ?_, ?_, ?_, ?_⟩
  · rw [mapped, List.forall₂_map_right_iff, List.forall₂_same]
    exact fun entry member => faultless.maps member
  · intro element member
    obtain ⟨before, sound⟩ := attachable_of_mem faultless.columns member
    obtain ⟨entry, entryMember, owned⟩ := sound.owned
    refine ⟨entry, ⟨entryMember, owned⟩, ?_⟩
    rintro other ⟨otherMember, otherOwned⟩
    exact Round.marked_unique otherMember entryMember (otherOwned.trans owned.symm)
  · have distinct : (round.marked.map (·.1)).Nodup :=
      List.pairwise_map.mpr (round.marked_increasing.imp Nat.ne_of_lt)
    have owned : ∀ column ∈ carried processor.introspect round.columns,
        column.owner ∈ round.marked.map (·.1) := by
      intro column member
      obtain ⟨entry, entryMember, owned⟩ := faultless.owned member
      exact List.mem_map.mpr ⟨entry, entryMember, owned⟩
    have perm := perm_of_owners distinct owned
    rw [List.flatMap_map] at perm
    rw [mapped, List.flatMap_map]
    exact perm
  · rw [mapped, List.forall_mem_map]
    exact fun entry member =>
      ⟨faultless.wellFormed member, faultless.resolve_ne_empty offered member⟩

/-- A field without options that is stored under its own name. -/
def plainElement (owner : Nat) (name type : String) (isKey : Bool) : MarkedElement where
  kind := .field
  name := .plain name
  type := some (.path false [.mk (.plain type) .start none])
  isPrivate := false
  isImmutable := false
  marker := ⟨name, isKey, false⟩
  enclosing := owner
  location := .detached name

/-- Two types and a declaration that is none. Their elements are found in turn. -/
def lendingRound : Round where
  declarations := [
    ⟨"Book", ["library"], .struct, some ⟨"books", "", "", ""⟩, .detached "library::Book"⟩,
    ⟨"Draft", ["library"], .struct, none, .detached "library::Draft"⟩,
    ⟨"Loan", ["library"], .struct, some ⟨"", "lend", "renew", "return"⟩, .detached "library::Loan"⟩]
  columns := [
    plainElement 0 "id" "i64" true,
    plainElement 2 "book" "i64" true,
    plainElement 0 "title" "String" false]

def lendingProcessor : Processor where
  backend := .contentResolver
  introspect := Column.classify
  generators := Backend.contentResolver.generators
  context := ⟨.path false [.mk (.plain "runtime") .start none], true⟩

theorem lending_process_ok {round : Round}
    (faultless : Faultless .contentResolver Column.classify round)
    (named : ∀ declaration ∈ round.declarations, Naming.Nameable declaration.name ∧
      ∀ segment ∈ declaration.modulePath, Naming.Nameable segment) :
    ∃ output, lendingProcessor.process round = .ok output ∧
      output.types = round.marked.map (modelWith (carried Column.classify round.columns)) :=
  Processor.process_ok faultless (by decide) named

theorem lending_completes : ∃ output, lendingProcessor.process lendingRound = .ok output := by
  obtain ⟨output, completed, _⟩ := @lending_process_ok lendingRound
    ⟨by decide, by decide, by decide⟩ (by decide +kernel)
  exact ⟨output, completed⟩

theorem process_types_lending :
    ∃ output columns, lendingProcessor.process lendingRound = .ok output ∧
      List.Forall₂ (Maps columns) lendingRound.marked output.types ∧
      (output.types.flatMap (·.columns)).Perm columns := by
  obtain ⟨output, completed⟩ := lending_completes
  obtain ⟨columns, _, mapped, _, spread, _⟩ := process_types _ _ output (by decide) completed
  exact ⟨output, columns, completed, mapped, spread⟩

end StorageMapping.Processing
