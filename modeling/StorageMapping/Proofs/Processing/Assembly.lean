import StorageMapping.Proofs.Processing.Store
import StorageMapping.Proofs.Round.Numbering

namespace StorageMapping

/-! # Types with their columns

Columns come one after the other, and those of different owners may alternate. Attaching them gives
every declaration the columns that it owns, in the order in which they came. -/

/-- Two columns that cannot both be attached. -/
def Column.Clash (earlier later : Column) : Prop :=
  earlier.owner = later.owner ∧
    (earlier.storageName = later.storageName ∨ earlier.fieldName = later.fieldName)

instance (earlier later : Column) : Decidable (Column.Clash earlier later) :=
  inferInstanceAs (Decidable (_ ∧ _))

namespace Processing

/-- The type of a declaration, without its columns. -/
def shell (declaration : Declaration) : TypeModel :=
  ⟨declaration.name, declaration.modulePath, declaration.marker.getD .empty, [],
    declaration.location⟩

/-- The type of a numbered declaration, with the columns that it owns. -/
def modelWith (columns : List Column) (entry : Nat × Declaration) : TypeModel :=
  { shell entry.2 with columns := columns.filter (·.owner == entry.1) }

def assemble (entries : List (Nat × Declaration)) (columns : List Column) : Shells :=
  entries.map fun entry => (entry.1, modelWith columns entry)

variable {entries : List (Nat × Declaration)} {columns : List Column} {column : Column}
  {entry : Nat × Declaration}

theorem assemble_increasing (increasing : entries.Pairwise fun left right => left.1 < right.1) :
    (assemble entries columns).Increasing :=
  List.pairwise_map.mpr increasing

theorem get?_assemble (increasing : entries.Pairwise fun left right => left.1 < right.1)
    (member : entry ∈ entries) :
    (assemble entries columns).get? entry.1 = some (modelWith columns entry) := by
  induction entries with
  | nil => simp at member
  | cons head rest ih =>
      obtain ⟨later, ordered⟩ := List.pairwise_cons.mp increasing
      simp only [assemble, List.map_cons, Shells.get?_cons]
      rcases List.mem_cons.mp member with rfl | following
      · simp
      · rw [if_neg (Nat.ne_of_lt (later entry following))]
        exact ih ordered following

theorem get?_assemble_eq_none {id : Nat} :
    (assemble entries columns).get? id = none ↔ ∀ entry ∈ entries, entry.1 ≠ id := by
  rw [Shells.get?_eq_none, assemble, List.forall_mem_map]

theorem isTaken_modelWith :
    Shells.isTaken (modelWith columns entry) column = true ↔
      ∃ earlier ∈ columns, earlier.owner = entry.1 ∧
        (earlier.storageName = column.storageName ∨ earlier.fieldName = column.fieldName) := by
  simp [Shells.isTaken, modelWith]

/-- One more column reaches its owner and leaves all other types as they were. -/
theorem modelWith_append_self (owned : entry.1 = column.owner) :
    modelWith (columns ++ [column]) entry =
      { modelWith columns entry with
        columns := (modelWith columns entry).columns ++ [column] } := by
  simp [modelWith, List.filter_append, owned]

theorem modelWith_append_other (different : entry.1 ≠ column.owner) :
    modelWith (columns ++ [column]) entry = modelWith columns entry := by
  have unowned : column.owner ≠ entry.1 := Ne.symm different
  simp [modelWith, List.filter_append, unowned]

theorem insert_assemble (increasing : entries.Pairwise fun left right => left.1 < right.1)
    (member : entry ∈ entries) (owned : entry.1 = column.owner) :
    (assemble entries columns).insert column.owner
        { modelWith columns entry with columns := (modelWith columns entry).columns ++ [column] } =
      assemble entries (columns ++ [column]) := by
  rw [Shells.insert_present (assemble_increasing increasing)
    (owned ▸ get?_assemble increasing member)]
  simp only [assemble, List.map_map]
  refine List.map_congr_left fun other otherMember => ?_
  by_cases same : other.1 = column.owner
  · have models : modelWith columns other = modelWith columns entry := by
      have found : (assemble entries columns).get? other.1 = some (modelWith columns other) :=
        get?_assemble increasing otherMember
      rw [same, ← owned, get?_assemble increasing member] at found
      exact (Option.some.inj found).symm
    simp only [Function.comp, modelWith_append_self same, models, same, if_true]
  · simp only [Function.comp, if_neg same, modelWith_append_other same]

/-- Attaching needs an owner and no clash; nothing else can stop it. -/
theorem attach_assemble (columns : List Column) (column : Column)
    (increasing : entries.Pairwise fun left right => left.1 < right.1) :
    (assemble entries columns).attach column =
      if ∀ entry ∈ entries, entry.1 ≠ column.owner then .error .orphan
      else if ∃ earlier ∈ columns, Column.Clash earlier column then
        .error (.duplicate column.storageName)
      else .ok (assemble entries (columns ++ [column])) := by
  by_cases absent : ∀ entry ∈ entries, entry.1 ≠ column.owner
  · rw [if_pos absent]
    simp only [Shells.attach, get?_assemble_eq_none.mpr absent]
    rfl
  · rw [if_neg absent]
    obtain ⟨entry, member, owned⟩ : ∃ entry ∈ entries, entry.1 = column.owner := by
      simpa using absent
    have found : (assemble entries columns).get? column.owner = some (modelWith columns entry) :=
      owned ▸ get?_assemble increasing member
    have taken : Shells.isTaken (modelWith columns entry) column = true ↔
        ∃ earlier ∈ columns, Column.Clash earlier column := by
      rw [isTaken_modelWith, owned]
      rfl
    simp only [Shells.attach, found, taken]
    split
    · rfl
    · rw [insert_assemble increasing member owned]
      rfl

end Processing

end StorageMapping
