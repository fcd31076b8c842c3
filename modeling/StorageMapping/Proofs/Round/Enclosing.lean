import StorageMapping.Proofs.Round.Composition
import StorageMapping.Proofs.Round.Records

namespace StorageMapping

/-! # Enclosing declarations

A round that was read, and every round that is put together from such rounds, has each column in a
declaration: they stand in the order of their declarations, and where each one was found begins
with the name of its declaration. -/

open Source Results

namespace Round

/-- Rounds that come from items, from a definition or from a snapshot, and those put together from
them. -/
inductive Found : Round → Prop
  | items {scope path items round} (scanned : Discovery.ofItems scope path items = .ok round) :
      Found round
  | definition {scope path item round}
      (scanned : Discovery.ofDefinition scope path item = .ok round) : Found round
  | snapshot {snapshot : Snapshot} {markers round}
      (read : snapshot.toRound markers = .ok round) : Found round
  | extend {front back} (first : Found front) (second : Found back) : Found (front.extend back)

/-- Does the place of an element begin with the name of a declaration? -/
def StandsIn (declaration : Declaration) (element : MarkedElement) : Prop :=
  ∃ inner, element.location.element = declaration.qualifiedName ++ "::" ++ inner

/-- What is relied on where a column is looked up by the number of its declaration. -/
structure Enclosed (round : Round) : Prop where
  bounded : ∀ element ∈ round.columns, element.enclosing < round.declarations.length
  ordered : (round.columns.map (·.enclosing)).Pairwise (· ≤ ·)
  occupied : ∀ id declaration, round.declaration? id = some declaration →
    declaration.marker = none → ∃ element ∈ round.columns, element.enclosing = id
  placed : ∀ element ∈ round.columns, ∃ declaration,
    round.declaration? element.enclosing = some declaration ∧ StandsIn declaration element

theorem Enclosed.empty : Enclosed .empty where
  bounded := by simp [Round.empty]
  ordered := by simp [Round.empty]
  occupied := by simp [Round.empty, declaration?]
  placed := by simp [Round.empty]

theorem Enclosed.single {declaration : Declaration} {columns : List MarkedElement}
    (first : ∀ element ∈ columns, element.enclosing = 0)
    (inside : ∀ element ∈ columns, StandsIn declaration element) :
    Enclosed (single declaration columns) := by
  rw [Round.single]
  split
  · exact .empty
  · rename_i kept
    refine ⟨?_, ?_, ?_, ?_⟩
    · intro element member
      simp [first element member]
    · rw [List.pairwise_map]
      refine List.pairwise_of_forall_mem_list fun element member other otherMember => ?_
      exact Nat.le_of_eq ((first element member).trans (first other otherMember).symm)
    · intro id found here unmarked
      obtain ⟨bound, same⟩ := List.getElem?_eq_some_iff.mp here
      have only : id = 0 := by simpa using bound
      subst only
      have unmarked : declaration.marker = none := (congrArg (·.marker) same).trans unmarked
      have held : columns ≠ [] := fun missing => kept ⟨unmarked, missing⟩
      obtain ⟨element, member⟩ := List.exists_mem_of_ne_nil columns held
      exact ⟨element, member, first element member⟩
    · intro element member
      exact ⟨declaration, by simp [declaration?, first element member], inside element member⟩

theorem mem_extend_columns {front back : Round} {element : MarkedElement} :
    element ∈ (front.extend back).columns ↔
      element ∈ front.columns ∨ ∃ inner ∈ back.columns,
        { inner with enclosing := inner.enclosing + front.declarations.length } = element := by
  rw [Round.extend, List.mem_append, List.mem_map]

/-- The numbers of the round behind begin where those in front end. -/
theorem Enclosed.extend_ordered {front back : Round} (first : Enclosed front)
    (second : Enclosed back) :
    ((front.extend back).columns.map (·.enclosing)).Pairwise (· ≤ ·) := by
  have numbers : (front.extend back).columns.map (·.enclosing) =
      front.columns.map (·.enclosing) ++
        (back.columns.map (·.enclosing)).map (· + front.declarations.length) := by
    simp [Round.extend, Function.comp_def]
  rw [numbers, List.pairwise_append]
  refine ⟨first.ordered, ?_, ?_⟩
  · exact second.ordered.map _ fun left right below => Nat.add_le_add_right below _
  · intro number member other otherMember
    obtain ⟨element, before, rfl⟩ := List.mem_map.mp member
    obtain ⟨inner, _, rfl⟩ := List.mem_map.mp otherMember
    have bound := first.bounded element before
    omega

theorem Enclosed.extend {front back : Round} (first : Enclosed front) (second : Enclosed back) :
    Enclosed (front.extend back) where
  bounded element member := by
    have length : (front.extend back).declarations.length =
        front.declarations.length + back.declarations.length := List.length_append
    rcases mem_extend_columns.mp member with before | ⟨inner, after, rfl⟩
    · have bound := first.bounded element before
      omega
    · have bound := second.bounded inner after
      simp only
      omega
  ordered := first.extend_ordered second
  occupied id declaration here unmarked := by
    by_cases bound : id < front.declarations.length
    · rw [declaration?_extend_front front back bound] at here
      obtain ⟨element, before, same⟩ := first.occupied id declaration here unmarked
      exact ⟨element, mem_extend_columns.mpr (.inl before), same⟩
    · obtain ⟨inner, rfl⟩ := Nat.exists_eq_add_of_le' (Nat.le_of_not_lt bound)
      rw [declaration?_extend_back] at here
      obtain ⟨element, after, rfl⟩ := second.occupied inner declaration here unmarked
      exact ⟨_, mem_extend_columns.mpr (.inr ⟨element, after, rfl⟩), rfl⟩
  placed element member := by
    rcases mem_extend_columns.mp member with before | ⟨inner, after, rfl⟩
    · obtain ⟨declaration, here, stands⟩ := first.placed element before
      refine ⟨declaration, ?_, stands⟩
      rw [declaration?_extend_front front back (first.bounded element before), here]
    · obtain ⟨declaration, here, stands⟩ := second.placed inner after
      refine ⟨declaration, ?_, stands⟩
      rw [declaration?_extend_back, here]

end Round

open Round

namespace Discovery

variable {scope : Scope} {path : List String} {round : Round}

theorem element_enclosed {qualified : String} {number : Nat} {member : Member} {attr : Attribute}
    {found : MarkedElement} (read : element scope qualified number member attr = .ok found) :
    found.enclosing = 0 ∧ ∃ inner, found.location.element = qualified ++ "::" ++ inner := by
  obtain ⟨_, _, _, _, _, rfl⟩ := element_eq_ok.mp read
  exact ⟨rfl, _, rfl⟩

theorem elements_enclosed {qualified : String} {number : Nat} {marked : List (Member × Attribute)}
    {columns : List MarkedElement} (read : elements scope qualified number marked = .ok columns) :
    ∀ found ∈ columns, found.enclosing = 0 ∧
      ∃ inner, found.location.element = qualified ++ "::" ++ inner := by
  induction marked generalizing number columns with
  | nil =>
      cases read
      exact fun _ member => absurd member List.not_mem_nil
  | cons entry rest ih =>
      obtain ⟨first, others, here, later, rfl⟩ := elements_cons_eq_ok.mp read
      exact List.forall_mem_cons.mpr ⟨element_enclosed here, ih later⟩

theorem record_enclosed {kind : DeclarationKind} {name : Identifier} {position : Position}
    {attributes : List Attribute} {members : List Member}
    (recorded : record scope path kind name position attributes members = .ok round) :
    round.Enclosed := by
  obtain ⟨_, _, _, read, rfl⟩ := record_eq_ok.mp recorded
  have enclosed := elements_enclosed read
  exact .single (fun element member => (enclosed element member).1)
    fun element member => (enclosed element member).2

mutual

theorem ofItem_enclosed : ∀ (item : Item) {path : List String} {round : Round},
    ofItem scope path item = .ok round → round.Enclosed
  | .module name (some contents), path, round, scanned => by
      rw [ofItem] at scanned
      exact ofItems_enclosed contents scanned
  | .module name none, path, round, scanned => by
      rw [ofItem] at scanned
      cases scanned
      exact .empty
  | .data item, path, round, scanned => by
      rw [ofItem] at scanned
      exact record_enclosed scanned
  | .trait attributes name position members, path, round, scanned => by
      rw [ofItem] at scanned
      exact record_enclosed scanned
  | .implementation selfType members, path, round, scanned => by
      rw [ofItem, ofImplementation] at scanned
      split at scanned
      · exact record_enclosed scanned
      · cases scanned
        exact .empty
  | .other, path, round, scanned => by
      rw [ofItem] at scanned
      cases scanned
      exact .empty

theorem ofItems_enclosed : ∀ (items : List Item) {path : List String} {round : Round},
    ofItems scope path items = .ok round → round.Enclosed
  | [], path, round, scanned => by
      rw [ofItems] at scanned
      cases scanned
      exact .empty
  | item :: rest, path, round, scanned => by
      rw [ofItems_cons] at scanned
      obtain ⟨first, others, here, later, rfl⟩ := joined_eq_ok.mp scanned
      exact (ofItem_enclosed item here).extend (ofItems_enclosed rest later)

end

end Discovery

namespace Snapshot

variable {markers : MarkerSet} {round : Round}

theorem element_enclosed {qualified : String} {member : Member} {marker : ColumnMarker}
    {found : MarkedElement} (read : element qualified member marker = .ok found) :
    found.enclosing = 0 ∧ ∃ inner, found.location.element = qualified ++ "::" ++ inner := by
  rw [element] at read
  obtain ⟨name, _, read⟩ := bind_eq_ok.mp read
  split at read
  all_goals
    obtain ⟨type, _, same⟩ := bind_eq_ok.mp read
    cases same
    exact ⟨rfl, _, rfl⟩

theorem entryRound_enclosed {entry : Entry} (read : entryRound markers entry = .ok round) :
    round.Enclosed := by
  obtain ⟨_, modulePath, name, _, columns, _, _, stored, rfl⟩ := entryRound_eq_ok read
  have enclosed : ∀ found ∈ columns, found.enclosing = 0 ∧
      ∃ inner, found.location.element = Text.qualify modulePath name ++ "::" ++ inner := by
    intro found member
    obtain ⟨_, _, read⟩ := mem_of_mapM_eq_ok stored member
    exact element_enclosed read
  exact .single (fun element member => (enclosed element member).1)
    fun element member => (enclosed element member).2

theorem entriesRound_enclosed {entries : List Entry}
    (read : entriesRound markers entries = .ok round) : round.Enclosed :=
  entriesRound_holds .empty .extend entryRound_enclosed read

end Snapshot

theorem Round.Found.enclosed {round : Round} (found : round.Found) : round.Enclosed := by
  induction found with
  | items scanned => exact Discovery.ofItems_enclosed _ scanned
  | definition scanned => exact Discovery.record_enclosed scanned
  | snapshot read => exact Snapshot.entriesRound_enclosed read
  | extend _ _ first second => exact first.extend second

end StorageMapping
