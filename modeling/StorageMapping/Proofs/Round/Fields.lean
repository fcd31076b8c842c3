import StorageMapping.Proofs.Round.Composition
import StorageMapping.Proofs.Round.Records
import StorageMapping.Proofs.Source.Fields

namespace StorageMapping

/-! # Fields of rounds that were read

A round comes from the items of a text, from a single definition or from a snapshot. In each of them
a field has the name under which its text has it. -/

open Source Results

namespace Round

/-- Rounds that are read from texts and from snapshots, and those put together from them. -/
inductive Read : Round → Prop
  | items {text scope path items round} (parsed : Reader.file text = .ok items)
      (scanned : Discovery.ofItems scope path items = .ok round) : Read round
  | definition {text scope input round} (parsed : Reader.definition text = .ok input)
      (scanned : Discovery.ofDerive scope input = .ok round) : Read round
  | snapshot {snapshot : Snapshot} {markers round}
      (read : snapshot.toRound markers = .ok round) : Read round
  | extend {front back} (first : Read front) (second : Read back) : Read (front.extend back)

/-- A round whose fields are named as a text can name them. -/
def FieldsNamed (round : Round) : Prop :=
  ∀ element ∈ round.columns, element.kind = .field → element.name.InField

variable {front back : Round}

theorem FieldsNamed.empty : FieldsNamed .empty := fun _ member => absurd member List.not_mem_nil

theorem FieldsNamed.extend (first : front.FieldsNamed) (second : back.FieldsNamed) :
    (front.extend back).FieldsNamed := by
  intro element member isField
  rcases List.mem_append.mp member with before | after
  · exact first element before isField
  · obtain ⟨inner, inBack, rfl⟩ := List.mem_map.mp after
    exact second inner inBack isField

theorem FieldsNamed.single {declaration : Declaration} {columns : List MarkedElement}
    (named : ∀ element ∈ columns, element.kind = .field → element.name.InField) :
    (single declaration columns).FieldsNamed := by
  rw [Round.single]
  split
  · exact .empty
  · exact named

end Round

namespace Discovery

variable {scope : Scope} {path : List String} {round : Round}

/-- A member that is a field has the name of one. -/
def Member.Named (member : Member) : Prop :=
  member.kind = .field → ∀ found ∈ member.name, found.1.InField

theorem elements_named {qualified : String} {number : Nat} {marked : List (Member × Attribute)}
    {columns : List MarkedElement} (read : elements scope qualified number marked = .ok columns)
    (named : ∀ entry ∈ marked, entry.1.Named) :
    ∀ element ∈ columns, element.kind = .field → element.name.InField := by
  induction marked generalizing number columns with
  | nil =>
      cases read
      nofun
  | cons entry rest ih =>
      obtain ⟨member, attr⟩ := entry
      obtain ⟨first, others, here, later, rfl⟩ := elements_cons_eq_ok.mp read
      obtain ⟨memberNamed, restNamed⟩ := List.forall_mem_cons.mp named
      refine List.forall_mem_cons.mpr ⟨fun isField => ?_, ih later restNamed⟩
      obtain ⟨name, position, _, found, _, rfl⟩ := element_eq_ok.mp here
      exact memberNamed isField _ found

theorem record_fieldsNamed {kind : DeclarationKind} {name : Identifier} {position : Position}
    {attributes : List Attribute} {members : List Member}
    (named : ∀ member ∈ members, member.Named)
    (recorded : record scope path kind name position attributes members = .ok round) :
    round.FieldsNamed := by
  obtain ⟨_, _, _, read, rfl⟩ := record_eq_ok.mp recorded
  refine .single (elements_named read fun entry member => ?_)
  obtain ⟨found, inList, marked⟩ := List.mem_filterMap.mp member
  obtain ⟨_, _, rfl⟩ := Option.map_eq_some_iff.mp marked
  exact named found inList

theorem ofDefinition_fieldsNamed {data : DataItem} (named : ∀ field ∈ data.fields, field.Named)
    (scanned : ofDefinition scope path data = .ok round) : round.FieldsNamed := by
  refine record_fieldsNamed (fun member inList _ => ?_) scanned
  obtain ⟨field, inFields, rfl⟩ := List.mem_map.mp inList
  exact named field inFields

theorem ofItems_fieldsNamed {items : List Item}
    (named : ∀ item ∈ items, ∀ {round}, ofItem scope path item = .ok round → round.FieldsNamed)
    (scanned : ofItems scope path items = .ok round) : round.FieldsNamed :=
  ofItems_holds .empty .extend named scanned

theorem ofItem_fieldsNamed {item : Item} (named : item.FieldsNamed)
    (scanned : ofItem scope path item = .ok round) : round.FieldsNamed := by
  have unfielded : ∀ kind, Member.elementKind kind ≠ .field := by intro kind; cases kind <;> nofun
  induction named generalizing path round with
  | @module name contents _ ih =>
      cases contents with
      | none =>
          rw [ofItem] at scanned
          cases scanned
          exact .empty
      | some items =>
          rw [ofItem] at scanned
          exact ofItems_fieldsNamed (fun item member => ih items rfl item member) scanned
  | data named =>
      rw [ofItem] at scanned
      exact ofDefinition_fieldsNamed named scanned
  | leaf leaf =>
      cases leaf with
      | trait =>
          rw [ofItem] at scanned
          refine record_fieldsNamed (fun member inList isField => ?_) scanned
          obtain ⟨item, _, rfl⟩ := List.mem_map.mp inList
          exact absurd isField (unfielded item.kind)
      | implementation =>
          rw [ofItem, ofImplementation] at scanned
          split at scanned
          · refine record_fieldsNamed (fun member inList isField => ?_) scanned
            obtain ⟨item, _, rfl⟩ := List.mem_map.mp inList
            exact absurd isField (unfielded item.kind)
          · cases scanned
            exact .empty
      | other =>
          rw [ofItem] at scanned
          cases scanned
          exact .empty

end Discovery

namespace Snapshot

variable {markers : MarkerSet} {round : Round}

theorem entryRound_fieldsNamed {entry : Entry} (read : entryRound markers entry = .ok round) :
    round.FieldsNamed := by
  obtain ⟨_, _, _, _, _, _, _, stored, rfl⟩ := entryRound_eq_ok read
  refine .single fun found member _ => ?_
  obtain ⟨⟨source, column⟩, _, same⟩ := mem_of_mapM_eq_ok stored member
  obtain ⟨name, identified, same⟩ := bind_eq_ok.mp same
  have inField := Reader.identifier_inField (parsed_eq_ok.mp identified)
  dsimp only at same
  split at same
  all_goals
    obtain ⟨_, _, same⟩ := bind_eq_ok.mp same
    cases same
    exact inField

theorem entriesRound_fieldsNamed {entries : List Entry}
    (read : entriesRound markers entries = .ok round) : round.FieldsNamed :=
  entriesRound_holds .empty .extend entryRound_fieldsNamed read

end Snapshot

/-- A field in a round that was read has the name of one. -/
theorem Round.Read.fieldsNamed {round : Round} (read : round.Read) : round.FieldsNamed := by
  induction read with
  | items parsed scanned =>
      have named := Reader.file_fieldsNamed parsed
      exact Discovery.ofItems_fieldsNamed
        (fun item member => Discovery.ofItem_fieldsNamed (named item member)) scanned
  | definition parsed scanned =>
      rw [Discovery.ofDerive_eq] at scanned
      exact Discovery.ofDefinition_fieldsNamed (Reader.definition_fieldsNamed parsed) scanned
  | snapshot read => exact Snapshot.entriesRound_fieldsNamed read
  | extend _ _ first second => exact first.extend second

end StorageMapping
