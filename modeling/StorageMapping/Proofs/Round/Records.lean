import StorageMapping.Proofs.Results
import StorageMapping.Round.Discovery
import StorageMapping.Round.Snapshot

namespace StorageMapping

/-! # Rounds of single declarations

Whatever a declaration is read from, it stands in its round with the columns in front of it. One
that has neither a marker nor a column is left out. -/

open Source Results

/-- The round of a declaration and its columns. -/
def Round.single (declaration : Declaration) (columns : List MarkedElement) : Round :=
  if declaration.marker = none ∧ columns = [] then .empty else ⟨[declaration], columns⟩

theorem Round.mem_single {declaration other : Declaration} {columns : List MarkedElement}
    (member : other ∈ (single declaration columns).declarations) : other = declaration := by
  rw [single] at member
  split at member
  · cases member
  · exact List.mem_singleton.mp member

/-- A declaration without a marker and without anything that could be a column is left out at once,
but so it would be later. -/
theorem Round.single_eq (declaration : Declaration)
    {read : Except Diagnostic (List MarkedElement)} {isBare : Bool}
    (bare : isBare = true → read = .ok [])
    (filled : ∀ columns, read = .ok columns → columns = [] → isBare = true) :
    (do
        if declaration.marker.isNone && isBare then return .empty
        return ⟨[declaration], ← read⟩ : Except Diagnostic Round) =
      (do return single declaration (← read)) := by
  cases found : read with
  | error fault =>
      have stored : isBare = false := by
        rw [← Bool.not_eq_true]
        intro absent
        cases found.symm.trans (bare absent)
      rw [stored, Bool.and_false]
      rfl
  | ok columns =>
      have unmarked : (declaration.marker.isNone && isBare) = true ↔
          declaration.marker = none ∧ columns = [] := by
        simp only [Bool.and_eq_true, Option.isNone_iff_eq_none]
        refine and_congr_right fun _ => ⟨fun absent => ?_, filled columns found⟩
        exact Except.ok.inj (found.symm.trans (bare absent))
      by_cases empty : declaration.marker = none ∧ columns = []
      · rw [if_pos (unmarked.mpr empty)]
        exact (congrArg Except.ok (if_pos empty)).symm
      · rw [if_neg (mt unmarked.mp empty)]
        exact (congrArg Except.ok (if_neg empty)).symm

namespace Discovery

variable {scope : Scope} {path : List String}

/-- A definition that stands by itself is found as it is among the items of a file that has no
module: it is of the same kind, and has the same members in the same order. -/
theorem ofDerive_eq (scope : Scope) (input : DeriveInput) :
    ofDerive scope input = ofDefinition scope [] input.item := by
  obtain ⟨attributes, name, position, parameters, data⟩ := input
  cases data with
  | struct fields => rfl
  | enum variants =>
      have members : variants.flatMap fieldMembers =
          (variants.flatMap (·.list)).map Member.ofField :=
        List.map_flatMap.symm
      exact congrArg (record scope [] .enum name position attributes) members
  | union fields => rfl

/-- The type marker among the attributes of an item. -/
def typeMarker (scope : Scope) (location : Location) (attributes : List Attribute) :
    Except Diagnostic (Option Locators) :=
  match Marker.find? attributes scope.markers.typeAttribute with
  | none => return none
  | some attr =>
      match Marker.readType scope.markers.locatorKeys attr with
      | .ok marker => return some marker
      | .error fault => throw (Marker.diagnostic location fault)

/-- Where an item stands does not decide what its type marker tells. -/
theorem toOption_typeMarker (scope : Scope) (location : Location) (attributes : List Attribute) :
    (typeMarker scope location attributes).toOption =
      match Marker.find? attributes scope.markers.typeAttribute with
      | none => some none
      | some attr => (Marker.readType scope.markers.locatorKeys attr).toOption.map some := by
  rw [typeMarker]
  cases Marker.find? attributes scope.markers.typeAttribute with
  | none => rfl
  | some attr =>
      dsimp only
      cases Marker.readType scope.markers.locatorKeys attr <;> rfl

theorem typeMarker_isSome {location : Location} {attributes : List Attribute}
    {marker : Option Locators} (read : typeMarker scope location attributes = .ok marker) :
    marker.isSome = (Marker.find? attributes scope.markers.typeAttribute).isSome := by
  rw [typeMarker] at read
  cases found : Marker.find? attributes scope.markers.typeAttribute with
  | none =>
      rw [found] at read
      cases read
      rfl
  | some attr =>
      simp only [found] at read
      cases entries : Marker.readType scope.markers.locatorKeys attr with
      | error fault =>
          rw [entries] at read
          cases read
      | ok locators =>
          rw [entries] at read
          cases read
          rfl

/-- Elements are read one after the other, under the numbers of their members. -/
theorem elements_cons_eq_ok {qualified : String} {number : Nat} {entry : Member × Attribute}
    {rest : List (Member × Attribute)} {columns : List MarkedElement} :
    elements scope qualified number (entry :: rest) = .ok columns ↔
      ∃ first others, element scope qualified number entry.1 entry.2 = .ok first ∧
        elements scope qualified (number + 1) rest = .ok others ∧ first :: others = columns := by
  rw [elements]
  constructor
  · intro read
    obtain ⟨first, here, read⟩ := bind_eq_ok.mp read
    obtain ⟨others, later, same⟩ := bind_eq_ok.mp read
    exact ⟨first, others, here, later, Except.ok.inj same⟩
  · rintro ⟨first, others, here, later, rfl⟩
    exact bind_eq_ok.mpr ⟨first, here, bind_eq_ok.mpr ⟨others, later, rfl⟩⟩

theorem elements_eq_nil {qualified : String} {number : Nat} {marked : List (Member × Attribute)}
    {columns : List MarkedElement} (read : elements scope qualified number marked = .ok columns) :
    columns = [] ↔ marked = [] := by
  cases marked with
  | nil =>
      cases read
      simp
  | cons entry rest =>
      obtain ⟨first, others, _, _, rfl⟩ := elements_cons_eq_ok.mp read
      simp

/-- What keeps a declaration from its round: its own marker, or that of one of its elements. -/
theorem record_eq (kind : DeclarationKind) (name : Identifier) (position : Position)
    (attributes : List Attribute) (members : List Member) :
    record scope path kind name position attributes members = (do
      let qualified := Text.qualify path name.text
      let location : Location := ⟨qualified, scope.file, position⟩
      let marker ← typeMarker scope location attributes
      let columns ← elements scope qualified 0 (markedMembers scope.markers members)
      return Round.single ⟨name.text, path, kind, marker, location⟩ columns) := by
  rw [record]
  dsimp only [typeMarker]
  generalize markedMembers scope.markers members = marked
  have bare : marked.isEmpty = true →
      elements scope (Text.qualify path name.text) 0 marked = .ok [] := by
    intro absent
    rw [List.isEmpty_iff.mp absent]
    rfl
  have filled : ∀ columns, elements scope (Text.qualify path name.text) 0 marked = .ok columns →
      columns = [] → marked.isEmpty = true := by
    intro columns read empty
    rw [(elements_eq_nil read).mp empty]
    rfl
  cases Marker.find? attributes scope.markers.typeAttribute with
  | none => exact Round.single_eq ⟨name.text, path, kind, none, _⟩ bare filled
  | some attr =>
      dsimp only
      cases Marker.readType scope.markers.locatorKeys attr with
      | error fault => rfl
      | ok marker => exact Round.single_eq ⟨name.text, path, kind, some marker, _⟩ bare filled

theorem record_eq_ok {kind : DeclarationKind} {name : Identifier} {position : Position}
    {attributes : List Attribute} {members : List Member} {round : Round} :
    record scope path kind name position attributes members = .ok round ↔
      ∃ marker columns,
        typeMarker scope ⟨Text.qualify path name.text, scope.file, position⟩ attributes =
          .ok marker ∧
        elements scope (Text.qualify path name.text) 0 (markedMembers scope.markers members) =
          .ok columns ∧
        round = Round.single ⟨name.text, path, kind, marker,
          ⟨Text.qualify path name.text, scope.file, position⟩⟩ columns := by
  rw [record_eq]
  constructor
  · intro recorded
    obtain ⟨marker, marked, recorded⟩ := bind_eq_ok.mp recorded
    obtain ⟨columns, read, same⟩ := bind_eq_ok.mp recorded
    exact ⟨marker, columns, marked, read, (Except.ok.inj same).symm⟩
  · rintro ⟨marker, columns, marked, read, rfl⟩
    exact bind_eq_ok.mpr ⟨marker, marked, bind_eq_ok.mpr ⟨columns, read, rfl⟩⟩

/-- A member becomes an element where it has a name and its marker can be read. -/
theorem element_eq_ok {qualified : String} {number : Nat} {member : Member} {attr : Attribute}
    {found : MarkedElement} :
    element scope qualified number member attr = .ok found ↔
      ∃ name position marker, member.name = some (name, position) ∧
        Marker.readColumn attr = .ok marker ∧
        found = ⟨member.kind, name, member.type, member.isPrivate, false, marker, 0,
          ⟨qualified ++ "::" ++ name.written, scope.file, position⟩⟩ := by
  rw [element.eq_def]
  cases named : member.name with
  | none => simp [throw, throwThe, MonadExceptOf.throw]
  | some entry =>
      obtain ⟨name, position⟩ := entry
      cases read : Marker.readColumn attr with
      | error fault => simp [throw, throwThe, MonadExceptOf.throw]
      | ok marker => simp [pure, Except.pure, eq_comm]

end Discovery

namespace Snapshot

theorem parsed_eq_ok {α : Type} {location : Location} {result : Except SyntaxError α} {value : α} :
    parsed location result = .ok value ↔ result = .ok value := by
  cases result with
  | ok other => simp [parsed, pure, Except.pure]
  | error fault => simp [parsed, throw, throwThe, MonadExceptOf.throw]

theorem entryRound_eq (markers : MarkerSet) (entry : Entry) :
    entryRound markers entry = (do
      let segments := Text.moduleSegments entry.module
      let written := Location.detached (Text.qualify segments entry.name)
      let modulePath ← segments.mapM (moduleSegment written)
      let name ← declaredName written entry.name
      let qualified := Text.qualify modulePath name
      let location := Location.detached qualified
      let marker ←
        match entry.marker with
        | none => pure none
        | some entries => some <$> readMarker markers location (sorted entries) .empty
      let columns ← (stored entry.members).mapM fun (member, column) =>
        element qualified member column
      return Round.single ⟨name, modulePath, entry.kind, marker, location⟩ columns) := by
  rw [entryRound]
  refine congrArg _ (funext fun modulePath => ?_)
  refine congrArg _ (funext fun name => ?_)
  have bare : (stored entry.members).isEmpty = true →
      (stored entry.members).mapM (fun (member, column) =>
        element (Text.qualify modulePath name) member column) = .ok [] := by
    intro absent
    rw [List.isEmpty_iff.mp absent]
    rfl
  have filled : ∀ columns, (stored entry.members).mapM (fun (member, column) =>
      element (Text.qualify modulePath name) member column) = .ok columns → columns = [] →
        (stored entry.members).isEmpty = true := by
    intro columns read empty
    have related := mapM_eq_ok.mp read
    rw [empty] at related
    exact List.isEmpty_iff.mpr (List.forall₂_nil_right_iff.mp related)
  cases entry.marker with
  | none => exact Round.single_eq ⟨name, modulePath, entry.kind, none, _⟩ bare filled
  | some entries =>
      cases read : readMarker markers (.detached (Text.qualify modulePath name)) (sorted entries)
          .empty with
      | error fault => simp only [read]; rfl
      | ok marker =>
          simp only [read]
          exact Round.single_eq ⟨name, modulePath, entry.kind, some marker, _⟩ bare filled

/-- The parts of a declaration that was read. -/
theorem entryRound_eq_ok {markers : MarkerSet} {entry : Entry} {round : Round}
    (read : entryRound markers entry = .ok round) :
    ∃ written modulePath name marker columns,
      (Text.moduleSegments entry.module).mapM (moduleSegment written) = .ok modulePath ∧
        declaredName written entry.name = .ok name ∧
        (stored entry.members).mapM (fun (member, column) =>
          element (Text.qualify modulePath name) member column) = .ok columns ∧
        round = Round.single ⟨name, modulePath, entry.kind, marker,
          .detached (Text.qualify modulePath name)⟩ columns := by
  rw [entryRound_eq] at read
  obtain ⟨modulePath, segments, read⟩ := bind_eq_ok.mp read
  obtain ⟨name, named, read⟩ := bind_eq_ok.mp read
  dsimp only at read
  split at read
  all_goals
    obtain ⟨marker, _, read⟩ := bind_eq_ok.mp read
    obtain ⟨columns, stored, same⟩ := bind_eq_ok.mp read
    exact ⟨_, modulePath, name, marker, columns, segments, named, stored,
      (Except.ok.inj same).symm⟩

end Snapshot

end StorageMapping
