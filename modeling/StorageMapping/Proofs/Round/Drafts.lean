import StorageMapping.Proofs.Round.Composition
import StorageMapping.Proofs.Round.Markers
import StorageMapping.Proofs.Round.Relocation
import StorageMapping.Proofs.Source.Places
import StorageMapping.Proofs.Source.Words
import StorageMapping.Proofs.Text.Quoting

namespace StorageMapping

/-! # Structs before they are written down

A draft tells what a struct is to be: its modules, its name, its marker and its fields. Whatever it
is written as, the round of the draft is known beforehand; places aside, discovery finds it. -/

open Source

/-- A name that stands in a text as one. -/
structure Source.Identifier.Writable (name : Identifier) : Prop where
  legal : name.Legal
  isName : name.isName = true

/-- Texts for some of the locators that a backend knows. -/
structure Assignment (keys : LocatorKeys) where
  entries : List (String × String)
  known : ∀ entry ∈ entries, (keys.slot? entry.1).isSome = true
  distinct : (entries.map (·.1)).Nodup

/-- A field, with its type both as a text and as what the text stands for. -/
structure FieldDraft where
  name : Identifier
  typeText : String
  type : TypeExpr
  isPublic : Bool
  column : Option ColumnMarker
  writable : name.Writable
  typed : Reader.type typeText = .ok type

structure StructDraft (keys : LocatorKeys) where
  modules : List Identifier
  name : Identifier
  marker : Option (Assignment keys)
  fields : List FieldDraft
  reachable : ∀ name ∈ modules, name.Writable
  writable : name.Writable

/-! ## Rounds of drafts -/

namespace FieldDraft

def element (qualified : String) (draft : FieldDraft) (column : ColumnMarker) : MarkedElement where
  kind := .field
  name := draft.name
  type := some draft.type
  isPrivate := !draft.isPublic
  isImmutable := false
  marker := column
  enclosing := 0
  location := .detached (qualified ++ "::" ++ draft.name.written)

/-- Only a field with a column is an element. -/
def element? (qualified : String) (draft : FieldDraft) : Option MarkedElement :=
  draft.column.map (draft.element qualified)

end FieldDraft

namespace StructDraft

variable {keys : LocatorKeys}

def path (root : List String) (draft : StructDraft keys) : List String :=
  root ++ draft.modules.map (·.text)

def qualifiedName (root : List String) (draft : StructDraft keys) : String :=
  Text.qualify (draft.path root) draft.name.text

def locators (draft : StructDraft keys) : Option Locators :=
  draft.marker.map fun assignment => Marker.assigned keys assignment.entries

def round (root : List String) (draft : StructDraft keys) : Round :=
  Round.single
    ⟨draft.name.text, draft.path root, .struct, draft.locators,
      .detached (draft.qualifiedName root)⟩
    (draft.fields.filterMap (·.element? (draft.qualifiedName root)))

def rounds (root : List String) : List (StructDraft keys) → Round
  | [] => .empty
  | draft :: drafts => (draft.round root).extend (rounds root drafts)

theorem rounds_append (root : List String) (front back : List (StructDraft keys)) :
    rounds root (front ++ back) = (rounds root front).extend (rounds root back) := by
  induction front with
  | nil => exact (Round.empty_extend _).symm
  | cons draft rest ih => rw [List.cons_append, rounds, rounds, ih, Round.extend_assoc]

end StructDraft

/-! ## Places -/

/-- Everything as it would stand in no text. -/
def Relabelling.unplaced : Relabelling where
  location location := .detached location.element
  modulePath := id
  type := TypeExpr.unplaced

def Round.unplaced (round : Round) : Round := Relabelling.unplaced.round round

theorem Round.extend_unplaced (front back : Round) :
    (front.extend back).unplaced = front.unplaced.extend back.unplaced := by
  simp only [unplaced, Relabelling.round, extend, List.map_append, List.map_map, List.length_map]
  rfl

/-! ## Drafts in a source text -/

section Source

variable (markers : MarkerSet)

/-- A field of a text that says what the draft says. Other attributes may stand around its own. -/
structure FieldDraft.WrittenAs (draft : FieldDraft) (field : Field) : Prop where
  name : ∃ position, field.name = some (draft.name, position)
  type : field.type.unplaced = draft.type.unplaced
  isPublic : field.isPublic = draft.isPublic
  unmarked : draft.column = none →
    Marker.find? field.attributes markers.columnAttribute = none
  marked : ∀ column, draft.column = some column →
    ∃ (attr : Attribute) (entries : List Marker.ColumnEntry),
      Marker.find? field.attributes markers.columnAttribute = some attr ∧
      Marker.Bears (entries.map (·.written)) attr ∧
      entries.foldl Marker.ColumnEntry.put .empty = column

structure StructDraft.WrittenAs (draft : StructDraft markers.locatorKeys) (item : DataItem) :
    Prop where
  kind : item.kind = .struct
  name : item.name = draft.name
  fields : List.Forall₂ (FieldDraft.WrittenAs markers) draft.fields item.fields
  unmarked : draft.marker = none →
    Marker.find? item.attributes markers.typeAttribute = none
  marked : ∀ assignment, draft.marker = some assignment →
    ∃ attr, Marker.find? item.attributes markers.typeAttribute = some attr ∧
      Marker.Bears (assignment.entries.map fun entry => .text entry.1 entry.2) attr

/-- Items inside some modules that hold the structs of these drafts. The structs of a module may be
written as a block of it or as several ones, and anything else may stand between them. -/
inductive Written : List Identifier → List (StructDraft markers.locatorKeys) → List Item → Prop
  | nil {modules : List Identifier} : Written modules [] []
  | struct {draft : StructDraft markers.locatorKeys} {item : DataItem}
      {drafts : List (StructDraft markers.locatorKeys)} {items : List Item}
      (written : draft.WrittenAs markers item) (others : Written draft.modules drafts items) :
      Written draft.modules (draft :: drafts) (.data item :: items)
  | module {modules : List Identifier} {name : Identifier}
      {inner drafts : List (StructDraft markers.locatorKeys)} {contents items : List Item}
      (inside : Written (modules ++ [name]) inner contents)
      (others : Written modules drafts items) :
      Written modules (inner ++ drafts) (.module name (some contents) :: items)
  | other {modules : List Identifier} {drafts : List (StructDraft markers.locatorKeys)}
      {items : List Item} (others : Written modules drafts items) :
      Written modules drafts (.other :: items)

end Source

namespace Discovery

variable {scope : Scope} {root : List String}

theorem typeMarker_written {draft : StructDraft scope.markers.locatorKeys} {item : DataItem}
    (written : draft.WrittenAs scope.markers item) (location : Location) :
    typeMarker scope location item.attributes = .ok draft.locators := by
  rw [typeMarker, StructDraft.locators]
  cases marked : draft.marker with
  | none =>
      rw [written.unmarked marked]
      rfl
  | some assignment =>
      obtain ⟨attr, found, bears⟩ := written.marked assignment marked
      simp only [found, Marker.readType_bears assignment.known bears]
      rfl

theorem element_written {qualified : String} {draft : FieldDraft} {field : Field}
    {column : ColumnMarker} (written : draft.WrittenAs scope.markers field)
    (marked : draft.column = some column) (number : Nat) :
    ∃ attr found, Marker.find? field.attributes scope.markers.columnAttribute = some attr ∧
      element scope qualified number (.ofField field) attr = .ok found ∧
      Relabelling.unplaced.element found =
        Relabelling.unplaced.element (draft.element qualified column) := by
  obtain ⟨attr, entries, present, bears, same⟩ := written.marked column marked
  obtain ⟨position, named⟩ := written.name
  have read : Marker.readColumn attr = .ok column := same ▸ Marker.readColumn_bears bears
  refine ⟨attr, { draft.element qualified column with
    type := some field.type
    location := ⟨qualified ++ "::" ++ draft.name.written, scope.file, position⟩ }, present, ?_, ?_⟩
  · rw [Discovery.element, Member.ofField, named]
    simp only [read, FieldDraft.element, written.isPublic]
    rfl
  · simp only [Relabelling.element, FieldDraft.element, Option.map_some, Relabelling.unplaced,
      written.type, Location.detached]

theorem elements_written {qualified : String} {drafts : List FieldDraft} {fields : List Field}
    (written : List.Forall₂ (FieldDraft.WrittenAs scope.markers) drafts fields) (number : Nat) :
    ∃ found,
      elements scope qualified number (markedMembers scope.markers (fields.map .ofField)) =
        .ok found ∧
      found.map Relabelling.unplaced.element =
        (drafts.filterMap (·.element? qualified)).map Relabelling.unplaced.element := by
  induction written generalizing number with
  | nil => exact ⟨[], rfl, rfl⟩
  | @cons draft field drafts fields here _ ih =>
      rw [List.map_cons, markedMembers, List.filterMap_cons]
      cases marked : draft.column with
      | none =>
          obtain ⟨others, rest, agree⟩ := ih number
          have unmarked : Marker.find? (Member.ofField field).attributes
              scope.markers.columnAttribute = none := here.unmarked marked
          simp only [unmarked, Option.map_none]
          refine ⟨others, rest, ?_⟩
          rw [agree, List.filterMap_cons_none (by rw [FieldDraft.element?, marked]; rfl)]
      | some column =>
          obtain ⟨attr, first, present, read, same⟩ := element_written here marked number
          obtain ⟨others, rest, agree⟩ := ih (number + 1)
          have found : Marker.find? (Member.ofField field).attributes
              scope.markers.columnAttribute = some attr := present
          simp only [found, Option.map_some]
          refine ⟨first :: others, ?_, ?_⟩
          · rw [elements, read]
            change (elements scope qualified (number + 1)
              (markedMembers scope.markers (fields.map .ofField)) >>= _) = _
            rw [rest]
            rfl
          · have drafted : draft.element? qualified = some (draft.element qualified column) := by
              rw [FieldDraft.element?, marked]
              rfl
            rw [List.filterMap_cons_some drafted, List.map_cons, List.map_cons, same, agree]

theorem ofDefinition_written {draft : StructDraft scope.markers.locatorKeys} {item : DataItem}
    (written : draft.WrittenAs scope.markers item) :
    ∃ round, ofDefinition scope (draft.path root) item = .ok round ∧
      round.unplaced = (draft.round root).unplaced := by
  obtain ⟨columns, read, same⟩ := elements_written written.fields 0
  refine ⟨Round.single ⟨draft.name.text, draft.path root, .struct, draft.locators,
    ⟨draft.qualifiedName root, scope.file, item.position⟩⟩ columns, ?_, ?_⟩
  · rw [ofDefinition, record_eq, written.name, written.kind]
    simp only [typeMarker_written written]
    change (elements scope (draft.qualifiedName root) 0 _ >>= _) = _
    rw [read]
    rfl
  · rw [Round.unplaced, Round.unplaced, StructDraft.round, single_relabelled, single_relabelled,
      same]
    rfl

/-- Discovery finds the rounds of the drafts that a text holds. -/
theorem ofItems_written {modules : List Identifier}
    {drafts : List (StructDraft scope.markers.locatorKeys)} {items : List Item}
    (written : Written scope.markers modules drafts items) :
    ∃ round, ofItems scope (root ++ modules.map (·.text)) items = .ok round ∧
      round.unplaced = (StructDraft.rounds root drafts).unplaced := by
  induction written with
  | nil => exact ⟨.empty, rfl, rfl⟩
  | @struct draft item drafts items here _ ih =>
      obtain ⟨first, found, same⟩ := @ofDefinition_written _ root _ _ here
      obtain ⟨others, later, agree⟩ := ih
      refine ⟨first.extend others, ?_, ?_⟩
      · rw [ofItems_cons, ofItem, later]
        change Round.joined (ofDefinition scope (draft.path root) item) _ = _
        rw [found]
        rfl
      · rw [StructDraft.rounds, Round.extend_unplaced, Round.extend_unplaced, same, agree]
  | @module modules name inner drafts contents items _ _ inside others =>
      obtain ⟨first, found, same⟩ := inside
      obtain ⟨rest, later, agree⟩ := others
      refine ⟨first.extend rest, ?_, ?_⟩
      · -- the module stands behind the others in the path of what it holds
        rw [List.map_append, ← List.append_assoc] at found
        rw [ofItems_cons, ofItem, later]
        change Round.joined (ofItems scope
          (root ++ modules.map (·.text) ++ [name].map (·.text)) contents) _ = _
        rw [found]
        rfl
      · rw [StructDraft.rounds_append, Round.extend_unplaced, Round.extend_unplaced, same, agree]
  | other _ ih =>
      obtain ⟨round, found, same⟩ := ih
      exact ⟨round, by rw [ofItems_cons, ofItem, found]; exact Round.empty_joined _, same⟩

end Discovery

/-! ## Every draft can be written in a source text -/

namespace Marker

def Entry.tokens : Entry → Tokens
  | .text key value => [Token.ofWord key, .punctuation '=' false .start, Token.ofText value]
  | .flag key value =>
      [Token.ofWord key, .punctuation '=' false .start,
        Token.ofWord (if value then "true" else "false")]

theorem Entry.spelled_tokens : ∀ entry : Entry, entry.Spelled entry.tokens
  | .text _ value => .text (Literal.stringValue?_quoteLiteral value)
  | .flag _ _ => .flag

def listTokens : List Entry → Tokens
  | [] => []
  | entry :: rest => entry.tokens ++ .punctuation ',' false .start :: listTokens rest

theorem listed_listTokens (entries : List Entry) : Listed entries (listTokens entries) := by
  induction entries with
  | nil => exact .nil
  | cons entry rest ih => exact .cons entry.spelled_tokens ih

def bearer (name : String) (entries : List Entry) : Attribute :=
  ⟨false, false, [.plain name], .list (listTokens entries) .start⟩

theorem bears_bearer (name : String) (entries : List Entry) :
    Bears entries (bearer name entries) :=
  .list rfl (listed_listTokens entries)

theorem find?_bearer (name : String) (entries : List Entry) :
    find? [bearer name entries] name = some (bearer name entries) := by
  simp [find?, Attribute.isNamed, bearer, Identifier.isWord, Identifier.plain]

def ColumnEntry.all (marker : ColumnMarker) : List ColumnEntry :=
  [.name marker.name, .key marker.isKey, .ignoresNull marker.ignoresNull]

end Marker

section Source

variable (markers : MarkerSet)

def FieldDraft.field (draft : FieldDraft) : Field where
  attributes := draft.column.toList.map fun column =>
    Marker.bearer markers.columnAttribute ((Marker.ColumnEntry.all column).map (·.written))
  isPublic := draft.isPublic
  name := some (draft.name, .start)
  type := draft.type
  position := .start

def StructDraft.item (draft : StructDraft markers.locatorKeys) : DataItem where
  kind := .struct
  attributes := draft.marker.toList.map fun assignment =>
    Marker.bearer markers.typeAttribute
      (assignment.entries.map fun entry => .text entry.1 entry.2)
  name := draft.name
  position := .start
  parameters := 0
  fields := draft.fields.map (·.field markers)

def Source.Item.within (item : Item) (modules : List Identifier) : Item :=
  modules.foldr (fun name inner => .module name (some [inner])) item

variable {markers}

theorem FieldDraft.writtenAs_field (draft : FieldDraft) :
    draft.WrittenAs markers (draft.field markers) where
  name := ⟨.start, rfl⟩
  type := rfl
  isPublic := rfl
  unmarked := by
    intro absent
    rw [field, absent]
    rfl
  marked := by
    intro column present
    refine ⟨Marker.bearer markers.columnAttribute
      ((Marker.ColumnEntry.all column).map (·.written)), Marker.ColumnEntry.all column, ?_,
      Marker.bears_bearer _ _, rfl⟩
    rw [field, present]
    exact Marker.find?_bearer _ _

theorem StructDraft.writtenAs_item (draft : StructDraft markers.locatorKeys) :
    draft.WrittenAs markers (draft.item markers) where
  kind := rfl
  name := rfl
  fields := by
    rw [item, List.forall₂_map_right_iff]
    exact List.forall₂_same.mpr fun field _ => field.writtenAs_field
  unmarked := by
    intro absent
    rw [item, absent]
    rfl
  marked := by
    intro assignment present
    refine ⟨Marker.bearer markers.typeAttribute
      (assignment.entries.map fun entry => .text entry.1 entry.2), ?_, Marker.bears_bearer _ _⟩
    rw [item, present]
    exact Marker.find?_bearer _ _

theorem Written.append {modules : List Identifier}
    {front back : List (StructDraft markers.locatorKeys)} {items others : List Item}
    (written : Written markers modules front items) (behind : Written markers modules back others) :
    Written markers modules (front ++ back) (items ++ others) := by
  induction written with
  | nil => exact behind
  | struct here _ ih => exact .struct here (ih behind)
  | module inside _ _ ih =>
      rw [List.append_assoc]
      exact .module inside (ih behind)
  | other _ ih => exact .other (ih behind)

theorem written_within (draft : StructDraft markers.locatorKeys) {outer inner : List Identifier}
    (path : outer ++ inner = draft.modules) :
    Written markers outer [draft] [(Item.data (draft.item markers)).within inner] := by
  induction inner generalizing outer with
  | nil =>
      rw [List.append_nil] at path
      subst path
      exact .struct draft.writtenAs_item .nil
  | cons name rest ih =>
      have deeper : (outer ++ [name]) ++ rest = draft.modules := by
        rw [← path, List.append_assoc]
        rfl
      exact .module (ih deeper) .nil

theorem written_items (drafts : List (StructDraft markers.locatorKeys)) :
    Written markers [] drafts
      (drafts.map fun draft => (Item.data (draft.item markers)).within draft.modules) := by
  induction drafts with
  | nil => exact .nil
  | cons draft rest ih => exact (written_within draft (List.nil_append _)).append ih

end Source

end StorageMapping
