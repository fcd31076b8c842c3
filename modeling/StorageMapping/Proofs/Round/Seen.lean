import StorageMapping.Proofs.Round.Composition
import StorageMapping.Proofs.Round.MarkerPlaces

namespace StorageMapping

/-! # What a scan sees

A scan looks at the items that carry a marker or have a member that does, at such members, and at
nothing else. Texts in which it sees the same lead to one round, places aside. -/

open Source Results

/-! ## Attributes -/

namespace MarkerSet

section Own

variable (markers : MarkerSet)

/-- Is it one of the two attributes of the set? -/
def owns (attr : Attribute) : Bool :=
  attr.isNamed markers.typeAttribute || attr.isNamed markers.columnAttribute

/-- The attributes of the set among others, as they would stand in no text. -/
def own (attributes : List Attribute) : List Attribute :=
  (attributes.filter markers.owns).map Attribute.unplaced

def marksType (attributes : List Attribute) : Bool :=
  (Marker.find? attributes markers.typeAttribute).isSome

def marksColumn (attributes : List Attribute) : Bool :=
  (Marker.find? attributes markers.columnAttribute).isSome

end Own

variable {markers : MarkerSet}

theorem find?_own {name : String}
    (owned : ∀ attr : Attribute, attr.isNamed name = true → markers.owns attr = true)
    (attributes : List Attribute) :
    Marker.find? (markers.own attributes) name =
      (Marker.find? attributes name).map Attribute.unplaced := by
  rw [own, Marker.find?, List.find?_map, List.find?_filter, Marker.find?]
  refine congrArg (fun test => (attributes.find? test).map _) (funext fun attr => ?_)
  change decide (markers.owns attr = true ∧ attr.isNamed name = true) = attr.isNamed name
  cases named : attr.isNamed name with
  | false => simp
  | true => simp [owned attr named]

theorem owns_type (attr : Attribute) (named : attr.isNamed markers.typeAttribute = true) :
    markers.owns attr = true := by
  rw [owns, named, Bool.true_or]

theorem owns_column (attr : Attribute) (named : attr.isNamed markers.columnAttribute = true) :
    markers.owns attr = true := by
  rw [owns, named, Bool.or_true]

theorem find?_own_column (attributes : List Attribute) :
    Marker.find? (markers.own attributes) markers.columnAttribute =
      (Marker.find? attributes markers.columnAttribute).map Attribute.unplaced :=
  find?_own owns_column attributes

theorem find?_own_type (attributes : List Attribute) :
    Marker.find? (markers.own attributes) markers.typeAttribute =
      (Marker.find? attributes markers.typeAttribute).map Attribute.unplaced :=
  find?_own owns_type attributes

end MarkerSet

/-! ## Items -/

section Seen

variable (markers : MarkerSet)

namespace Source

/-- What a scan sees of a field with a marker. -/
def Field.seen (field : Field) : Field where
  attributes := markers.own field.attributes
  isPublic := field.isPublic
  name := field.name.map fun found => (found.1, .start)
  type := field.type.unplaced
  position := .start

/-- What a scan sees of a method or of a constant with a marker. -/
def AssociatedItem.seen (member : AssociatedItem) : AssociatedItem where
  kind := member.kind
  attributes := markers.own member.attributes
  isPublic := member.isPublic
  name := member.name
  position := .start
  type := member.type.map TypeExpr.unplaced

/-- What a scan sees of the parts of an item: of those with a marker, and nothing of the others. -/
def seenParts {α : Type} (attributes : α → List Attribute) (seen : α → α) (parts : List α) :
    List α :=
  (parts.filter fun part => markers.marksColumn (attributes part)).map seen

def seenFields : List Field → List Field := seenParts markers Field.attributes (Field.seen markers)

def seenMembers : List AssociatedItem → List AssociatedItem :=
  seenParts markers AssociatedItem.attributes (AssociatedItem.seen markers)

theorem map_seenParts {α β : Type} {attributes : α → List Attribute} {seen : α → α}
    {attributesOf : β → List Attribute} {seenOf : β → β} {f : α → β}
    (kept : ∀ part, attributesOf (f part) = attributes part)
    (same : ∀ part, f (seen part) = seenOf (f part)) (parts : List α) :
    (seenParts markers attributes seen parts).map f =
      seenParts markers attributesOf seenOf (parts.map f) := by
  simp only [seenParts, List.filter_map, List.map_map, Function.comp_def, kept, same]

namespace Item

mutual

/-- What a scan sees of an item: nothing at all of one without markers. An implementation is known
by the last name of its type. -/
def seen? : Item → Option Item
  | .module name (some contents) =>
      match allSeen contents with
      | [] => none
      | items => some (.module name (some items))
  | .module _ none => none
  | .data item =>
      let fields := seenFields markers item.fields
      if markers.marksType item.attributes || !fields.isEmpty then
        some (.data ⟨item.kind, markers.own item.attributes, item.name, .start, 0, fields⟩)
      else none
  | .trait attributes name _ members =>
      let members := seenMembers markers members
      if markers.marksType attributes || !members.isEmpty then
        some (.trait (markers.own attributes) name .start members)
      else none
  | .implementation selfType members =>
      match selfType.lastSegment?, seenMembers markers members with
      | some segment, first :: others =>
          some (.implementation (.path false [.mk segment.name .start none]) (first :: others))
      | _, _ => none
  | .other => none

def allSeen : List Item → List Item
  | [] => []
  | item :: rest => (seen? item).toList ++ allSeen rest

end

end Item

end Source

/-- What a scan sees of a member with a marker. -/
def Discovery.Member.seen (member : Member) : Member where
  kind := member.kind
  attributes := markers.own member.attributes
  name := member.name.map fun found => (found.1, .start)
  type := member.type.map TypeExpr.unplaced
  isPrivate := member.isPrivate
  position := .start

def Discovery.allSeen : List Member → List Member :=
  seenParts markers Member.attributes (Member.seen markers)

end Seen

/-- The round that was read, as it would stand in no text. -/
def Round.unplaced? (read : Except Diagnostic Round) : Option Round :=
  read.toOption.map Round.unplaced

theorem Round.unplaced?_joined (front back : Except Diagnostic Round) :
    unplaced? (joined front back) =
      (unplaced? front).bind fun first => (unplaced? back).map first.extend := by
  cases front with
  | error fault => rfl
  | ok front =>
      cases back with
      | error fault => rfl
      | ok back => exact congrArg some (extend_unplaced front back)

namespace Discovery

variable (markers : MarkerSet) (file other : Option String) {path : List String}

theorem seen_fields (fields : List Field) :
    (seenFields markers fields).map Member.ofField =
      allSeen markers (fields.map Member.ofField) := by
  rw [seenFields, allSeen]
  refine map_seenParts markers ?_ ?_ fields
  · exact fun _ => rfl
  · exact fun _ => rfl

theorem seen_traitMembers (members : List AssociatedItem) :
    (seenMembers markers members).map Member.ofTrait =
      allSeen markers (members.map Member.ofTrait) := by
  rw [seenMembers, allSeen]
  refine map_seenParts markers ?_ ?_ members
  · exact fun _ => rfl
  · exact fun _ => rfl

theorem seen_implementationMembers (members : List AssociatedItem) :
    (seenMembers markers members).map Member.ofImplementation =
      allSeen markers (members.map Member.ofImplementation) := by
  rw [seenMembers, allSeen]
  refine map_seenParts markers ?_ ?_ members
  · exact fun _ => rfl
  · exact fun _ => rfl

theorem markedMembers_seen (members : List Member) :
    markedMembers markers (allSeen markers members) =
      (markedMembers markers members).map fun entry =>
        (entry.1.seen markers, entry.2.unplaced) := by
  induction members with
  | nil => rfl
  | cons member rest ih =>
      rw [allSeen, seenParts, markedMembers, List.filter_cons, markedMembers,
        List.filterMap_cons, MarkerSet.marksColumn]
      cases found : Marker.find? member.attributes markers.columnAttribute with
      | none => exact ih
      | some attr =>
          have owned : Marker.find? (member.seen markers).attributes markers.columnAttribute =
              some attr.unplaced := by
            rw [Member.seen, MarkerSet.find?_own_column, found, Option.map_some]
          rw [Option.isSome_some, if_pos rfl, List.map_cons, List.filterMap_cons, owned]
          exact congrArg _ ih

/-- Elements that were read, as they would stand in no text. -/
def unplaced? (read : Except Diagnostic (List MarkedElement)) : Option (List MarkedElement) :=
  read.toOption.map (List.map Relabelling.unplaced.element)

theorem unplaced?_elements_cons {scope : Scope} {qualified : String} {number : Nat}
    {entry : Member × Attribute} {rest : List (Member × Attribute)} :
    unplaced? (elements scope qualified number (entry :: rest)) =
      ((element scope qualified number entry.1 entry.2).toOption.map
        Relabelling.unplaced.element).bind fun first =>
          (unplaced? (elements scope qualified (number + 1) rest)).map (first :: ·) := by
  rw [elements]
  cases element scope qualified number entry.1 entry.2 with
  | error fault => rfl
  | ok first => cases elements scope qualified (number + 1) rest <;> rfl

/-- Neither the file, nor the place of a member among others, nor its other attributes make a
difference to its element. -/
theorem element_seen (qualified : String) (number count : Nat) (member : Member)
    (attr : Attribute) :
    (element ⟨markers, file⟩ qualified number (member.seen markers) attr.unplaced).toOption.map
        Relabelling.unplaced.element =
      (element ⟨markers, other⟩ qualified count member attr).toOption.map
        Relabelling.unplaced.element := by
  have marker := Marker.readColumn_alike attr.unplaced_unplaced
  rw [element.eq_def, element.eq_def]
  cases named : member.name with
  | none =>
      rw [Member.seen, named]
      rfl
  | some found =>
      rw [Member.seen, named]
      dsimp only [Option.map_some]
      cases read : Marker.readColumn attr with
      | error fault =>
          rw [read] at marker
          cases readToo : Marker.readColumn attr.unplaced with
          | error fault => rfl
          | ok given =>
              rw [readToo] at marker
              cases marker
      | ok given =>
          rw [read] at marker
          rw [toOption_eq_some.mp marker]
          refine congrArg some ?_
          simp only [Relabelling.element, Relabelling.unplaced, Option.map_map, Function.comp_def,
            TypeExpr.unplaced_unplaced, Location.detached]

theorem elements_seen (qualified : String) (number count : Nat)
    (marked : List (Member × Attribute)) :
    unplaced? (elements ⟨markers, file⟩ qualified number
        (marked.map fun entry => (entry.1.seen markers, entry.2.unplaced))) =
      unplaced? (elements ⟨markers, other⟩ qualified count marked) := by
  induction marked generalizing number count with
  | nil => rfl
  | cons entry rest ih =>
      rw [List.map_cons, unplaced?_elements_cons, unplaced?_elements_cons,
        element_seen markers file other qualified number count, ih (number + 1) (count + 1)]

theorem typeMarker_seen (location place : Location) (attributes : List Attribute) :
    (typeMarker ⟨markers, file⟩ location (markers.own attributes)).toOption =
      (typeMarker ⟨markers, other⟩ place attributes).toOption := by
  rw [toOption_typeMarker, toOption_typeMarker, MarkerSet.find?_own_type]
  cases Marker.find? attributes markers.typeAttribute with
  | none => rfl
  | some attr =>
      exact congrArg (Option.map some) (Marker.readType_alike attr.unplaced_unplaced)

theorem unplaced?_record (scope : Scope) (kind : DeclarationKind) (name : Identifier)
    (position : Position) (attributes : List Attribute) (members : List Member) :
    Round.unplaced? (record scope path kind name position attributes members) =
      (typeMarker scope ⟨Text.qualify path name.text, scope.file, position⟩
        attributes).toOption.bind fun marker =>
          (unplaced? (elements scope (Text.qualify path name.text) 0
            (markedMembers scope.markers members))).map
              (Round.single ⟨name.text, path, kind, marker,
                .detached (Text.qualify path name.text)⟩) := by
  rw [record_eq]
  dsimp only
  cases typeMarker scope ⟨Text.qualify path name.text, scope.file, position⟩ attributes with
  | error fault => rfl
  | ok marker =>
      cases elements scope (Text.qualify path name.text) 0
          (markedMembers scope.markers members) with
      | error fault => rfl
      | ok columns => exact congrArg some (single_relabelled Relabelling.unplaced _ columns)

/-- A declaration is recorded for what is seen of it. -/
theorem record_seen (kind : DeclarationKind) (name : Identifier) (position place : Position)
    (attributes : List Attribute) (members : List Member) :
    Round.unplaced? (record ⟨markers, file⟩ path kind name position (markers.own attributes)
        (allSeen markers members)) =
      Round.unplaced? (record ⟨markers, other⟩ path kind name place attributes members) := by
  rw [unplaced?_record, unplaced?_record, markedMembers_seen,
    elements_seen markers file other _ 0 0,
    typeMarker_seen markers file other _ ⟨Text.qualify path name.text, other, place⟩]

/-- A declaration of which nothing is seen is not recorded. -/
theorem record_unseen {α : Type} (scope : Scope) {kind : DeclarationKind} {name : Identifier}
    {position : Position} (attributes : List Attribute) {members : List Member} {seen : List α}
    {member : α → Member} (same : seen.map member = allSeen scope.markers members)
    (hidden : ¬ (scope.markers.marksType attributes || !seen.isEmpty) = true) :
    record scope path kind name position attributes members = .ok .empty := by
  simp only [Bool.or_eq_true, not_or, Bool.not_eq_true, Bool.not_eq_false',
    List.isEmpty_iff] at hidden
  obtain ⟨unmarked, rfl⟩ := hidden
  have absent : Marker.find? attributes scope.markers.typeAttribute = none := by
    simpa [MarkerSet.marksType] using unmarked
  have bare : markedMembers scope.markers members = [] := by
    have traced := markedMembers_seen scope.markers members
    rw [← same] at traced
    exact List.map_eq_nil_iff.mp traced.symm
  rw [record_eq, bare]
  simp only [typeMarker, absent]
  rfl

/-- An implementation is scanned for what is seen of it: the last name of its type, and its members
with a marker. -/
theorem ofImplementation_seen (selfType : TypeExpr) (members : List AssociatedItem)
    (path : List String) :
    Round.unplaced? (ofItems ⟨markers, file⟩ path
        ((Item.implementation selfType members).seen? markers).toList) =
      Round.unplaced? (ofImplementation ⟨markers, other⟩ path selfType members) := by
  have traced := seen_implementationMembers markers members
  rw [Item.seen?, ofImplementation]
  cases selfType.lastSegment? with
  | none => rfl
  | some segment =>
      dsimp only
      cases seen : seenMembers markers members with
      | nil =>
          rw [seen] at traced
          rw [record_unseen ⟨markers, other⟩ [] traced Bool.false_ne_true]
          rfl
      | cons first others =>
          rw [seen] at traced
          dsimp only
          rw [Option.toList_some, ofItems_singleton, ofItem]
          change Round.unplaced? (record _ path .implementation segment.name .start []
            ((first :: others).map Member.ofImplementation)) = _
          rw [traced]
          exact record_seen markers file other .implementation segment.name _ _ [] _

mutual

/-- An item is scanned for what is seen of it. -/
theorem ofItem_seen : ∀ (item : Item) (path : List String),
    Round.unplaced? (ofItems ⟨markers, file⟩ path (item.seen? markers).toList) =
      Round.unplaced? (ofItem ⟨markers, other⟩ path item)
  | .module name none, path => by
      rw [Item.seen?, ofItem]
      rfl
  | .module name (some contents), path => by
      rw [ofItem, ← ofItems_seen contents, Item.seen?]
      cases Item.allSeen markers contents with
      | nil => rfl
      | cons first rest => rw [Option.toList_some, ofItems_singleton, ofItem]
  | .data item, path => by
      rw [Item.seen?, ofItem, ofDefinition]
      split
      · rw [Option.toList_some, ofItems_singleton, ofItem, ofDefinition, seen_fields]
        exact record_seen markers file other _ _ _ _ _ _
      · rename_i hidden
        rw [record_unseen ⟨markers, other⟩ _ (seen_fields markers item.fields) hidden]
        rfl
  | .trait attributes name position members, path => by
      rw [Item.seen?, ofItem]
      split
      · rw [Option.toList_some, ofItems_singleton, ofItem, seen_traitMembers]
        exact record_seen markers file other _ _ _ _ _ _
      · rename_i hidden
        rw [record_unseen ⟨markers, other⟩ _ (seen_traitMembers markers members) hidden]
        rfl
  | .implementation selfType members, path => by
      rw [ofItem]
      exact ofImplementation_seen markers file other selfType members path
  | .other, path => by
      rw [Item.seen?, ofItem]
      rfl

/-- Texts are scanned for what is seen of them. -/
theorem ofItems_seen : ∀ (items : List Item) (path : List String),
    Round.unplaced? (ofItems ⟨markers, file⟩ path (Item.allSeen markers items)) =
      Round.unplaced? (ofItems ⟨markers, other⟩ path items)
  | [], path => by
      rw [Item.allSeen]
      rfl
  | item :: rest, path => by
      rw [Item.allSeen, ofItems_append, ofItems_cons, Round.unplaced?_joined,
        Round.unplaced?_joined, ofItem_seen item, ofItems_seen rest]

end

variable {markers file other}

/-- Texts in which a scan sees the same have the same round, or none. -/
theorem ofItems_of_allSeen {items others : List Item}
    (same : Item.allSeen markers items = Item.allSeen markers others) (path : List String) :
    Round.unplaced? (ofItems ⟨markers, file⟩ path items) =
      Round.unplaced? (ofItems ⟨markers, other⟩ path others) := by
  rw [← ofItems_seen markers none file items, same, ofItems_seen markers none other others]

end Discovery

/-! ## Markers of another set -/

section Without

variable (rival : MarkerSet)

/-- The attributes that are none of the set. -/
def MarkerSet.strip (attributes : List Attribute) : List Attribute :=
  attributes.filter (!rival.owns ·)

namespace Source

def Field.without (field : Field) : Field :=
  { field with attributes := rival.strip field.attributes }

def AssociatedItem.without (member : AssociatedItem) : AssociatedItem :=
  { member with attributes := rival.strip member.attributes }

namespace Item

mutual

/-- The item with all markers of a set deleted. -/
def without : Item → Item
  | .module name (some contents) => .module name (some (allWithout contents))
  | .module name none => .module name none
  | .data item =>
      .data { item with
        attributes := rival.strip item.attributes
        fields := item.fields.map (Field.without rival) }
  | .trait attributes name position members =>
      .trait (rival.strip attributes) name position (members.map (AssociatedItem.without rival))
  | .implementation selfType members =>
      .implementation selfType (members.map (AssociatedItem.without rival))
  | .other => .other

def allWithout : List Item → List Item
  | [] => []
  | item :: rest => without item :: allWithout rest

end

end Item

end Source

end Without

/-- No attribute belongs to both sets. -/
def MarkerSet.Apart (markers rival : MarkerSet) : Prop :=
  ∀ attr : Attribute, markers.owns attr = true → rival.owns attr = false

namespace MarkerSet

variable {markers rival : MarkerSet}

theorem own_strip (apart : markers.Apart rival) (attributes : List Attribute) :
    markers.own (rival.strip attributes) = markers.own attributes := by
  rw [own, strip, List.filter_filter, own]
  refine congrArg (List.map Attribute.unplaced) (List.filter_congr fun attr _ => ?_)
  cases owned : markers.owns attr with
  | false => rfl
  | true => rw [apart attr owned]; rfl

/-- Deleting the markers of another set leaves the first one of every name. -/
theorem find?_strip (apart : markers.Apart rival) {name : String}
    (owned : ∀ attr : Attribute, attr.isNamed name = true → markers.owns attr = true)
    (attributes : List Attribute) :
    Marker.find? (rival.strip attributes) name = Marker.find? attributes name := by
  rw [strip, Marker.find?, List.find?_filter, Marker.find?]
  refine congrArg (attributes.find? ·) (funext fun attr => ?_)
  cases named : attr.isNamed name with
  | false => simp
  | true => simp [apart attr (owned attr named)]

theorem marksType_strip (apart : markers.Apart rival) (attributes : List Attribute) :
    markers.marksType (rival.strip attributes) = markers.marksType attributes :=
  congrArg Option.isSome (find?_strip apart owns_type attributes)

theorem marksColumn_strip (apart : markers.Apart rival) (attributes : List Attribute) :
    markers.marksColumn (rival.strip attributes) = markers.marksColumn attributes :=
  congrArg Option.isSome (find?_strip apart owns_column attributes)

end MarkerSet

namespace Source

variable {markers rival : MarkerSet}

theorem seenParts_without {α : Type} {attributes : α → List Attribute} {seen without : α → α}
    (apart : markers.Apart rival)
    (stripped : ∀ part, attributes (without part) = rival.strip (attributes part))
    (same : ∀ part, seen (without part) = seen part) (parts : List α) :
    seenParts markers attributes seen (parts.map without) =
      seenParts markers attributes seen parts := by
  simp only [seenParts, List.filter_map, List.map_map, Function.comp_def, stripped, same,
    MarkerSet.marksColumn_strip apart]

theorem seenFields_without (apart : markers.Apart rival) (fields : List Field) :
    seenFields markers (fields.map (Field.without rival)) = seenFields markers fields := by
  rw [seenFields]
  refine seenParts_without apart ?_ ?_ fields
  · exact fun _ => rfl
  · intro field
    simp only [Field.without, Field.seen, MarkerSet.own_strip apart]

theorem seenMembers_without (apart : markers.Apart rival) (members : List AssociatedItem) :
    seenMembers markers (members.map (AssociatedItem.without rival)) =
      seenMembers markers members := by
  rw [seenMembers]
  refine seenParts_without apart ?_ ?_ members
  · exact fun _ => rfl
  · intro member
    simp only [AssociatedItem.without, AssociatedItem.seen, MarkerSet.own_strip apart]

namespace Item

mutual

theorem seen?_without (apart : markers.Apart rival) : ∀ item : Item,
    (item.without rival).seen? markers = item.seen? markers
  | .module name (some contents) => by
      rw [without, seen?, seen?, allSeen_without apart contents]
  | .module _ none => rfl
  | .data item => by
      rw [without, seen?, seen?]
      dsimp only
      rw [seenFields_without apart, MarkerSet.marksType_strip apart, MarkerSet.own_strip apart]
  | .trait attributes name position members => by
      rw [without, seen?, seen?, seenMembers_without apart, MarkerSet.marksType_strip apart,
        MarkerSet.own_strip apart]
  | .implementation selfType members => by
      rw [without, seen?, seen?, seenMembers_without apart]
  | .other => rfl

/-- A scan does not see the markers of another set. -/
theorem allSeen_without (apart : markers.Apart rival) : ∀ items : List Item,
    allSeen markers (allWithout rival items) = allSeen markers items
  | [] => rfl
  | item :: rest => by
      rw [allWithout, allSeen, allSeen, seen?_without apart item, allSeen_without apart rest]

end

end Item

end Source

/-- The markers of one backend are not those of another. -/
theorem Backend.markers_apart {backend rival : Backend} (member : backend ∈ Backend.all)
    (rivalMember : rival ∈ Backend.all) (different : backend ≠ rival) :
    backend.markers.Apart rival.markers := by
  have distinct : ∀ name ∈ [backend.markers.typeAttribute, backend.markers.columnAttribute],
      name ∉ [rival.markers.typeAttribute, rival.markers.columnAttribute] := by
    simp only [Backend.all, List.mem_cons, List.not_mem_nil, or_false] at member rivalMember
    rcases member with rfl | rfl <;> rcases rivalMember with rfl | rfl <;>
      first | exact absurd rfl different | decide
  intro attr owned
  rw [← Bool.not_eq_true]
  intro alsoOwned
  rw [MarkerSet.owns, Bool.or_eq_true] at owned alsoOwned
  have shared : ∃ name ∈ [backend.markers.typeAttribute, backend.markers.columnAttribute],
      attr.isNamed name = true := by simpa using owned
  have alsoShared : ∃ name ∈ [rival.markers.typeAttribute, rival.markers.columnAttribute],
      attr.isNamed name = true := by simpa using alsoOwned
  obtain ⟨name, own, named⟩ := shared
  obtain ⟨other, foreign, alsoNamed⟩ := alsoShared
  exact distinct name own (Attribute.isNamed_unique named alsoNamed ▸ foreign)

end StorageMapping
