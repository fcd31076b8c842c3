import StorageMapping.Proofs.Processing.Configured
import StorageMapping.Proofs.Processing.Outcome
import StorageMapping.Proofs.Round.Nested
import StorageMapping.Proofs.Round.Records

namespace StorageMapping

/-! # Markers on methods and constants

Only a field can be a column. A column marker on a method or on a constant ends a run wherever the
scan comes by it: in every trait, and in every implementation of a type with a name. An
implementation of any other type is passed over together with its markers. -/

open Source Results

namespace Source.Item

/-- The methods and constants of a trait or of an implementation. -/
def associated : Item → List AssociatedItem
  | .trait _ _ _ members => members
  | .implementation _ members => members
  | _ => []

/-- Does one of its methods or constants have a marker? -/
def marksAssociated (name : String) (item : Item) : Bool :=
  item.associated.any fun member => (Marker.find? member.attributes name).isSome

/-- Is it an implementation of a type that does not end in a name, such as one in parentheses? -/
def isNameless : Item → Bool
  | .implementation selfType _ => selfType.lastSegment?.isNone
  | _ => false

mutual

/-- The item without the implementations of types without a name inside its modules. -/
def withoutNameless : Item → Item
  | .module name (some contents) => .module name (some (allWithoutNameless contents))
  | item => item

def allWithoutNameless : List Item → List Item
  | [] => []
  | item :: rest =>
      if item.isNameless then allWithoutNameless rest
      else item.withoutNameless :: allWithoutNameless rest

end

end Source.Item

namespace Discovery

variable {scope : Scope} {path : List String} {round : Round}

theorem elements_kinds {qualified : String} {number : Nat} {marked : List (Member × Attribute)}
    {columns : List MarkedElement} (read : elements scope qualified number marked = .ok columns) :
    columns.map (·.kind) = marked.map (·.1.kind) := by
  induction marked generalizing number columns with
  | nil =>
      cases read
      rfl
  | cons entry rest ih =>
      obtain ⟨first, others, here, later, rfl⟩ := elements_cons_eq_ok.mp read
      obtain ⟨_, _, _, _, _, rfl⟩ := element_eq_ok.mp here
      rw [List.map_cons, List.map_cons, ih later]

/-- A member with a marker is an element of the round, whatever kind of member it is. -/
theorem record_kinds {kind : DeclarationKind} {name : Identifier} {position : Position}
    {attributes : List Attribute} {members : List Member}
    (recorded : record scope path kind name position attributes members = .ok round)
    {member : Member} (inList : member ∈ members)
    (marked : (Marker.find? member.attributes scope.markers.columnAttribute).isSome = true) :
    ∃ element ∈ round.columns, element.kind = member.kind := by
  obtain ⟨attr, found⟩ := Option.isSome_iff_exists.mp marked
  have entry : (member, attr) ∈ markedMembers scope.markers members :=
    List.mem_filterMap.mpr ⟨member, inList, by rw [found]; rfl⟩
  obtain ⟨_, columns, _, read, rfl⟩ := record_eq_ok.mp recorded
  have kinds : member.kind ∈ columns.map (·.kind) := by
    rw [elements_kinds read]
    exact List.mem_map_of_mem (f := fun entry : Member × Attribute => entry.1.kind) entry
  obtain ⟨element, here, same⟩ := List.mem_map.mp kinds
  rw [Round.single, if_neg fun absent => List.ne_nil_of_mem here absent.2]
  exact ⟨element, here, same⟩

/-- What an item makes of its marked methods and constants is no field. -/
theorem ofItem_associated {item : Item} (scanned : ofItem scope path item = .ok round)
    (marks : item.marksAssociated scope.markers.columnAttribute = true)
    (named : item.isNameless = false) : ∃ element ∈ round.columns, element.kind ≠ .field := by
  obtain ⟨member, inItem, marked⟩ := List.any_eq_true.mp marks
  have unfielded : Member.elementKind member.kind ≠ .field := by cases member.kind <;> nofun
  cases item with
  | trait attributes name position members =>
      rw [ofItem] at scanned
      obtain ⟨element, here, same⟩ :=
        record_kinds scanned (List.mem_map_of_mem (f := Member.ofTrait) inItem) marked
      exact ⟨element, here, same ▸ unfielded⟩
  | implementation selfType members =>
      obtain ⟨segment, last⟩ : ∃ segment, selfType.lastSegment? = some segment :=
        Option.isSome_iff_exists.mp (by simpa [Item.isNameless] using named)
      rw [ofItem, ofImplementation] at scanned
      simp only [last] at scanned
      obtain ⟨element, here, same⟩ :=
        record_kinds scanned (List.mem_map_of_mem (f := Member.ofImplementation) inItem) marked
      exact ⟨element, here, same ▸ unfielded⟩
  | _ => cases inItem

theorem ofItem_nameless {item : Item} (nameless : item.isNameless = true) :
    ofItem scope path item = .ok .empty := by
  cases item with
  | implementation selfType members =>
      have last : selfType.lastSegment? = none := by simpa [Item.isNameless] using nameless
      rw [ofItem, ofImplementation, last]
      rfl
  | _ => cases nameless

mutual

theorem ofItem_withoutNameless (scope : Scope) : ∀ (item : Item) (path : List String),
    ofItem scope path item.withoutNameless = ofItem scope path item
  | .module name (some contents), path => by
      rw [Item.withoutNameless, ofItem, ofItem, ofItems_withoutNameless]
  | .module _ none, _ => rfl
  | .data _, _ => rfl
  | .trait .., _ => rfl
  | .implementation .., _ => rfl
  | .other, _ => rfl

theorem ofItems_withoutNameless (scope : Scope) : ∀ (items : List Item) (path : List String),
    ofItems scope path (Item.allWithoutNameless items) = ofItems scope path items
  | [], _ => rfl
  | item :: rest, path => by
      rw [Item.allWithoutNameless]
      split
      · rename_i nameless
        rw [ofItems_cons, ofItem_nameless nameless, Round.empty_joined,
          ofItems_withoutNameless scope rest]
      · rw [ofItems_cons, ofItems_cons, ofItem_withoutNameless, ofItems_withoutNameless scope rest]

end

end Discovery

namespace Processing

/-- A marker on a method or on a constant of a trait, or of an implementation of a type with a name,
keeps a text from being mapped. An implementation of any other type could as well not be there,
whatever markers it holds. -/
theorem processSource_associated {text : String} {items : List Item}
    (parsed : Reader.file text = .ok items) :
    (∀ (backend : Backend) modules (item : Item), item.Lies modules items →
      item.marksAssociated backend.markers.columnAttribute = true → item.isNameless = false →
        ∀ config file output, processSource backend config file text ≠ .ok output) ∧
      ∀ scope path, Discovery.ofItems scope path (Item.allWithoutNameless items) =
        Discovery.ofItems scope path items := by
  refine ⟨fun backend modules item lies marks named config file output completed => ?_,
    fun scope path => Discovery.ofItems_withoutNameless scope items path⟩
  obtain ⟨read, round, processor, sameText, scanned, _, processed⟩ :=
    processSource_eq_ok.mp completed
  cases parsed.symm.trans sameText
  obtain ⟨part, found, isPart⟩ := Discovery.ofItems_lies lies scanned
  obtain ⟨element, inPart, notField⟩ := Discovery.ofItem_associated found marks named
  obtain ⟨enclosing, inRound⟩ := isPart.columns inPart
  obtain ⟨faultless, _⟩ := process_eq_ok.mp processed
  obtain ⟨_, sound⟩ := attachable_of_mem faultless.columns inRound
  exact notField sound.isField

/-- A text with a marked method of a type. -/
def methodText (selfType : String) : String :=
  "impl " ++ selfType ++ "\x7b#[storio_sqlite_column(name=\"c\")]fn f()\x7b\x7d\x7d"

/-- Is it one item that has a marked method or constant, in an implementation that is nameless or
not? -/
def marksOnce (nameless : Bool) : List Item → Bool
  | [item] => item.marksAssociated "storio_sqlite_column" && item.isNameless == nameless
  | _ => false

theorem items_of_marksOnce {text : String} {nameless : Bool}
    (checked : (Reader.file text).toOption.any (marksOnce nameless) = true) :
    ∃ item, Reader.file text = .ok [item] ∧
      item.marksAssociated Backend.sqlite.markers.columnAttribute = true ∧
      item.isNameless = nameless := by
  obtain ⟨items, parsed, once⟩ := exists_of_any checked
  match items, once with
  | [item], once =>
      rw [marksOnce, Bool.and_eq_true] at once
      exact ⟨item, parsed, once.1, eq_of_beq once.2⟩

theorem processSource_associated_method :
    ∃ item, Reader.file (methodText "T") = .ok [item] ∧
      item.marksAssociated Backend.sqlite.markers.columnAttribute = true ∧
      ∀ output, processSource .sqlite .standard none (methodText "T") ≠ .ok output := by
  obtain ⟨item, parsed, marks, named⟩ := @items_of_marksOnce (methodText "T") false
    (by decide +kernel)
  have refused := (processSource_associated parsed).1 .sqlite [] item
    (.here (List.mem_singleton_self item)) marks named
  exact ⟨item, parsed, marks, refused .standard none⟩

/-- The same method of the same type in parentheses is accepted, and nothing is made of it. -/
theorem parenthesized_unseen :
    ∃ item, Reader.file (methodText "(T)") = .ok [item] ∧ item.Lies [] [item] ∧
      item.marksAssociated Backend.sqlite.markers.columnAttribute = true ∧
      ∃ output, processSource .sqlite .standard none (methodText "(T)") = .ok output ∧
        output.isEmpty = true := by
  obtain ⟨item, parsed, marks, _⟩ := @items_of_marksOnce (methodText "(T)") true
    (by decide +kernel)
  have accepted : (processSource .sqlite .standard none (methodText "(T)")).toOption.any
      (·.isEmpty) = true := by decide +kernel
  exact ⟨item, parsed, .here (List.mem_singleton_self item), marks, exists_of_any accepted⟩

end Processing

end StorageMapping
