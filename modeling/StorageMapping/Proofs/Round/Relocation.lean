import StorageMapping.Proofs.Processing.Relabelling
import StorageMapping.Proofs.Round.Composition
import StorageMapping.Proofs.Round.Records

namespace StorageMapping

/-! # A text in another place

A text may stand below any module. Its round is the same there, with the path of the module put in
front of every name. -/

open Source Results

theorem Text.qualify_append (path inner : List String) (name : String) :
    qualify (path ++ inner) name = qualify path (qualify inner name) := by
  cases path with
  | nil => rfl
  | cons first rest =>
      cases inner with
      | nil => simp [qualify]
      | cons next others =>
          have joined := String.intercalate_append_of_ne_nil (l := first :: rest)
            (m := next :: others) (s := "::") (by simp) (by simp)
          simp only [List.cons_append] at joined
          simp [qualify, joined, String.append_assoc]

theorem Text.qualify_colons (path : List String) (qualified name : String) :
    qualify path qualified ++ "::" ++ name = qualify path (qualified ++ "::" ++ name) := by
  simp only [qualify]
  split
  · rfl
  · simp only [String.append_assoc]

/-- What stands at a path, moved below another one. -/
def Relabelling.below (path : List String) : Relabelling where
  location location := { location with element := Text.qualify path location.element }
  modulePath := (path ++ ·)
  type := id

theorem Relabelling.below_faithful (path : List String) (introspect : Introspector) :
    (Relabelling.below path).Faithful introspect :=
  ⟨fun _ => rfl, fun _ => rfl⟩

namespace Discovery

variable {scope : Scope} {path inner : List String} {round : Round}

theorem element_below {qualified : String} {number : Nat} {member : Member} {attr : Attribute}
    {found : MarkedElement} (read : element scope qualified number member attr = .ok found) :
    element scope (Text.qualify path qualified) number member attr =
      .ok ((Relabelling.below path).element found) := by
  obtain ⟨name, position, marker, named, marked, rfl⟩ := element_eq_ok.mp read
  refine element_eq_ok.mpr ⟨name, position, marker, named, marked, ?_⟩
  rw [Text.qualify_colons]
  cases member.type <;> rfl

theorem elements_below {qualified : String} {number : Nat} {marked : List (Member × Attribute)}
    {found : List MarkedElement} (read : elements scope qualified number marked = .ok found) :
    elements scope (Text.qualify path qualified) number marked =
      .ok (found.map (Relabelling.below path).element) := by
  induction marked generalizing number found with
  | nil =>
      cases read
      rfl
  | cons entry rest ih =>
      obtain ⟨first, others, here, later, rfl⟩ := elements_cons_eq_ok.mp read
      exact elements_cons_eq_ok.mpr ⟨_, _, element_below here, ih later, rfl⟩

theorem typeMarker_located {location : Location} {attributes : List Attribute}
    {marker : Option Locators} (read : typeMarker scope location attributes = .ok marker)
    (other : Location) : typeMarker scope other attributes = .ok marker := by
  rw [← toOption_eq_some, toOption_typeMarker] at read ⊢
  exact read

theorem single_relabelled (relabelling : Relabelling) (declaration : Declaration)
    (columns : List MarkedElement) :
    relabelling.round (Round.single declaration columns) =
      Round.single (relabelling.declaration declaration) (columns.map relabelling.element) := by
  simp only [Round.single, Relabelling.declaration, List.map_eq_nil_iff]
  split <;> rfl

theorem record_below {kind : DeclarationKind} {name : Identifier} {position : Position}
    {attributes : List Attribute} {members : List Member}
    (recorded : record scope inner kind name position attributes members = .ok round) :
    record scope (path ++ inner) kind name position attributes members =
      .ok ((Relabelling.below path).round round) := by
  obtain ⟨marker, columns, marked, read, rfl⟩ := record_eq_ok.mp recorded
  refine record_eq_ok.mpr
    ⟨marker, columns.map (Relabelling.below path).element, typeMarker_located marked _, ?_, ?_⟩
  · rw [Text.qualify_append]
    exact elements_below read
  · rw [single_relabelled, Text.qualify_append]
    rfl

theorem extend_below (front back : Round) :
    (Relabelling.below path).round (front.extend back) =
      ((Relabelling.below path).round front).extend ((Relabelling.below path).round back) := by
  simp only [Relabelling.round, Round.extend, List.map_append, List.map_map, List.length_map]
  rfl

mutual

theorem ofItem_below : ∀ (item : Item) {inner : List String} {round : Round},
    ofItem scope inner item = .ok round →
      ofItem scope (path ++ inner) item = .ok ((Relabelling.below path).round round)
  | .module name (some contents), inner, round, scanned => by
      rw [ofItem] at scanned ⊢
      rw [List.append_assoc]
      exact ofItems_below contents scanned
  | .module name none, inner, round, scanned => by
      rw [ofItem] at scanned ⊢
      cases scanned
      rfl
  | .data item, inner, round, scanned => by
      rw [ofItem] at scanned ⊢
      exact record_below scanned
  | .trait attributes name position members, inner, round, scanned => by
      rw [ofItem] at scanned ⊢
      exact record_below scanned
  | .implementation selfType members, inner, round, scanned => by
      rw [ofItem, ofImplementation] at scanned ⊢
      split at scanned
      · exact record_below scanned
      · cases scanned
        rfl
  | .other, inner, round, scanned => by
      rw [ofItem] at scanned ⊢
      cases scanned
      rfl

theorem ofItems_below : ∀ (items : List Item) {inner : List String} {round : Round},
    ofItems scope inner items = .ok round →
      ofItems scope (path ++ inner) items = .ok ((Relabelling.below path).round round)
  | [], inner, round, scanned => by
      rw [ofItems] at scanned ⊢
      cases scanned
      rfl
  | item :: rest, inner, round, scanned => by
      rw [ofItems_cons] at scanned ⊢
      obtain ⟨first, others, here, later, rfl⟩ := Round.joined_eq_ok.mp scanned
      rw [ofItem_below item here, ofItems_below rest later, extend_below]
      rfl

end

end Discovery

end StorageMapping
