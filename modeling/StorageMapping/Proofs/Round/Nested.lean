import StorageMapping.Proofs.Results
import StorageMapping.Proofs.Round.Composition

namespace StorageMapping

/-! # Items inside modules

An item is scanned at the path of the modules around it, wherever they stand among others. What it
leaves is a part of the round of the text. -/

open Source Results

/-- An item stands among others, inside modules of these names. -/
inductive Source.Item.Lies (item : Item) : List Identifier → List Item → Prop
  | here {items : List Item} (member : item ∈ items) : Lies item [] items
  | inside {name : Identifier} {modules : List Identifier} {contents items : List Item}
      (held : Item.module name (some contents) ∈ items) (below : Lies item modules contents) :
      Lies item (name :: modules) items

/-- A scan at a path comes by an item inside modules of these names: nothing in front of it, or of
the modules around it, is at fault. -/
inductive Source.Item.Reached (scope : Discovery.Scope) (item : Item) :
    List String → List Identifier → List Item → Prop
  | here {path : List String} {front behind : List Item} {round : Round}
      (scanned : Discovery.ofItems scope path front = .ok round) :
      Reached scope item path [] (front ++ item :: behind)
  | inside {path : List String} {name : Identifier} {modules : List Identifier}
      {contents front behind : List Item} {round : Round}
      (scanned : Discovery.ofItems scope path front = .ok round)
      (below : Reached scope item (path ++ [name.text]) modules contents) :
      Reached scope item path (name :: modules) (front ++ .module name (some contents) :: behind)

/-- A round is a part of another: in front of it and behind it are the rounds of other parts. -/
def Round.IsPart (part round : Round) : Prop :=
  ∃ front back : Round, round = (front.extend part).extend back

namespace Round.IsPart

variable {part round : Round}

theorem trans {whole : Round} (inner : part.IsPart round) (outer : round.IsPart whole) :
    part.IsPart whole := by
  obtain ⟨front, back, rfl⟩ := inner
  obtain ⟨first, last, rfl⟩ := outer
  exact ⟨first.extend front, back.extend last, by simp only [extend_assoc]⟩

theorem declarations (isPart : part.IsPart round) {declaration : Declaration}
    (member : declaration ∈ part.declarations) : declaration ∈ round.declarations := by
  obtain ⟨front, back, rfl⟩ := isPart
  exact List.mem_append_left _ (List.mem_append_right _ member)

/-- Elements of a part are numbered on, and are otherwise as they were. -/
theorem columns (isPart : part.IsPart round) {element : MarkedElement}
    (member : element ∈ part.columns) :
    ∃ enclosing, { element with enclosing := enclosing } ∈ round.columns := by
  obtain ⟨front, back, rfl⟩ := isPart
  have numbered := List.mem_map_of_mem (f := fun element : MarkedElement =>
    { element with enclosing := element.enclosing + front.declarations.length }) member
  exact ⟨_, List.mem_append_left _ (List.mem_append_right _ numbered)⟩

end Round.IsPart

namespace Discovery

variable {scope : Scope} {path : List String} {round : Round} {item : Item} {items : List Item}

theorem ofItems_mem (member : item ∈ items) (scanned : ofItems scope path items = .ok round) :
    ∃ part, ofItem scope path item = .ok part ∧ part.IsPart round := by
  obtain ⟨before, behind, rfl⟩ := List.append_of_mem member
  rw [ofItems_append, ofItems_cons] at scanned
  obtain ⟨front, _, _, behind, rfl⟩ := Round.joined_eq_ok.mp scanned
  obtain ⟨part, back, here, _, rfl⟩ := Round.joined_eq_ok.mp behind
  exact ⟨part, here, front, back, (Round.extend_assoc front part back).symm⟩

/-- Where the items of a text are scanned, so is each item in its modules. -/
theorem ofItems_lies {modules : List Identifier} (lies : item.Lies modules items)
    (scanned : ofItems scope path items = .ok round) :
    ∃ part, ofItem scope (path ++ modules.map (·.text)) item = .ok part ∧ part.IsPart round := by
  induction lies generalizing path round with
  | here member =>
      rw [List.map_nil, List.append_nil]
      exact ofItems_mem member scanned
  | @inside name modules _ _ held _ ih =>
      obtain ⟨whole, read, outer⟩ := ofItems_mem held scanned
      rw [ofItem] at read
      obtain ⟨part, found, inner⟩ := ih read
      rw [List.append_assoc] at found
      exact ⟨part, found, inner.trans outer⟩

theorem ofItems_fault {front behind : List Item} {fault : Diagnostic}
    (scanned : ofItems scope path front = .ok round)
    (failed : ofItem scope path item = .error fault) :
    ofItems scope path (front ++ item :: behind) = .error fault := by
  rw [ofItems_append, ofItems_cons, scanned, failed]
  rfl

/-- An item that a scan comes by ends it with its own fault. -/
theorem ofItems_reached {modules : List Identifier} {fault : Diagnostic}
    (reached : item.Reached scope path modules items)
    (failed : ofItem scope (path ++ modules.map (·.text)) item = .error fault) :
    ofItems scope path items = .error fault := by
  induction reached with
  | here scanned =>
      rw [List.map_nil, List.append_nil] at failed
      exact ofItems_fault scanned failed
  | inside scanned _ ih =>
      refine ofItems_fault scanned ?_
      rw [ofItem]
      exact ih (by rwa [List.append_assoc])

end Discovery

end StorageMapping
