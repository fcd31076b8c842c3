import StorageMapping.Proofs.Text.Cutting
import StorageMapping.Unit.Statement

namespace StorageMapping

/-! # Clauses on key columns

Storage names get into a clause as they are. How many placeholders a reader finds in it, into which
parts it falls, and whether it tells the names that it was made of depends on the names alone. -/

namespace KeyCondition

/-- The part of a clause that compares one column. -/
def part (name : String) : String := name ++ " = ?"

/-- The clause on some key columns. -/
def clauseOf (names : List String) : String := String.intercalate " AND " (names.map part)

variable {names others : List String}

theorem clauseOf_cons_cons (name next : String) (names : List String) :
    clauseOf (name :: next :: names) = part name ++ " AND " ++ clauseOf (next :: names) :=
  String.intercalate_cons_cons

theorem toList_part (name : String) : (part name).toList = name.toList ++ [' ', '=', ' ', '?'] :=
  String.toList_append

/-! ## Placeholders -/

theorem count_part (name : String) :
    (part name).toList.count '?' = name.toList.count '?' + 1 := by
  rw [toList_part, List.count_append]
  rfl

theorem count_part_append (name text : String) :
    (part name ++ " AND " ++ text).toList.count '?' =
      name.toList.count '?' + 1 + text.toList.count '?' := by
  have connective : " AND ".toList.count '?' = 0 := rfl
  rw [String.toList_append, String.toList_append, List.count_append, List.count_append, connective,
    count_part, Nat.add_zero]

/-- A clause has a placeholder for every column, besides the question marks in names. -/
theorem count_clauseOf (names : List String) :
    (clauseOf names).toList.count '?' =
      (names.flatMap String.toList).count '?' + names.length := by
  induction names with
  | nil => rfl
  | cons name names ih =>
      rw [List.flatMap_cons, List.count_append, List.length_cons]
      cases names with
      | nil => simp [clauseOf, count_part]
      | cons next names =>
          rw [clauseOf_cons_cons, count_part_append, ih]
          omega

theorem count_clauseOf_eq :
    (clauseOf names).toList.count '?' = names.length ↔ ∀ name ∈ names, '?' ∉ name.toList := by
  rw [count_clauseOf, Nat.add_eq_right, List.count_eq_zero]
  simp only [List.mem_flatMap, not_exists, not_and]

/-- Where no name has a question mark, the placeholders stand behind the names in their order. -/
theorem placeholder_of_name (unmarked : ∀ name ∈ names, '?' ∉ name.toList) {index : Nat}
    {name : String} (found : names[index]? = some name) :
    ∃ front back, clauseOf names = front ++ part name ++ back ∧
      front.toList.count '?' = index := by
  induction names generalizing index with
  | nil => simp at found
  | cons first names ih =>
      obtain ⟨here, later⟩ := List.forall_mem_cons.mp unmarked
      cases names with
      | nil =>
          obtain ⟨rfl, rfl⟩ : index = 0 ∧ first = name := by
            cases index <;> simp_all
          exact ⟨"", "", by simp [clauseOf], rfl⟩
      | cons next names =>
          cases index with
          | zero =>
              cases found
              exact ⟨"", " AND " ++ clauseOf (next :: names),
                by simp [clauseOf_cons_cons, String.append_assoc], rfl⟩
          | succ index =>
              obtain ⟨front, back, same, counted⟩ := ih later found
              refine ⟨part first ++ " AND " ++ front, back, ?_, ?_⟩
              · rw [clauseOf_cons_cons, same]
                simp only [String.append_assoc]
              · rw [count_part_append, List.count_eq_zero.mpr here, counted]
                omega

/-! ## Parts -/

theorem apart_part (name : String) : Text.Apart " AND ".toList (part name).toList := by
  intro back filled ends begins
  -- every end of a part has its placeholder, and the connective has none
  have last : back.getLast filled = '?' := by
    rw [ends.getLast filled]
    simp [toList_part]
  have inside : '?' ∈ " AND ".toList := last ▸ begins.subset (List.getLast_mem filled)
  exact absurd inside (by decide)

/-- A clause falls into its parts just where none of them has a connective inside. -/
theorem parts_clauseOf (present : names ≠ []) :
    Text.parts " AND " (clauseOf names) = names.map part ↔
      ∀ name ∈ names, ¬ " AND ".toList <:+: (part name).toList := by
  rw [clauseOf, Text.parts_intercalate (by decide) (List.map_eq_nil_iff.not.mpr present)
    (List.forall_mem_map.mpr fun name _ => apart_part name), List.forall_mem_map]

/-! ## Clauses that tell their names -/

/-- No part looks like one with another part behind it. -/
def Unambiguous (names : List String) : Prop :=
  ∀ name ∈ names, ¬ "? AND ".toList <:+: (part name).toList

theorem unambiguous_of_unmarked (unmarked : ∀ name ∈ names, '?' ∉ name.toList) :
    Unambiguous names := by
  rintro name member ⟨front, back, same⟩
  have single : (part name).toList.count '?' = 1 := by
    rw [count_part, List.count_eq_zero.mpr (unmarked name member)]
  have last : (front ++ "? AND ".toList ++ back).getLast? = some '?' := by
    rw [same]
    simp [toList_part]
  have marked : '?' ∈ back := by
    cases back with
    | nil => simp at last
    | cons c back =>
        rw [List.getLast?_append_cons] at last
        exact List.mem_of_getLast? last
  have mark : "? AND ".toList.count '?' = 1 := rfl
  rw [← same, List.count_append, List.count_append, mark] at single
  have more := List.count_pos_iff.mpr marked
  omega

theorem unambiguous_of_unbroken
    (unbroken : ∀ name ∈ names, ¬ " AND ".toList <:+: (part name).toList) : Unambiguous names := by
  intro name member inside
  exact unbroken name member (List.IsInfix.trans ⟨['?'], [], rfl⟩ inside)

/-- What stands in front of a placeholder. -/
def stem (name : String) : String := name ++ " = "

theorem part_eq (name : String) : part name = stem name ++ "?" := by
  rw [part, stem, String.append_assoc]
  rfl

theorem apart_stem (name : String) : Text.Apart "? AND ".toList (stem name).toList := by
  rintro back filled ⟨front, same⟩ begins
  have closing : back.reverse ++ front.reverse = ' ' :: '=' :: ' ' :: name.toList.reverse := by
    rw [← List.reverse_append, same, stem, String.toList_append, List.reverse_append]
    rfl
  -- among the beginnings only the second and the whole end in a blank
  have beginning : back ∈ "? AND ".toList.inits := (List.mem_inits _ _).mpr begins
  simp only [String.reduceToList, List.inits, List.map_cons, List.map_nil, List.mem_cons,
    List.not_mem_nil, or_false] at beginning
  rcases beginning with rfl | rfl | rfl | rfl | rfl | rfl | rfl <;> simp at filled closing

theorem clauseOf_eq_stems (present : names ≠ []) :
    clauseOf names = String.intercalate "? AND " (names.map stem) ++ "?" := by
  induction names with
  | nil => contradiction
  | cons name names ih =>
      cases names with
      | nil => simp [clauseOf, part_eq]
      | cons next names =>
          have joined : String.intercalate "? AND " ((name :: next :: names).map stem) =
              stem name ++ "? AND " ++ String.intercalate "? AND " ((next :: names).map stem) :=
            String.intercalate_cons_cons
          rw [clauseOf_cons_cons, ih (List.cons_ne_nil _ _), joined, part_eq]
          simp only [String.append_assoc]
          rfl

theorem parts_stems (present : names ≠ []) (unambiguous : Unambiguous names) :
    Text.parts "? AND " (String.intercalate "? AND " (names.map stem)) = names.map stem := by
  rw [Text.parts_intercalate (by decide) (List.map_eq_nil_iff.not.mpr present)
    (List.forall_mem_map.mpr fun name _ => apart_stem name), List.forall_mem_map]
  intro name member inside
  refine unambiguous name member (inside.trans ?_)
  rw [part_eq, String.toList_append]
  exact (List.prefix_append _ _).isInfix

theorem clauseOf_ne_empty (present : names ≠ []) : clauseOf names ≠ "" := by
  rw [clauseOf_eq_stems present]
  simp

/-- Two lists of names that are not alike have different clauses. -/
theorem clauseOf_injective (first : Unambiguous names) (second : Unambiguous others)
    (same : clauseOf names = clauseOf others) : names = others := by
  by_cases none : names = []
  · by_contra different
    rw [none] at same different
    exact clauseOf_ne_empty (Ne.symm different) same.symm
  · have present : others ≠ [] := by
      rintro rfl
      exact clauseOf_ne_empty none same
    rw [clauseOf_eq_stems none, clauseOf_eq_stems present, String.append_left_inj] at same
    have stems : names.map stem = others.map stem := by
      rw [← parts_stems none first, same, parts_stems present second]
    have injective : Function.Injective stem := fun _ _ => (String.append_left_inj " = ").mp
    exact injective.list_map stems

end KeyCondition

namespace TypeModel

def keyNames (model : TypeModel) : List String := model.keyColumns.map (·.storageName)

theorem clause_ofModel (model : TypeModel) :
    (KeyCondition.ofModel model).clause = KeyCondition.clauseOf model.keyNames := by
  rw [KeyCondition.clause, KeyCondition.ofModel, KeyCondition.clauseOf, keyNames, List.map_map,
    List.map_map]
  rfl

end TypeModel

end StorageMapping
