import Mathlib.Data.List.Infix

namespace StorageMapping.Text

/-! # Texts that are cut at separators

Parts that are joined by a separator are found again by cutting at it, unless a part has a separator
inside or ends like the beginning of one. -/

/-- Cuts at every separator, leftmost first. The letters to skip are those of a separator that has
been found. -/
def cut (separator : List Char) : Nat → List Char → List (List Char)
  | _, [] => [[]]
  | skip + 1, _ :: rest => cut separator skip rest
  | 0, c :: rest =>
      if separator <+: c :: rest then [] :: cut separator (separator.length - 1) rest
      else (cut separator 0 rest).modifyHead (c :: ·)

/-- The parts of a text between separators. -/
def parts (separator text : String) : List String :=
  (cut separator.toList 0 text.toList).map String.ofList

variable {separator part rest text piece : List Char}

theorem cut_nil (skip : Nat) : cut separator skip [] = [[]] := by
  cases skip <;> rfl

theorem cut_cons {c : Char} : cut separator 0 (c :: rest) =
    if separator <+: c :: rest then [] :: cut separator (separator.length - 1) rest
    else (cut separator 0 rest).modifyHead (c :: ·) := rfl

theorem cut_eq_drop (skip : Nat) : cut separator skip text = cut separator 0 (text.drop skip) := by
  induction text generalizing skip with
  | nil => rw [cut_nil, List.drop_nil, cut_nil]
  | cons c rest ih =>
      cases skip with
      | zero => rfl
      | succ skip => exact ih skip

theorem cut_separator (filled : separator ≠ []) :
    cut separator 0 (separator ++ rest) = [] :: cut separator 0 rest := by
  obtain ⟨c, others, rfl⟩ := List.exists_cons_of_ne_nil filled
  rw [List.cons_append, cut_cons, if_pos ⟨rest, rfl⟩, cut_eq_drop]
  simp

/-- The part does not end like the beginning of a separator. -/
def Apart (separator part : List Char) : Prop :=
  ∀ back, back ≠ [] → back <:+ part → ¬ back <+: separator

/-- No separator begins in a part that is apart from what follows and has none inside. -/
theorem cut_append (apart : Apart separator part) (unbroken : ¬ separator <:+: part) :
    cut separator 0 (part ++ rest) = (cut separator 0 rest).modifyHead (part ++ ·) := by
  induction part with
  | nil => exact (congrFun List.modifyHead_id _).symm
  | cons c part ih =>
      have absent : ¬ separator <+: (c :: part) ++ rest := by
        intro begins
        rcases List.prefix_or_prefix_of_prefix begins (List.prefix_append (c :: part) rest) with
          inside | across
        · exact unbroken inside.isInfix
        · exact apart _ (List.cons_ne_nil c part) (List.suffix_refl _) across
      have shorter := List.suffix_cons c part
      rw [List.cons_append] at absent ⊢
      rw [cut_cons, if_neg absent,
        ih (fun back filled ends => apart back filled (ends.trans shorter))
          (fun inside => unbroken (inside.trans shorter.isInfix)),
        List.modifyHead_modifyHead]
      rfl

theorem cut_intercalate {pieces : List (List Char)} (filled : separator ≠ [])
    (present : pieces ≠ []) (apart : ∀ piece ∈ pieces, Apart separator piece)
    (unbroken : ∀ piece ∈ pieces, ¬ separator <:+: piece) :
    cut separator 0 (separator.intercalate pieces) = pieces := by
  induction pieces with
  | nil => contradiction
  | cons piece others ih =>
      obtain ⟨here, later⟩ := List.forall_mem_cons.mp apart
      obtain ⟨whole, others_whole⟩ := List.forall_mem_cons.mp unbroken
      cases others with
      | nil =>
          have alone := @cut_append separator piece [] here whole
          simpa [cut_nil] using alone
      | cons next others =>
          have joined : separator.intercalate (piece :: next :: others) =
              piece ++ (separator ++ separator.intercalate (next :: others)) := by
            simp [List.intercalate]
          rw [joined, cut_append here whole, cut_separator filled,
            ih (List.cons_ne_nil _ _) later others_whole]
          simp

theorem exists_cut_eq_cons :
    ∃ first others, cut separator 0 text = first :: others ∧ first <+: text := by
  induction text with
  | nil => exact ⟨[], [], rfl, List.prefix_refl []⟩
  | cons c rest ih =>
      rw [cut_cons]
      split
      · exact ⟨[], _, rfl, List.nil_prefix⟩
      · obtain ⟨first, others, same, begins⟩ := ih
        exact ⟨c :: first, others, by rw [same]; rfl, List.cons_prefix_cons.mpr ⟨rfl, begins⟩⟩

/-- No separator is left inside of a piece. -/
theorem not_infix_of_mem_cut (filled : separator ≠ []) {skip : Nat}
    (member : piece ∈ cut separator skip text) : ¬ separator <:+: piece := by
  induction text generalizing skip piece with
  | nil =>
      rw [cut_nil, List.mem_singleton] at member
      simpa [member] using filled
  | cons c rest ih =>
      cases skip with
      | succ skip => exact ih member
      | zero =>
          rw [cut_cons] at member
          split at member
          · rcases List.mem_cons.mp member with rfl | later
            · simpa using filled
            · exact ih later
          · rename_i absent
            obtain ⟨first, others, same, begins⟩ := @exists_cut_eq_cons separator rest
            have first_whole : ¬ separator <:+: first := @ih first 0 (same ▸ List.mem_cons_self)
            rw [same] at member
            rcases List.mem_cons.mp member with rfl | later
            · rw [List.infix_cons_iff]
              rintro (front | inside)
              · exact absent (front.trans (List.cons_prefix_cons.mpr ⟨rfl, begins⟩))
              · exact first_whole inside
            · exact @ih piece 0 (same ▸ List.mem_cons_of_mem first later)

/-- Joined texts that are apart from the separator are found again just where none of them has a
separator inside. -/
theorem parts_intercalate {separator : String} {texts : List String}
    (filled : separator.toList ≠ []) (present : texts ≠ [])
    (apart : ∀ text ∈ texts, Apart separator.toList text.toList) :
    parts separator (String.intercalate separator texts) = texts ↔
      ∀ text ∈ texts, ¬ separator.toList <:+: text.toList := by
  rw [parts, String.toList_intercalate]
  constructor
  · intro found text member inside
    rw [← found] at member
    obtain ⟨piece, isPiece, rfl⟩ := List.mem_map.mp member
    rw [String.toList_ofList] at inside
    exact not_infix_of_mem_cut filled isPiece inside
  · intro unbroken
    rw [cut_intercalate filled (List.map_eq_nil_iff.not.mpr present) (List.forall_mem_map.mpr apart)
      (List.forall_mem_map.mpr unbroken), List.map_map]
    simp

end StorageMapping.Text
