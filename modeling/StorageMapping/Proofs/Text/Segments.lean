import Mathlib.Data.List.TakeWhile
import StorageMapping.Text.Segments

namespace StorageMapping.Text

/-! # Joined segments

Segments that are joined by double colons are found again. -/

/-- A text that is one segment of a path, with no blanks around it. -/
structure Segment (text : String) : Prop where
  filled : text ≠ ""
  unbroken : ∀ c ∈ text.toList, c ≠ ':' ∧ isSpace c = false

theorem splitAtColons_last {segment word : List Char} (unbroken : ':' ∉ word) :
    splitAtColons segment word = [segment.reverse ++ word] := by
  induction word generalizing segment with
  | nil => simp [splitAtColons]
  | cons c rest ih =>
      simp only [List.mem_cons, not_or] at unbroken
      rw [splitAtColons, ih unbroken.2]
      · simp
      · rintro _ rfl
        exact absurd rfl unbroken.1

theorem splitAtColons_append {segment word rest : List Char} (unbroken : ':' ∉ word) :
    splitAtColons segment (word ++ ':' :: ':' :: rest) =
      (segment.reverse ++ word) :: splitAtColons [] rest := by
  induction word generalizing segment with
  | nil => simp [splitAtColons]
  | cons c word ih =>
      simp only [List.mem_cons, not_or] at unbroken
      rw [List.cons_append, splitAtColons, ih unbroken.2]
      · simp
      · intro _ same _
        exact unbroken.1 same.symm

theorem splitAtColons_intercalate {word : String} {words : List String}
    (segments : ∀ other ∈ word :: words, Segment other) :
    splitAtColons [] (String.intercalate "::" (word :: words)).toList =
      (word :: words).map String.toList := by
  have whole : ∀ {other : String}, Segment other → ':' ∉ other.toList :=
    fun segment member => (segment.unbroken _ member).1 rfl
  induction words generalizing word with
  | nil =>
      rw [String.intercalate_singleton, splitAtColons_last (whole (segments word (by simp)))]
      rfl
  | cons next others ih =>
      have later := ih fun other member => segments other (List.mem_cons_of_mem word member)
      have colons : "::".toList = [':', ':'] := rfl
      rw [String.intercalate_cons_cons, String.toList_append, String.toList_append, colons,
        List.append_assoc, List.cons_append, List.cons_append, List.nil_append,
        splitAtColons_append (whole (segments word (by simp))), later]
      rfl

theorem trim_eq_self {text : List Char} (visible : ∀ c ∈ text, isSpace c = false) :
    trim text = text := by
  have kept : ∀ {part : List Char}, (∀ c ∈ part, isSpace c = false) →
      part.dropWhile isSpace = part := by
    intro part visible
    cases part with
    | nil => rfl
    | cons c rest => rw [List.dropWhile_cons_of_neg (by simp [visible c])]
  rw [trim, kept visible, kept (by simpa using visible), List.reverse_reverse]

theorem moduleSegments_intercalate {words : List String}
    (segments : ∀ word ∈ words, Segment word) :
    moduleSegments (String.intercalate "::" words) = words := by
  cases words with
  | nil => rfl
  | cons word words =>
      have trimmed : ((word :: words).map String.toList).map trim =
          (word :: words).map String.toList := by
        rw [List.map_map]
        refine List.map_congr_left fun other member => trim_eq_self fun c inside => ?_
        exact ((segments other member).unbroken c inside).2
      have filled : ((word :: words).map String.toList).filter (!·.isEmpty) =
          (word :: words).map String.toList := by
        refine List.filter_eq_self.mpr fun letters member => ?_
        obtain ⟨other, otherMember, rfl⟩ := List.mem_map.mp member
        simpa using (segments other otherMember).filled
      rw [moduleSegments, splitAtColons_intercalate segments, trimmed, filled, List.map_map]
      simp

end StorageMapping.Text
