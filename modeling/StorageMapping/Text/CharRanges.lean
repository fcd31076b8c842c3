namespace StorageMapping.Text

/-! Sets of characters, written as inclusive ranges of code points in ascending order. -/

abbrev CharRanges := List (Nat × Nat)

namespace CharRanges

/-- Membership. The search ends at the first range that starts above the code point. -/
def contains : CharRanges → Nat → Bool
  | [], _ => false
  | (first, last) :: rest, code =>
      if code < first then false else code ≤ last || contains rest code

end CharRanges

end StorageMapping.Text
