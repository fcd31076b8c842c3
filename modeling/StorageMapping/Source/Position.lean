namespace StorageMapping.Source

/-! Places in a source text. Lines and columns count from one; a column counts characters. -/

structure Position where
  line : Nat
  column : Nat
deriving DecidableEq, Repr, Inhabited

namespace Position

/-- The first character of a text, and the place of whatever stands in no text. -/
def start : Position := ⟨1, 1⟩

/-- The place after one character. -/
def next (position : Position) (c : Char) : Position :=
  if c = '\n' then ⟨position.line + 1, 1⟩ else ⟨position.line, position.column + 1⟩

/-- The place after a text. -/
def advance (position : Position) (text : List Char) : Position :=
  text.foldl next position

end Position

end StorageMapping.Source
