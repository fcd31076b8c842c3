import StorageMapping.Text.Letters

namespace StorageMapping.Source

/-! Identifiers. A raw identifier is written with `r#` in front, which makes any word but the
path keywords a name; it never equals a word written plainly. -/

structure Identifier where
  text : String
  isRaw : Bool
deriving DecidableEq, Repr, Inhabited

/-- The words that are no names unless written raw. -/
def reservedWords : List String :=
  ["_", "abstract", "as", "async", "await", "become", "box", "break", "const", "continue",
    "crate", "do", "dyn", "else", "enum", "extern", "false", "final", "fn", "for", "if", "impl",
    "in", "let", "loop", "macro", "match", "mod", "move", "mut", "override", "priv", "pub", "ref",
    "return", "Self", "self", "static", "struct", "super", "trait", "true", "try", "type",
    "typeof", "unsafe", "unsized", "use", "virtual", "where", "while", "yield"]

/-- The words that stay keywords even with `r#` in front. -/
def neverRaw : List String := ["_", "crate", "self", "super", "Self"]

namespace Identifier

def plain (text : String) : Identifier := ⟨text, false⟩

/-- The identifier as it is written. -/
def written (name : Identifier) : String :=
  if name.isRaw then "r#" ++ name.text else name.text

/-- A word that can name something. -/
def isName (name : Identifier) : Bool :=
  name.isRaw || !reservedWords.contains name.text

/-- Is this the given word, written plainly? -/
def isWord (name : Identifier) (word : String) : Bool :=
  !name.isRaw && name.text == word

theorem isWord_iff {name : Identifier} {word : String} :
    name.isWord word = true ↔ name = .plain word := by
  obtain ⟨text, isRaw⟩ := name
  cases isRaw <;> simp [isWord, plain]

end Identifier

end StorageMapping.Source
