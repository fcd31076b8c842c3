import StorageMapping.Proofs.Source.Names

namespace StorageMapping.Source

/-! # Words stand in their text

Every word outside of groups is a part of the text that it was read from. So a name that was read
from a text is the text itself, or shorter. -/

namespace Lexer

variable {whole text : List Char}

/-- A word that is a part of the text. Nothing is said of other tokens. -/
def Spelled (whole : List Char) : Token → Prop
  | .word name _ => name.text.toList <:+: whole
  | _ => True

theorem infix_of_identifier? {name : Identifier} {length : Nat}
    (found : identifier? text = some (name, length)) : name.text.toList <:+: text := by
  have taken : ∀ count : Nat, text.take count <:+: text := fun count =>
    (List.take_prefix count text).isInfix
  have behind : ∀ count : Nat, (text.drop 2).take count <:+: text := fun count =>
    (List.take_prefix count _).isInfix.trans (List.drop_suffix 2 text).isInfix
  rw [identifier?] at found
  cases raw : startsWith text "r#" with
  | true =>
      simp only [raw, if_true] at found
      split at found
      · contradiction
      · split at found
        · contradiction
        · cases found
          simpa using behind _
  | false =>
      simp only [raw, Bool.false_eq_true, if_false] at found
      split at found
      · contradiction
      · cases found
        simpa using taken _

theorem Leaf.spelled {position : Position} {token : Token} {length : Nat}
    (leaf : Leaf text position token length) (inside : text <:+ whole) : Spelled whole token := by
  cases leaf with
  | word unmarked read => exact (infix_of_identifier? read).trans inside.isInfix
  | _ => trivial

theorem gives_spelled (whole : List Char) : Gives whole (Spelled whole) where
  document comment position := by
    cases inner : comment.isInner <;> simp [DocComment.tokens, inner, Spelled]
  leaf inside found := (Leaf.of_leaf? found).spelled inside
  group _ := trivial

end Lexer

theorem tokenize_spelled {text : List Char} {tokens : List Token}
    (read : tokenize text = some tokens) : ∀ token ∈ tokens, Lexer.Spelled text token :=
  (Lexer.gives_spelled text).tokenize read

/-- The name that a text holds is a part of it. -/
theorem Reader.identifier_infix {text : String} {name : Identifier}
    (read : Reader.identifier text = .ok name) : name.text.toList <:+: text.toList := by
  obtain ⟨tokens, position, _, tokenized, named⟩ := identifier_eq_ok read
  obtain ⟨_, rest, held⟩ := Parser.name_eq_ok named
  dsimp only at held
  have spelled := tokenize_spelled tokenized (.word name position) (held ▸ List.mem_cons_self)
  exact spelled

end StorageMapping.Source
