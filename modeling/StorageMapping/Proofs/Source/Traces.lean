import StorageMapping.Proofs.Source.Parsing
import StorageMapping.Source.Grammar.Items

namespace StorageMapping.Source.Grammar

/-! # Items without a trace

What the parser keeps of an item is decided by the words at its front. A function, a constant or any
other item that cannot hold marked members is dropped whole, whatever its body holds. -/

open StorageMapping.Source.Parser

def opensModule (tokens : Tokens) : Bool :=
  tokens.atWord "mod" || (tokens.atWord "unsafe" && (tokens.skip 1).atWord "mod")

def opensDefinition (tokens : Tokens) : Bool :=
  tokens.atOneOf ["struct", "enum"] || (tokens.atWord "union" && (tokens.skip 1).atName)

def opensTrait (tokens : Tokens) : Bool :=
  let second := tokens.skip 1
  tokens.atWord "trait" || (tokens.atWord "auto" && second.atWord "trait")
    || (tokens.atWord "unsafe"
      && (second.atWord "trait" || (second.atWord "auto" && (second.skip 1).atWord "trait")))

def opensImplementation (tokens : Tokens) : Bool :=
  tokens.atWord "impl" || (tokens.atWord "default" && !(tokens.skip 1).atOperator "!")
    || (tokens.atWord "unsafe" && (tokens.skip 1).atWord "impl")

/-- Does an item begin here that can hold marked members? -/
def bearsMembers (tokens : Tokens) : Bool :=
  !atFunction false tokens
    && (opensModule tokens || opensDefinition tokens || opensTrait tokens
      || opensImplementation tokens)

/-- An item that can hold marked members, parsed from behind its attributes and its visibility. -/
inductive MemberItem (g : Grammar) (attributes : List Attribute) (isPublic : Bool)
    (state : ParserState) : Item → ParserState → Prop
  | module {item : Item} {next : ParserState} (opens : opensModule state.rest = true)
      (parsed : g.moduleItem state = .ok (item, next)) :
      MemberItem g attributes isPublic state item next
  | data {item : DataItem} {next : ParserState} (opens : opensDefinition state.rest = true)
      (parsed : g.definition attributes state = .ok (item, next)) :
      MemberItem g attributes isPublic state (.data item) next
  | trait {item : Item} {next : ParserState} (opens : opensTrait state.rest = true)
      (parsed : g.traitItem attributes state = .ok (item, next)) :
      MemberItem g attributes isPublic state item next
  | implementation {item : Item} {next : ParserState}
      (opens : opensImplementation state.rest = true)
      (parsed : g.implementation isPublic state = .ok (item, next)) :
      MemberItem g attributes isPublic state item next

/-- The word at the front is one word only. -/
theorem atWord_of_atWord {tokens : Tokens} {word other : String}
    (here : tokens.atWord word = true) : tokens.atWord other = (word == other) := by
  match tokens, here with
  | .word name _ :: _, here =>
      simp only [Tokens.atWord, Identifier.isWord, Bool.and_eq_true, beq_iff_eq] at here ⊢
      rw [here.1, here.2, Bool.true_and]

variable {g : Grammar} {state next : ParserState} {item : Item}

theorem MemberItem.bearsMembers {attributes : List Attribute} {isPublic : Bool}
    (found : MemberItem g attributes isPublic state item next)
    (function : ¬ atFunction false state.rest = true) : bearsMembers state.rest = true := by
  cases found <;> simp_all [Grammar.bearsMembers]

theorem skipped_eq_ok {parser : Parser Unit} (parsed : skipped parser state = .ok (item, next)) :
    item = .other := by
  obtain ⟨_, _, _, rest⟩ := bind_eq_ok.mp parsed
  exact (pure_eq_ok.mp rest).1.symm

/-- Where the first way of parsing an item drops it, only the second way counts. -/
theorem skipped_or {condition : Prop} [Decidable condition] {dropped : Parser Unit}
    {second : Parser Item} {kept : Prop}
    (parsed : (if condition then skipped dropped else second) state = .ok (item, next))
    (otherwise : second state = .ok (item, next) → item = .other ∨ kept) :
    item = .other ∨ kept := by
  rcases ite_eq_ok.mp parsed with ⟨_, parsed⟩ | ⟨_, parsed⟩
  · exact .inl (skipped_eq_ok parsed)
  · exact otherwise parsed

/-- Behind its attributes and its visibility, an item either leaves no trace or begins with the
words of one that can hold members. -/
theorem oneItem_cases (parsed : g.oneItem state = .ok (item, next)) :
    ∃ attributes isPublic marked headed,
      g.outerAttributes state = .ok (attributes, marked) ∧
        visibility marked = .ok (isPublic, headed) ∧
        (item = .other ∨
          bearsMembers headed.rest = true ∧ MemberItem g attributes isPublic headed item next) := by
  obtain ⟨attributes, marked, attributed, parsed⟩ := bind_eq_ok.mp parsed
  obtain ⟨isPublic, headed, visible, parsed⟩ := bind_eq_ok.mp parsed
  obtain ⟨tokens, here, same, parsed⟩ := bind_eq_ok.mp parsed
  obtain ⟨ahead, unmoved⟩ := ahead_eq_ok.mp same
  subst here tokens
  refine ⟨attributes, isPublic, marked, headed, attributed, visible, ?_⟩
  rcases ite_eq_ok.mp parsed with ⟨_, parsed⟩ | ⟨function, parsed⟩
  · exact .inl (skipped_eq_ok parsed)
  -- The words in front are tried in the order of the parser; most items are dropped.
  suffices found : item = .other ∨ MemberItem g attributes isPublic headed item next from
    found.imp_right fun found => ⟨found.bearsMembers function, found⟩
  rcases ite_eq_ok.mp parsed with ⟨_, parsed⟩ | ⟨_, parsed⟩
  · refine skipped_or parsed fun parsed => ?_
    rcases ite_eq_ok.mp parsed with ⟨_, parsed⟩ | ⟨_, parsed⟩
    · exact absurd parsed failWanting_ne_ok
    · exact .inl (skipped_eq_ok parsed)
  refine skipped_or parsed fun parsed => ?_
  refine skipped_or parsed fun parsed => ?_
  refine skipped_or parsed fun parsed => ?_
  rcases ite_eq_ok.mp parsed with ⟨unchecked, parsed⟩ | ⟨_, parsed⟩
  · rcases ite_eq_ok.mp parsed with ⟨opens, parsed⟩ | ⟨_, parsed⟩
    · exact .inr (.trait (by simp [opensTrait, unchecked, opens]) parsed)
    rcases ite_eq_ok.mp parsed with ⟨opens, parsed⟩ | ⟨_, parsed⟩
    · exact .inr (.implementation (by simp [opensImplementation, unchecked, opens]) parsed)
    refine skipped_or parsed fun parsed => ?_
    rcases ite_eq_ok.mp parsed with ⟨opens, parsed⟩ | ⟨_, parsed⟩
    · exact .inr (.module (by simp [opensModule, unchecked, opens]) parsed)
    · exact absurd parsed failWanting_ne_ok
  rcases ite_eq_ok.mp parsed with ⟨opens, parsed⟩ | ⟨_, parsed⟩
  · exact .inr (.module (by simp [opensModule, opens]) parsed)
  refine skipped_or parsed fun parsed => ?_
  rcases ite_eq_ok.mp parsed with ⟨opens, parsed⟩ | ⟨_, parsed⟩
  · obtain ⟨data, _, defined, parsed⟩ := bind_eq_ok.mp parsed
    obtain ⟨rfl, rfl⟩ := pure_eq_ok.mp parsed
    exact .inr (.data opens defined)
  rcases ite_eq_ok.mp parsed with ⟨opens, parsed⟩ | ⟨_, parsed⟩
  · exact .inr (.trait (by simp [opensTrait, opens]) parsed)
  rcases ite_eq_ok.mp parsed with ⟨opens, parsed⟩ | ⟨_, parsed⟩
  · exact .inr (.implementation (by simp [opensImplementation, opens]) parsed)
  refine skipped_or parsed fun parsed => ?_
  exact skipped_or parsed fun parsed => absurd parsed failWanting_ne_ok

end StorageMapping.Source.Grammar
