import StorageMapping.Proofs.Source.ForwardGrammar
import StorageMapping.Proofs.Source.Traces
import StorageMapping.Unit.Naming

namespace StorageMapping

/-! # Names in a text

Every word of a text has the letters of an identifier, and a raw one is not among the words that
stay keywords. So whatever a text names can be named again by generated code. -/

open Source

/-- A text that can be written as a name, with `r#` in front if need be. -/
structure Naming.Nameable (text : String) : Prop where
  word : isWord text = true
  allowed : text ∉ neverRaw

namespace Source

/-- What a text can hold as a word. -/
structure Identifier.Legal (name : Identifier) : Prop where
  word : Naming.isWord name.text = true
  allowed : name.isRaw = true → name.text ∉ neverRaw

theorem Identifier.Legal.nameable {name : Identifier} (legal : name.Legal)
    (isName : name.isName = true) : Naming.Nameable name.text := by
  refine ⟨legal.word, ?_⟩
  cases raw : name.isRaw with
  | true => exact legal.allowed raw
  | false =>
      have unreserved : name.text ∉ reservedWords := by simpa [Identifier.isName, raw] using isName
      have wider : ∀ word ∈ neverRaw, word ∈ reservedWords := by decide
      exact fun member => unreserved (wider _ member)

/-- A token whose words are legal, however deep they stand. -/
inductive Token.Legal : Token → Prop
  | word {name position} (legal : name.Legal) : Legal (.word name position)
  | lifetime {name position} : Legal (.lifetime name position)
  | punctuation {char joint position} : Legal (.punctuation char joint position)
  | literal {text position} : Legal (.literal text position)
  | group {delimiter inner opening closing} (inside : ∀ token ∈ inner, Legal token) :
      Legal (.group delimiter inner opening closing)

/-! ## Words of the lexer -/

namespace Lexer

theorem isWord_take {text : List Char} (found : identifierLength text ≠ 0) :
    Naming.isWord (String.ofList (text.take (identifierLength text))) = true := by
  cases text with
  | nil => contradiction
  | cons c rest =>
      rw [identifierLength] at found ⊢
      by_cases start : Text.isIdentifierStart c = true
      · rw [if_pos start] at found ⊢
        have letters : (rest.take (rest.takeWhile Text.isIdentifierContinue).length).all
            Text.isIdentifierContinue = true := by
          rw [← List.prefix_iff_eq_take.mp (List.takeWhile_prefix _)]
          exact List.all_takeWhile
        simp [Naming.isWord, start, letters]
      · rw [if_neg start] at found
        contradiction

theorem legal_of_identifier? {text : List Char} {name : Identifier} {length : Nat}
    (found : identifier? text = some (name, length)) : name.Legal := by
  rw [identifier?] at found
  by_cases raw : startsWith text "r#" = true
  · simp only [raw, if_true] at found
    split at found
    · contradiction
    · rename_i nonempty
      split at found
      · contradiction
      · rename_i allowed
        cases found
        exact ⟨isWord_take nonempty, fun _ => by simpa using allowed⟩
  · simp only [raw, Bool.false_eq_true, if_false] at found
    split at found
    · contradiction
    · rename_i nonempty
      cases found
      exact ⟨isWord_take nonempty, nofun⟩

/-- What a token other than a group is read from. -/
inductive Leaf (text : List Char) (position : Position) : Token → Nat → Prop
  | literal {length : Nat} (read : Literal.length? text = some length) :
      Leaf text position (.literal (String.ofList (text.take length)) position) length
  | lifetime {name : Identifier} {length : Nat} (marked : isPunctuation text = true)
      (read : lifetime? text = some (name, length)) :
      Leaf text position (.lifetime name position) length
  | punctuation {c : Char} {rest : List Char} (held : text = c :: rest)
      (marked : isPunctuation text = true) (other : c ≠ apostrophe) :
      Leaf text position (.punctuation c (isPunctuation rest) position) 1
  | word {name : Identifier} {length : Nat} (unmarked : ¬ isPunctuation text = true)
      (read : identifier? text = some (name, length)) :
      Leaf text position (.word name position) length

theorem Leaf.of_leaf? {text : List Char} {position : Position} {token : Token} {length : Nat}
    (found : leaf? text position = some (token, length)) : Leaf text position token length := by
  rw [leaf?.eq_def] at found
  split at found
  · rename_i read
    cases found
    exact .literal read
  · split at found
    · contradiction
    · split at found
      · rename_i marked
        split at found
        · obtain ⟨_, read, same⟩ := Option.map_eq_some_iff.mp found
          cases same
          exact .lifetime marked read
        · rename_i other
          cases found
          exact .punctuation rfl marked other
      · rename_i unmarked
        split at found
        · contradiction
        · obtain ⟨_, read, same⟩ := Option.map_eq_some_iff.mp found
          cases same
          exact .word unmarked read

theorem Leaf.legal {text : List Char} {position : Position} {token : Token} {length : Nat}
    (leaf : Leaf text position token length) : token.Legal := by
  cases leaf with
  | literal => exact .literal
  | lifetime => exact .lifetime
  | punctuation => exact .punctuation
  | word unmarked read => exact .word (legal_of_identifier? read)

theorem DocComment.legal (comment : DocComment) (position : Position) :
    ∀ token ∈ comment.tokens position, token.Legal := by
  have doc : (Identifier.plain "doc").Legal := ⟨by decide, nofun⟩
  cases inner : comment.isInner <;>
    simp [DocComment.tokens, inner, Token.Legal.punctuation, Token.Legal.group,
      Token.Legal.word doc, Token.Legal.literal]

/-- A text gives a property to whatever is read from it: to its documentation, to its leaves, and to
a group wherever the tokens inside have it. -/
structure Gives (whole : List Char) (holds : Token → Prop) : Prop where
  document : ∀ (comment : DocComment) position, ∀ token ∈ comment.tokens position, holds token
  leaf : ∀ {text position token length}, text <:+ whole →
    leaf? text position = some (token, length) → holds token
  group : ∀ {delimiter inner opening closing}, (∀ token ∈ inner, holds token) →
    holds (.group delimiter inner opening closing)

theorem Gives.readTokens {whole text : List Char} {holds : Token → Prop} (gives : Gives whole holds)
    {fuel : Nat} {frames : List Frame} {done tokens : List Token} {position : Position}
    (read : readTokens fuel frames done position text = some tokens) (inside : text <:+ whole)
    (before : ∀ frame ∈ frames, ∀ token ∈ frame.before, holds token)
    (here : ∀ token ∈ done, holds token) : ∀ token ∈ tokens, holds token := by
  induction fuel generalizing frames done position text with
  | zero => contradiction
  | succ fuel ih =>
      rw [Lexer.readTokens] at read
      dsimp only at read
      have left := (List.drop_suffix (blankLength fuel text) text).trans inside
      split at read
      · rename_i comment _
        refine ih read ((List.drop_suffix _ _).trans left) before fun token member => ?_
        rcases List.mem_append.mp member with documented | earlier
        · exact gives.document comment _ token (List.mem_reverse.mp documented)
        · exact here token earlier
      · split at read
        · split at read
          · cases read
            exact fun token member => here token (List.mem_reverse.mp member)
          · contradiction
        · rename_i c tail held
          have behind : tail <:+ whole := (List.suffix_cons c tail).trans (held ▸ left)
          split at read
          · -- a group opens: what has been read so far waits in its frame
            exact ih read behind (List.forall_mem_cons.mpr ⟨here, before⟩) (by simp)
          · split at read
            · split at read
              · rename_i frame outer
                split at read
                · obtain ⟨waiting, others⟩ := List.forall_mem_cons.mp before
                  have closed : ∀ token ∈ done.reverse, holds token := fun token member =>
                    here token (List.mem_reverse.mp member)
                  exact ih read behind others
                    (List.forall_mem_cons.mpr ⟨gives.group closed, waiting⟩)
                · contradiction
              · contradiction
            · split at read
              · rename_i leaf length found
                have given := gives.leaf left found
                exact ih read ((List.drop_suffix _ _).trans left) before
                  (List.forall_mem_cons.mpr ⟨given, here⟩)
              · contradiction

theorem Gives.tokenize {text : List Char} {tokens : List Token} {holds : Token → Prop}
    (gives : Gives text holds) (read : tokenize text = some tokens) :
    ∀ token ∈ tokens, holds token := by
  rw [tokenize.eq_def] at read
  split at read
  · split at read
    · exact gives.readTokens read (List.suffix_cons _ _) (by simp) (by simp)
    · exact gives.readTokens read (List.suffix_refl _) (by simp) (by simp)
  · cases read
    simp

theorem gives_legal (whole : List Char) : Gives whole Token.Legal where
  document := DocComment.legal
  leaf _ found := (Leaf.of_leaf? found).legal
  group inside := .group inside

end Lexer

open StorageMapping.Source.Parser

theorem tokenize_legal {text : List Char} {tokens : List Token}
    (read : tokenize text = some tokens) : ∀ token ∈ tokens, token.Legal :=
  (Lexer.gives_legal text).tokenize read

/-! ## Names of items -/

/-- An item where every module and every type definition has a name that can be written again. -/
inductive Item.Named : Item → Prop
  | module {name contents} (named : Naming.Nameable name.text)
      (inside : ∀ items ∈ contents, ∀ item ∈ items, Named item) : Named (.module name contents)
  | data {item} (named : Naming.Nameable item.name.text) : Named (.data item)
  | trait {attributes name position members} : Named (.trait attributes name position members)
  | implementation {selfType members} : Named (.implementation selfType members)
  | other : Named .other

/-- An item that holds neither items nor fields. -/
inductive Item.IsLeaf : Item → Prop
  | trait {attributes name position members} : IsLeaf (.trait attributes name position members)
  | implementation {selfType members} : IsLeaf (.implementation selfType members)
  | other : IsLeaf .other

namespace Parser

variable {α : Type} {state next : ParserState} {parser : Parser α} {value : α}

/-- A state whose tokens can be those of a text. -/
def Legal (state : ParserState) : Prop := ∀ token ∈ state.rest, token.Legal

theorem Legal.forward [forward : Forward parser] (legal : Legal state)
    (parsed : parser state = .ok (value, next)) : Legal next :=
  fun token member => legal token ((forward.suffix parsed).subset member)

theorem Legal.head {name : Identifier} {position : Position} {rest : Tokens} (legal : Legal state)
    (here : state.rest = .word name position :: rest) : name.Legal := by
  cases legal (.word name position) (here ▸ List.mem_cons_self) with
  | word legal => exact legal

/-- What a parser answers with, whatever it reads. -/
structure Answers (claim : α → Prop) (parser : Parser α) : Prop where
  holds : ∀ {state value next}, parser state = .ok (value, next) → claim value

namespace Answers

variable {β : Type} {claim : α → Prop}

theorem result (holds : claim value) : Answers claim (pure value) where
  holds parsed := (pure_eq_ok.mp parsed).1 ▸ holds

theorem step {front : Parser β} {following : β → Parser α}
    (all : ∀ value, Answers claim (following value)) : Answers claim (front >>= following) where
  holds parsed := by
    obtain ⟨value, _, _, completed⟩ := bind_eq_ok.mp parsed
    exact (all value).holds completed

theorem choice {condition : Prop} [Decidable condition] {first second : Parser α}
    (one : Answers claim first) (other : Answers claim second) :
    Answers claim (if condition then first else second) where
  holds parsed := by
    rcases ite_eq_ok.mp parsed with ⟨_, parsed⟩ | ⟨_, parsed⟩
    · exact one.holds parsed
    · exact other.holds parsed

end Answers

theorem Legal.anyWord {found : Identifier × Position} (legal : Legal state)
    (parsed : anyWord state = .ok (found, next)) : found.1.Legal := by
  have held := anyWord_eq_ok parsed
  exact legal.head held

theorem Legal.ofName {found : Identifier × Position} (legal : Legal state)
    (parsed : name state = .ok (found, next)) : found.1.Legal := by
  obtain ⟨_, _, held⟩ := name_eq_ok parsed
  exact legal.head held

theorem Legal.name {found : Identifier × Position} (legal : Legal state)
    (parsed : name state = .ok (found, next)) : Naming.Nameable found.1.text :=
  (legal.ofName parsed).nameable (name_eq_ok parsed).1

theorem Legal.group {delimiter : Delimiter} {contents : Parser α} (legal : Legal state)
    (parsed : group delimiter contents state = .ok (value, next)) :
    ∃ inside left, Legal inside ∧ contents inside = .ok (value, left) := by
  obtain ⟨inner, opening, closing, left, held, completed⟩ := group_eq_ok parsed
  refine ⟨_, left, ?_, completed⟩
  cases legal (.group delimiter inner opening closing) (held ▸ List.mem_cons_self) with
  | group inside => exact inside

theorem Legal.mem_manyWithin {step : Parser (Option α)} [Forward step] {fuel : Nat}
    {found : List α} (legal : Legal state)
    (parsed : manyWithin step fuel state = .ok (found, next)) (member : value ∈ found) :
    ∃ here after, Legal here ∧ step here = .ok (some value, after) := by
  induction fuel generalizing state found with
  | zero =>
      obtain ⟨rfl, _⟩ := pure_eq_ok.mp parsed
      contradiction
  | succ fuel ih =>
      obtain ⟨result, middle, first, parsed⟩ := bind_eq_ok.mp parsed
      cases result with
      | none =>
          obtain ⟨rfl, _⟩ := pure_eq_ok.mp parsed
          contradiction
      | some head =>
          obtain ⟨tail, _, others, parsed⟩ := bind_eq_ok.mp parsed
          obtain ⟨rfl, rfl⟩ := pure_eq_ok.mp parsed
          rcases List.mem_cons.mp member with rfl | later
          · exact ⟨state, middle, legal, first⟩
          · exact ih (legal.forward first) others later

theorem Legal.mem_manyWhile {condition : Tokens → Bool} {found : List α} [Forward parser]
    (legal : Legal state) (parsed : manyWhile condition parser state = .ok (found, next))
    (member : value ∈ found) : ∃ here after, Legal here ∧ parser here = .ok (value, after) := by
  replace parsed := ahead_bind_eq_ok.mp parsed
  obtain ⟨start, after, startLegal, stepped⟩ := legal.mem_manyWithin parsed member
  replace stepped := ahead_bind_eq_ok.mp stepped
  rcases ite_eq_ok.mp stepped with ⟨_, stepped⟩ | ⟨_, stepped⟩
  · obtain ⟨_, _, completed, stepped⟩ := bind_eq_ok.mp stepped
    obtain ⟨same, _⟩ := pure_eq_ok.mp stepped
    cases same
    exact ⟨_, _, startLegal, completed⟩
  · obtain ⟨same, _⟩ := pure_eq_ok.mp stepped
    contradiction

end Parser

namespace Grammar

variable {g : Grammar} [g.GoesForward] {state next : ParserState} {item : Item}

/-- A module behind its name. -/
def moduleBody (g : Grammar) (name : Identifier) : Parser Item := do
  if ← acceptOperator ";" then return .module name none
  let contents ← group .brace do
    let _ ← g.innerAttributes
    manyWhile (!·.isEmpty) g.item
  return .module name (some contents)

theorem moduleBody_eq_ok {name : Identifier} (legal : Legal state)
    (parsed : g.moduleBody name state = .ok (item, next)) :
    ∃ contents, item = .module name contents ∧
      ∀ items ∈ contents, ∀ inner ∈ items,
        ∃ here after, Legal here ∧ g.item here = .ok (inner, after) := by
  obtain ⟨_, _, closed, parsed⟩ := bind_eq_ok.mp parsed
  rcases ite_eq_ok.mp parsed with ⟨_, parsed⟩ | ⟨_, parsed⟩
  · obtain ⟨rfl, _⟩ := pure_eq_ok.mp parsed
    exact ⟨_, rfl, nofun⟩
  · obtain ⟨contents, _, grouped, parsed⟩ := bind_eq_ok.mp parsed
    obtain ⟨rfl, _⟩ := pure_eq_ok.mp parsed
    obtain ⟨_, _, inside, completed⟩ := (legal.forward closed).group grouped
    obtain ⟨_, _, attributed, repeated⟩ := bind_eq_ok.mp completed
    refine ⟨_, rfl, ?_⟩
    rintro _ ⟨⟩ inner member
    exact (inside.forward attributed).mem_manyWhile repeated member

/-- What a module holds was parsed item by item. -/
theorem moduleItem_eq_ok (legal : Legal state)
    (parsed : g.moduleItem state = .ok (item, next)) :
    ∃ name contents, item = .module name contents ∧ Naming.Nameable name.text ∧
      ∀ items ∈ contents, ∀ inner ∈ items,
        ∃ here after, Legal here ∧ g.item here = .ok (inner, after) := by
  obtain ⟨_, _, first, parsed⟩ := bind_eq_ok.mp parsed
  obtain ⟨_, _, second, parsed⟩ := bind_eq_ok.mp parsed
  obtain ⟨tokens, _, here, parsed⟩ := bind_eq_ok.mp parsed
  obtain ⟨rfl, rfl⟩ := ahead_eq_ok.mp here
  have legal := (legal.forward first).forward second
  rcases ite_eq_ok.mp parsed with ⟨isTry, parsed⟩ | ⟨_, parsed⟩
  · obtain ⟨found, _, read, parsed⟩ := bind_eq_ok.mp parsed
    obtain ⟨contents, same, inside⟩ := moduleBody_eq_ok (legal.forward read) parsed
    have held := anyWord_eq_ok read
    have text : found.1.text = "try" := by
      simp only [held, Tokens.atWord, Identifier.isWord, Bool.and_eq_true, beq_iff_eq] at isTry
      exact isTry.2
    refine ⟨_, contents, same, ⟨(legal.anyWord read).word, ?_⟩, inside⟩
    rw [text]
    decide
  · obtain ⟨found, _, read, parsed⟩ := bind_eq_ok.mp parsed
    obtain ⟨contents, same, inside⟩ := moduleBody_eq_ok (legal.forward read) parsed
    exact ⟨_, contents, same, legal.name read, inside⟩

/-- The parser of the body of a type definition. -/
def bodyOf (g : Grammar) : DataKind → Parser Data
  | .struct => return .struct (← g.structFields)
  | .enum => return .enum (← g.variants)
  | .union => return .union (← g.unionFields)

/-- A type definition behind its keyword. -/
def definitionBehind (g : Grammar) (attributes : List Attribute) (kind : DataKind) :
    Parser DeriveInput := do
  let named ← name
  let parameters ← g.parameters
  return ⟨attributes, named.1, named.2, parameters, ← g.bodyOf kind⟩

omit [g.GoesForward] in
theorem definitionBehind_eq_ok {attributes : List Attribute} {kind : DataKind}
    {input : DeriveInput} (parsed : g.definitionBehind attributes kind state = .ok (input, next)) :
    ∃ named behind, name state = .ok ((input.name, input.position), named) ∧
      g.parameters named = .ok (input.parameters, behind) ∧
      g.bodyOf kind behind = .ok (input.data, next) ∧ input.attributes = attributes := by
  obtain ⟨_, _, read, parsed⟩ := bind_eq_ok.mp parsed
  obtain ⟨_, _, parameters, parsed⟩ := bind_eq_ok.mp parsed
  obtain ⟨_, _, body, parsed⟩ := bind_eq_ok.mp parsed
  obtain ⟨rfl, rfl⟩ := pure_eq_ok.mp parsed
  exact ⟨_, _, read, parameters, body, rfl⟩

omit [g.GoesForward] in
/-- The parts of a type definition stand behind its keyword one after the other. -/
theorem deriveInput_parts {attributes : List Attribute} {input : DeriveInput}
    (parsed : g.deriveInput attributes state = .ok (input, next)) :
    ∃ kind opened named behind, opened.rest <:+ state.rest ∧
      name opened = .ok ((input.name, input.position), named) ∧
      g.parameters named = .ok (input.parameters, behind) ∧
      g.bodyOf kind behind = .ok (input.data, next) ∧ input.attributes = attributes := by
  obtain ⟨_, opened, first, parsed⟩ := bind_eq_ok.mp parsed
  have inside := Forward.suffix first
  rcases ite_eq_ok.mp parsed with ⟨_, parsed⟩ | ⟨_, parsed⟩
  · obtain ⟨named, behind, parts⟩ := @definitionBehind_eq_ok g _ _ _ .struct _ parsed
    exact ⟨.struct, opened, named, behind, inside, parts⟩
  obtain ⟨_, opened, second, parsed⟩ := bind_eq_ok.mp parsed
  have inside := (Forward.suffix second).trans inside
  rcases ite_eq_ok.mp parsed with ⟨_, parsed⟩ | ⟨_, parsed⟩
  · obtain ⟨named, behind, parts⟩ := @definitionBehind_eq_ok g _ _ _ .enum _ parsed
    exact ⟨.enum, opened, named, behind, inside, parts⟩
  obtain ⟨_, opened, third, parsed⟩ := bind_eq_ok.mp parsed
  have inside := (Forward.suffix third).trans inside
  rcases ite_eq_ok.mp parsed with ⟨_, parsed⟩ | ⟨_, parsed⟩
  · obtain ⟨named, behind, parts⟩ := @definitionBehind_eq_ok g _ _ _ .union _ parsed
    exact ⟨.union, opened, named, behind, inside, parts⟩
  · obtain ⟨_, _, failed, _⟩ := bind_eq_ok.mp parsed
    exact absurd failed failWanting_ne_ok

theorem deriveInput_eq_ok {attributes : List Attribute} {input : DeriveInput} (legal : Legal state)
    (parsed : g.deriveInput attributes state = .ok (input, next)) :
    Naming.Nameable input.name.text ∧
      ∃ kind here after, Legal here ∧ g.bodyOf kind here = .ok (input.data, after) := by
  obtain ⟨kind, opened, _, behind, inside, read, parameters, body, _⟩ := deriveInput_parts parsed
  have legal : Legal opened := fun token member => legal token (inside.subset member)
  exact ⟨legal.name read, kind, behind, next, (legal.forward read).forward parameters, body⟩

omit [g.GoesForward] in
theorem definition_eq_ok {attributes : List Attribute} {data : DataItem} :
    g.definition attributes state = .ok (data, next) ↔
      ∃ input, data = input.item ∧ g.deriveInput attributes state = .ok (input, next) := by
  rw [definition, bind_eq_ok]
  constructor
  · rintro ⟨input, _, parsed, same⟩
    obtain ⟨rfl, rfl⟩ := pure_eq_ok.mp same
    exact ⟨input, rfl, parsed⟩
  · rintro ⟨input, rfl, parsed⟩
    exact ⟨input, next, parsed, rfl⟩

omit [g.GoesForward] in
theorem traitItem_isLeaf (attributes : List Attribute) :
    Answers Item.IsLeaf (g.traitItem attributes) := by
  unfold traitItem
  repeat' first
    | exact .result .other
    | exact .result .trait
    | refine .step fun _ => ?_
    | refine .choice ?_ ?_

omit [g.GoesForward] in
theorem implementation_isLeaf (isPublic : Bool) :
    Answers Item.IsLeaf (g.implementation isPublic) := by
  have kept : ∀ (isPlain : Bool) selfType members,
      (if isPlain then Item.implementation selfType members else .other).IsLeaf := by
    intro isPlain selfType members
    cases isPlain
    · exact .other
    · exact .implementation
  unfold implementation
  repeat' first
    | exact .result (kept _ _ _)
    | refine .step fun _ => ?_
    | refine .choice ?_ ?_

omit [g.GoesForward] in
/-- An item is a module, a type definition or a leaf. -/
theorem oneItem_parts (legal : Legal state) (parsed : g.oneItem state = .ok (item, next)) :
    item.IsLeaf ∨ ∃ headed, Legal headed ∧
      (g.moduleItem headed = .ok (item, next) ∨
        ∃ attributes data, item = .data data ∧
          g.definition attributes headed = .ok (data, next)) := by
  obtain ⟨attributes, isPublic, marked, headed, attributed, visible, found⟩ := oneItem_cases parsed
  have headedLegal := (legal.forward attributed).forward visible
  rcases found with rfl | ⟨_, found⟩
  · exact .inl .other
  · cases found with
    | module _ parsed => exact .inr ⟨headed, headedLegal, .inl parsed⟩
    | data _ parsed => exact .inr ⟨headed, headedLegal, .inr ⟨attributes, _, rfl, parsed⟩⟩
    | trait _ parsed => exact .inl ((traitItem_isLeaf attributes).holds parsed)
    | implementation _ parsed => exact .inl ((implementation_isLeaf isPublic).holds parsed)

/-- The items of a grammar have names. -/
def Names (g : Grammar) : Prop :=
  ∀ {state item next}, Legal state → g.item state = .ok (item, next) → item.Named

theorem oneItem_named (names : g.Names) (legal : Legal state)
    (parsed : g.oneItem state = .ok (item, next)) : item.Named := by
  rcases oneItem_parts legal parsed with leaf | ⟨_, legal, inner | ⟨_, data, rfl, defined⟩⟩
  · cases leaf with
    | trait => exact .trait
    | implementation => exact .implementation
    | other => exact .other
  · obtain ⟨_, _, rfl, nameable, inside⟩ := moduleItem_eq_ok legal inner
    refine .module nameable fun items held inner member => ?_
    obtain ⟨_, _, start, one⟩ := inside items held inner member
    exact names start one
  · obtain ⟨input, rfl, read⟩ := definition_eq_ok.mp defined
    exact .data (deriveInput_eq_ok legal read).1

theorem ofDepth_names (depth : Nat) : (ofDepth depth).Names := by
  induction depth with
  | zero => exact fun _ parsed => absurd parsed failWanting_ne_ok
  | succ depth ih => exact fun legal parsed => oneItem_named ih legal parsed

end Grammar

theorem Reader.parseAll_eq_ok {α : Type} {parser : Grammar → Parser α} {text : String}
    {value : α} (read : parseAll parser text = .ok value) :
    ∃ depth state next, Legal state ∧ parser (.ofDepth depth) state = .ok (value, next) := by
  rw [parseAll] at read
  split at read
  · contradiction
  · rename_i tokens tokenized
    obtain ⟨_, completed⟩ := runAll_eq_ok.mp read
    exact ⟨_, ⟨tokens, [], none⟩, _, tokenize_legal tokenized, completed⟩

theorem Reader.definition_eq_ok {text : String} {input : DeriveInput}
    (read : Reader.definition text = .ok input) :
    ∃ depth attributes state next, Legal state ∧
      (Grammar.ofDepth depth).deriveInput attributes state = .ok (input, next) := by
  rw [Reader.definition] at read
  obtain ⟨depth, _, next, start, completed⟩ := parseAll_eq_ok read
  obtain ⟨attributes, _, attributed, parsed⟩ := bind_eq_ok.mp completed
  obtain ⟨_, headed, visible, parsed⟩ := bind_eq_ok.mp parsed
  exact ⟨depth, attributes, headed, next, (start.forward attributed).forward visible, parsed⟩

theorem Reader.mem_file {text : String} {items : List Item} {item : Item}
    (read : Reader.file text = .ok items) (member : item ∈ items) :
    ∃ depth here after, Legal here ∧ (Grammar.ofDepth depth).item here = .ok (item, after) := by
  rw [Reader.file] at read
  obtain ⟨depth, _, _, start, completed⟩ := parseAll_eq_ok read
  obtain ⟨_, _, attributed, repeated⟩ := bind_eq_ok.mp completed
  exact ⟨depth + 1, (start.forward attributed).mem_manyWhile repeated member⟩

theorem Reader.file_named {text : String} {items : List Item}
    (read : Reader.file text = .ok items) : ∀ item ∈ items, item.Named := by
  intro item member
  obtain ⟨_, _, _, legal, one⟩ := mem_file read member
  exact Grammar.ofDepth_names _ legal one

/-- An identifier is the one name that its text holds. -/
theorem Reader.identifier_eq_ok {text : String} {name : Identifier}
    (read : Reader.identifier text = .ok name) :
    ∃ tokens position next, tokenize text.toList = some tokens ∧
      Parser.name ⟨tokens, [], none⟩ = .ok ((name, position), next) := by
  rw [Reader.identifier, parseAll] at read
  split at read
  · contradiction
  · rename_i tokens tokenized
    obtain ⟨_, completed⟩ := runAll_eq_ok.mp read
    obtain ⟨found, next, named, same⟩ := bind_eq_ok.mp completed
    obtain ⟨rfl, _⟩ := pure_eq_ok.mp same
    exact ⟨tokens, found.2, next, tokenized, named⟩

theorem Reader.identifier_legal {text : String} {name : Identifier}
    (read : Reader.identifier text = .ok name) : name.Legal := by
  obtain ⟨tokens, _, _, tokenized, named⟩ := identifier_eq_ok read
  have legal : Legal ⟨tokens, [], none⟩ := tokenize_legal tokenized
  exact legal.ofName named

theorem Reader.identifier_nameable {text : String} {name : Identifier}
    (read : Reader.identifier text = .ok name) : Naming.Nameable name.text := by
  obtain ⟨tokens, _, _, tokenized, named⟩ := identifier_eq_ok read
  have legal : Legal ⟨tokens, [], none⟩ := tokenize_legal tokenized
  exact legal.name named

end Source

end StorageMapping
