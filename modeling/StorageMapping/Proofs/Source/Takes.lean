import Mathlib.Data.List.Forall2
import StorageMapping.Proofs.Source.Parsing
import StorageMapping.Proofs.Source.Places

namespace StorageMapping.Source

/-! # Parsers that take what stands in front

A parser sees the tokens ahead of it, but not their places. So what it does with given tokens it
does with all tokens that look alike. -/

namespace Tokens

variable {tokens view : Tokens}

/-- The same tokens but for their places. -/
def Alike (tokens view : Tokens) : Prop := unplacedTokens tokens = unplacedTokens view

theorem atWord_unplaced (word : String) : ∀ tokens : Tokens,
    atWord word (unplacedTokens tokens) = atWord word tokens
  | [] => rfl
  | token :: _ => by cases token <;> rfl

theorem atOneOf_unplaced (words : List String) (tokens : Tokens) :
    atOneOf words (unplacedTokens tokens) = atOneOf words tokens := by
  simp only [atOneOf, atWord_unplaced]

theorem atAnyWord_unplaced : ∀ tokens : Tokens,
    atAnyWord (unplacedTokens tokens) = atAnyWord tokens
  | [] => rfl
  | token :: _ => by cases token <;> rfl

theorem atName_unplaced : ∀ tokens : Tokens, atName (unplacedTokens tokens) = atName tokens
  | [] => rfl
  | token :: _ => by cases token <;> rfl

theorem atLifetime_unplaced : ∀ tokens : Tokens,
    atLifetime (unplacedTokens tokens) = atLifetime tokens
  | [] => rfl
  | token :: _ => by cases token <;> rfl

theorem atGroup_unplaced (delimiter : Delimiter) : ∀ tokens : Tokens,
    atGroup delimiter (unplacedTokens tokens) = atGroup delimiter tokens
  | [] => rfl
  | token :: _ => by cases token <;> rfl

theorem afterOperator?_unplaced : ∀ (operator : List Char) (tokens : Tokens),
    afterOperator? operator (unplacedTokens tokens) =
      (afterOperator? operator tokens).map unplacedTokens
  | [], tokens => by simp [afterOperator?]
  | c :: more, [] => by cases more <;> rfl
  | [c], token :: rest => by
      cases token with
      | punctuation found joint position =>
          by_cases same : found = c <;>
            simp [unplacedTokens, Token.unplaced, afterOperator?, same]
      | _ => rfl
  | c :: d :: more, token :: rest => by
      cases token with
      | punctuation found joint position =>
          have behind := afterOperator?_unplaced (d :: more) rest
          by_cases same : found = c ∧ joint = true
          · simpa [unplacedTokens, Token.unplaced, afterOperator?, same] using behind
          · simp [unplacedTokens, Token.unplaced, afterOperator?, same]
      | _ => rfl

theorem atOperator_unplaced (operator : String) (tokens : Tokens) :
    atOperator operator (unplacedTokens tokens) = atOperator operator tokens := by
  rw [atOperator, atOperator, afterOperator?_unplaced, Option.isSome_map]

theorem atLiteral_unplaced : ∀ tokens : Tokens,
    atLiteral (unplacedTokens tokens) = atLiteral tokens
  | [] => rfl
  | token :: rest => by
      cases token with
      | punctuation c joint position =>
          by_cases minus : c = '-'
          · subst c
            cases rest with
            | nil => rfl
            | cons next rest => cases next <;> rfl
          · simp [unplacedTokens, Token.unplaced, atLiteral, minus]
      | _ => rfl

theorem atString_unplaced : ∀ tokens : Tokens,
    atString (unplacedTokens tokens) = atString tokens
  | [] => rfl
  | token :: _ => by cases token <;> rfl

theorem isEmpty_unplaced : ∀ tokens : Tokens, (unplacedTokens tokens).isEmpty = tokens.isEmpty
  | [] => rfl
  | _ :: _ => rfl

theorem length_unplaced (tokens : Tokens) : (unplacedTokens tokens).length = tokens.length := by
  rw [unplacedTokens_eq_map, List.length_map]

theorem skip_unplaced (count : Nat) (tokens : Tokens) :
    skip count (unplacedTokens tokens) = unplacedTokens (skip count tokens) := by
  rw [skip, skip, unplacedTokens_eq_map, unplacedTokens_eq_map, List.map_drop]

/-- Tokens that are alike are so for every test that a parser makes. -/
theorem Alike.looks (alike : Alike tokens view) :
    (∀ word, tokens.atWord word = view.atWord word) ∧
      (∀ words, tokens.atOneOf words = view.atOneOf words) ∧ tokens.atAnyWord = view.atAnyWord ∧
      tokens.atName = view.atName ∧ tokens.atLifetime = view.atLifetime ∧
      (∀ delimiter, tokens.atGroup delimiter = view.atGroup delimiter) ∧
      (∀ operator, tokens.atOperator operator = view.atOperator operator) ∧
      tokens.atLiteral = view.atLiteral ∧ tokens.atString = view.atString ∧
      tokens.isEmpty = view.isEmpty := by
  have seen : ∀ {α : Type} {look : Tokens → α},
      (∀ tokens, look (unplacedTokens tokens) = look tokens) → look tokens = look view :=
    fun placeless => by rw [← placeless tokens, alike, placeless view]
  exact ⟨fun _ => seen (atWord_unplaced _), fun _ => seen (atOneOf_unplaced _),
    seen atAnyWord_unplaced, seen atName_unplaced, seen atLifetime_unplaced,
    fun _ => seen (atGroup_unplaced _), fun _ => seen (atOperator_unplaced _),
    seen atLiteral_unplaced, seen atString_unplaced, seen isEmpty_unplaced⟩

theorem Alike.skip (alike : Alike tokens view) (count : Nat) :
    Alike (tokens.skip count) (view.skip count) := by
  rw [Alike, ← skip_unplaced, alike, skip_unplaced]

/-- What a word in front is, and what it is not. -/
theorem looks_word {name : Identifier} {position : Position} :
    (∀ word, atWord word (.word name position :: view) = name.isWord word) ∧
      atAnyWord (.word name position :: view) = true ∧
      atName (.word name position :: view) = name.isName ∧
      atLifetime (.word name position :: view) = false ∧
      (∀ delimiter, atGroup delimiter (.word name position :: view) = false) ∧
      (∀ operator, atOperator operator (.word name position :: view) = operator.toList.isEmpty) ∧
      atLiteral (.word name position :: view) = (name.isWord "true" || name.isWord "false") ∧
      atString (.word name position :: view) = false := by
  refine ⟨fun _ => rfl, rfl, rfl, rfl, fun _ => rfl, fun operator => ?_, rfl, rfl⟩
  rw [atOperator]
  rcases operator.toList with _ | ⟨c, _ | _⟩ <;> rfl

theorem looks_literal {text : String} {position : Position} :
    (∀ word, atWord word (.literal text position :: view) = false) ∧
      atAnyWord (.literal text position :: view) = false ∧
      atName (.literal text position :: view) = false ∧
      atLifetime (.literal text position :: view) = false ∧
      (∀ delimiter, atGroup delimiter (.literal text position :: view) = false) ∧
      (∀ operator, atOperator operator (.literal text position :: view) =
        operator.toList.isEmpty) ∧
      atLiteral (.literal text position :: view) = true := by
  refine ⟨fun _ => rfl, rfl, rfl, rfl, fun _ => rfl, fun operator => ?_, rfl⟩
  rw [atOperator]
  rcases operator.toList with _ | ⟨c, _ | _⟩ <;> rfl

theorem looks_nil :
    (∀ word, atWord word [] = false) ∧ atAnyWord [] = false ∧ atName [] = false ∧
      atLifetime [] = false ∧ (∀ delimiter, atGroup delimiter [] = false) ∧
      (∀ operator, atOperator operator [] = operator.toList.isEmpty) ∧ atLiteral [] = false ∧
      atString [] = false := by
  refine ⟨fun _ => rfl, rfl, rfl, rfl, fun _ => rfl, fun operator => ?_, rfl, rfl⟩
  rw [atOperator]
  rcases operator.toList with _ | ⟨c, _ | _⟩ <;> rfl

/-- An operator is found where it begins what is written. -/
theorem afterOperator?_operator {position : Position} (view : Tokens) :
    ∀ written : List Char, afterOperator? written (Token.operator position written ++ view) =
      some view
  | [] => rfl
  | [c] => by simp [Token.operator, afterOperator?]
  | c :: d :: more => by
      have behind := @afterOperator?_operator position view (d :: more)
      simpa [Token.operator, afterOperator?] using behind

theorem Alike.cons {token : Token} (alike : Alike tokens (token :: view)) :
    ∃ head tail, tokens = head :: tail ∧ head.unplaced = token.unplaced ∧ Alike tail view := by
  cases tokens with
  | nil => cases alike
  | cons head tail =>
      obtain ⟨same, behind⟩ := List.cons.inj alike
      exact ⟨head, tail, rfl, same, behind⟩

theorem Alike.word {name : Identifier} {position : Position}
    (alike : Alike tokens (.word name position :: view)) :
    ∃ found tail, tokens = .word name found :: tail ∧ Alike tail view := by
  obtain ⟨head, tail, rfl, same, behind⟩ := alike.cons
  cases head <;> cases same
  exact ⟨_, tail, rfl, behind⟩

theorem Alike.punctuation {char : Char} {joint : Bool} {position : Position}
    (alike : Alike tokens (.punctuation char joint position :: view)) :
    ∃ found tail, tokens = .punctuation char joint found :: tail ∧ Alike tail view := by
  obtain ⟨head, tail, rfl, same, behind⟩ := alike.cons
  cases head <;> cases same
  exact ⟨_, tail, rfl, behind⟩

theorem Alike.literal {text : String} {position : Position}
    (alike : Alike tokens (.literal text position :: view)) :
    ∃ found tail, tokens = .literal text found :: tail ∧ Alike tail view := by
  obtain ⟨head, tail, rfl, same, behind⟩ := alike.cons
  cases head <;> cases same
  exact ⟨_, tail, rfl, behind⟩

theorem Alike.nil (alike : Alike tokens []) : tokens = [] := by
  cases tokens with
  | nil => rfl
  | cons => cases alike

theorem Alike.append {front back : Tokens} (alike : Alike tokens (front ++ back)) :
    ∃ first second, tokens = first ++ second ∧ Alike first front ∧ Alike second back := by
  rw [Alike, unplacedTokens_append, unplacedTokens_eq_map] at alike
  obtain ⟨first, second, rfl, before, behind⟩ := List.map_eq_append_iff.mp alike
  exact ⟨first, second, rfl, (unplacedTokens_eq_map _).trans before,
    (unplacedTokens_eq_map _).trans behind⟩

theorem Alike.group {delimiter : Delimiter} {inner : Tokens} {opening closing : Position}
    (alike : Alike tokens (.group delimiter inner opening closing :: view)) :
    ∃ inside first last tail, tokens = .group delimiter inside first last :: tail ∧
      Alike inside inner ∧ Alike tail view := by
  obtain ⟨head, tail, rfl, same, behind⟩ := alike.cons
  cases head with
  | group found inside first last =>
      obtain ⟨rfl, within⟩ : found = delimiter ∧ Alike inside inner := by
        simpa [Alike, Token.unplaced] using same
      exact ⟨inside, first, last, tail, rfl, within, behind⟩
  | _ => cases same

theorem Alike.length (alike : Alike tokens view) : tokens.length = view.length := by
  rw [← length_unplaced, alike, length_unplaced]

end Tokens

namespace Parser

variable {α β : Type} {tokens middle rest inner : Tokens} {claim : α → Prop} {claimed : β → Prop}

/-- The parser goes from the given tokens to the rest, and what it answers with is as claimed. -/
def Takes (parser : Parser α) (tokens rest : Tokens) (claim : α → Prop) : Prop :=
  ∀ state, Tokens.Alike state.rest tokens → ∃ value next, parser state = .ok (value, next) ∧
    Tokens.Alike next.rest rest ∧ next.remaining = state.remaining ∧ claim value

/-- The parser goes from the given tokens to the rest, whatever it answers with. -/
def Passes (parser : Parser α) (tokens rest : Tokens) : Prop :=
  Takes parser tokens rest fun _ => True

/-- The parser does not accept what stands in front. -/
def Refuses (parser : Parser α) (tokens : Tokens) : Prop :=
  ∀ state, Tokens.Alike state.rest tokens → ∃ fault, parser state = .error fault

namespace Takes

variable {parser : Parser α} {following : α → Parser β}

theorem imp {other : α → Prop} (taken : Takes parser tokens rest claim)
    (implied : ∀ value, claim value → other value) : Takes parser tokens rest other := by
  intro state alike
  obtain ⟨value, next, parsed, behind, kept, claimed⟩ := taken state alike
  exact ⟨value, next, parsed, behind, kept, implied value claimed⟩

theorem passes (taken : Takes parser tokens rest claim) : Passes parser tokens rest :=
  taken.imp fun _ _ => trivial

theorem result {value : α} (holds : claim value) : Takes (pure value) tokens tokens claim :=
  fun state alike => ⟨value, state, rfl, alike, rfl, holds⟩

theorem bind (first : Takes parser tokens middle claim)
    (second : ∀ value, claim value → Takes (following value) middle rest claimed) :
    Takes (parser >>= following) tokens rest claimed := by
  intro state alike
  obtain ⟨value, between, parsed, behind, kept, holds⟩ := first state alike
  obtain ⟨result, next, parsedToo, behindToo, keptToo, holdsToo⟩ :=
    second value holds between behind
  exact ⟨result, next, bind_eq_ok.mpr ⟨value, between, parsed, parsedToo⟩, behindToo,
    keptToo.trans kept, holdsToo⟩

theorem seq (first : Passes parser tokens middle)
    (second : ∀ value, Takes (following value) middle rest claimed) :
    Takes (parser >>= following) tokens rest claimed :=
  bind first fun value _ => second value

theorem ahead {following : Tokens → Parser β}
    (second : ∀ found, Tokens.Alike found tokens → Takes (following found) tokens rest claimed) :
    Takes (Parser.ahead >>= following) tokens rest claimed := by
  intro state alike
  obtain ⟨result, next, parsed, behind⟩ := second state.rest alike state alike
  exact ⟨result, next, bind_eq_ok.mpr ⟨_, _, rfl, parsed⟩, behind⟩

theorem get {following : ParserState → Parser β}
    (second : ∀ state, Tokens.Alike state.rest tokens →
      Takes (following state) tokens rest claimed) :
    Takes (MonadState.get >>= following) tokens rest claimed := by
  intro state alike
  obtain ⟨result, next, parsed, behind⟩ := second state alike state alike
  exact ⟨result, next, bind_eq_ok.mpr ⟨_, _, rfl, parsed⟩, behind⟩

theorem first {condition : Prop} [Decidable condition] {one other : Parser α}
    (holds : condition) (taken : Takes one tokens rest claim) :
    Takes (if condition then one else other) tokens rest claim := by
  rwa [if_pos holds]

theorem second {condition : Prop} [Decidable condition] {one other : Parser α}
    (fails : ¬ condition) (taken : Takes other tokens rest claim) :
    Takes (if condition then one else other) tokens rest claim := by
  rwa [if_neg fails]

/-! ## Single tokens -/

theorem take {token : Token} : Passes Parser.take (token :: rest) rest := by
  intro state alike
  obtain ⟨head, tail, held, _, behind⟩ := alike.cons
  obtain ⟨found, written, remaining⟩ := state
  cases held
  exact ⟨(), ⟨tail, head :: written, remaining⟩, rfl, behind, rfl, trivial⟩

theorem anyWord {name : Identifier} {position : Position} :
    Takes Parser.anyWord (.word name position :: rest) rest fun found => found.1 = name := by
  refine ahead fun found alike => ?_
  obtain ⟨place, tail, rfl, _⟩ := alike.word
  exact seq take fun _ => result rfl

theorem name {name : Identifier} {position : Position} (isName : name.isName = true) :
    Takes Parser.name (.word name position :: rest) rest fun found => found.1 = name := by
  refine ahead fun found alike => ?_
  obtain ⟨place, tail, rfl, _⟩ := alike.word
  exact first isName (seq take fun _ => result rfl)

theorem acceptWord {word : String} {position : Position} :
    Takes (Parser.acceptWord word) (.word (.plain word) position :: rest) rest (· = true) := by
  refine ahead fun found alike => first ?_ (seq take fun _ => result rfl)
  rw [alike.looks.1]
  simp [Tokens.looks_word, Identifier.isWord, Identifier.plain]

theorem declineWord {word : String} (other : tokens.atWord word = false) :
    Takes (Parser.acceptWord word) tokens tokens (· = false) := by
  refine ahead fun found alike => second ?_ (result rfl)
  simp [alike.looks, other]

theorem word {word : String} {position : Position} :
    Passes (Parser.word word) (.word (.plain word) position :: rest) rest := by
  refine bind acceptWord fun accepted holds => second ?_ (result trivial)
  simp [holds]

theorem acceptOperator {operator : String} :
    Takes (Parser.acceptOperator operator) (Token.ofOperator operator ++ rest) rest
      (· = true) := by
  intro state alike
  have same := Tokens.afterOperator?_unplaced operator.toList state.rest
  rw [alike, Tokens.afterOperator?_unplaced, Token.ofOperator,
    Tokens.afterOperator?_operator] at same
  obtain ⟨tail, found, behind⟩ := Option.map_eq_some_iff.mp same.symm
  let place := (state.rest.head?.map Token.position).getD .start
  refine ⟨true, ⟨tail, (Token.operator place operator.toList).reverse ++ state.written,
    state.remaining⟩, bind_eq_ok.mpr ⟨state, state, rfl, ?_⟩, behind, rfl, rfl⟩
  rw [found]
  rfl

theorem declineOperator {operator : String} (other : tokens.atOperator operator = false) :
    Takes (Parser.acceptOperator operator) tokens tokens (· = false) := by
  refine get fun state alike => ?_
  have missing : Tokens.afterOperator? operator.toList state.rest = none := by
    rw [← Option.not_isSome_iff_eq_none]
    simpa [Tokens.atOperator] using (alike.looks.2.2.2.2.2.2.1 operator).trans other
  rw [missing]
  exact result rfl

theorem operator {operator : String} :
    Passes (Parser.operator operator) (Token.ofOperator operator ++ rest) rest := by
  refine bind acceptOperator fun accepted holds => second ?_ (result trivial)
  simp [holds]

theorem literal {text : String} {position : Position} :
    Passes Parser.literal (.literal text position :: rest) rest := by
  refine ahead fun found alike => second ?_ ?_
  · simp only [alike.looks, Tokens.looks_literal]
    decide
  · exact bind (declineOperator rfl) fun accepted holds => second (by simp [holds]) take

theorem rawGroup {delimiter : Delimiter} {opening closing : Position} :
    Takes Parser.rawGroup (.group delimiter inner opening closing :: rest) rest
      (· = delimiter) := by
  refine ahead fun found alike => ?_
  obtain ⟨_, _, _, _, rfl, _, _⟩ := alike.group
  exact seq take fun _ => result rfl

theorem group {delimiter : Delimiter} {opening closing : Position} {contents : Parser α}
    (taken : Takes contents inner [] claim) :
    Takes (Parser.group delimiter contents) (.group delimiter inner opening closing :: rest) rest
      claim := by
  intro state alike
  obtain ⟨inside, start, stop, tail, held, within, behind⟩ := alike.group
  obtain ⟨value, left, completed, ended, kept, holds⟩ :=
    taken ⟨inside, [], state.remaining⟩ within
  have nothing : left.rest = [] := by
    rw [← List.length_eq_zero_iff, ended.length, List.length_nil]
  refine ⟨value, ⟨tail, .group delimiter left.written.reverse start stop :: state.written,
    left.remaining⟩, bind_eq_ok.mpr ⟨state, state, rfl, ?_⟩, behind, kept, holds⟩
  rw [held]
  refine ite_eq_ok.mpr (.inl ⟨rfl, bind_eq_ok.mpr ⟨(), _, rfl, bind_eq_ok.mpr
    ⟨value, left, completed, bind_eq_ok.mpr ⟨left, left, rfl, ?_⟩⟩⟩⟩)
  rw [nothing]
  cases left.remaining <;> rfl

theorem atEnd {token : Token} : Takes Parser.atEnd (token :: rest) (token :: rest) (· = false) := by
  intro state alike
  refine ⟨false, state, ?_, alike, rfl, rfl⟩
  obtain ⟨head, tail, held, _, _⟩ := alike.cons
  exact congrArg (fun tokens => Except.ok (List.isEmpty tokens, state)) held

theorem atEnd_nil : Takes Parser.atEnd [] [] (· = true) := by
  intro state alike
  refine ⟨true, state, ?_, alike, rfl, rfl⟩
  have held : state.rest = [] := by
    rw [← List.length_eq_zero_iff, alike.length, List.length_nil]
  exact congrArg (fun tokens => Except.ok (List.isEmpty tokens, state)) held

theorem captured {parser : Parser α} (taken : Takes parser tokens rest claim) :
    Takes (Parser.captured parser) tokens rest (claim ·.1) := by
  intro state alike
  obtain ⟨value, next, parsed, behind, kept, holds⟩ := taken { state with written := [] } alike
  refine ⟨(value, next.written.reverse), { next with written := state.written },
    bind_eq_ok.mpr ⟨state, state, rfl, bind_eq_ok.mpr ⟨(), _, rfl, bind_eq_ok.mpr
      ⟨value, next, parsed, rfl⟩⟩⟩, behind, kept, holds⟩

theorem quiet {parser : Parser α} (taken : Takes parser tokens rest claim) :
    Takes (Parser.quiet parser) tokens rest claim :=
  bind (captured taken) fun _ holds => result holds

theorem write {written : Tokens} : Passes (Parser.write written) tokens tokens :=
  fun _ alike => ⟨(), _, rfl, alike, rfl, trivial⟩

theorem attempt {parser : Parser α} (taken : Takes parser tokens rest claim) :
    Takes (Parser.attempt parser) tokens rest fun found => ∃ value ∈ found, claim value := by
  intro state alike
  obtain ⟨value, next, parsed, behind, kept, holds⟩ := taken state alike
  refine ⟨some value, next, ?_, behind, kept, value, rfl, holds⟩
  rw [Parser.attempt, StateT.run, parsed]

theorem attempt_refused {parser : Parser α} (refused : Refuses parser tokens) :
    Takes (Parser.attempt parser) tokens tokens (· = none) := by
  intro state alike
  obtain ⟨fault, failed⟩ := refused state alike
  refine ⟨none, state, ?_, alike, rfl, rfl⟩
  rw [Parser.attempt, StateT.run, failed]

/-- What takes all tokens of a text reads the text. -/
theorem runAll {parser : Parser α} {view : Tokens} (taken : Takes parser view [] claim)
    (alike : Tokens.Alike tokens view) :
    ∃ value, Parser.runAll parser tokens = .ok value ∧ claim value := by
  obtain ⟨value, ⟨left, written, remaining⟩, parsed, ended, kept, holds⟩ :=
    taken ⟨tokens, [], none⟩ alike
  obtain rfl : left = [] := List.length_eq_zero_iff.mp (by simpa using ended.length)
  obtain rfl : remaining = none := kept
  exact ⟨value, runAll_eq_ok.mpr ⟨written, parsed⟩, holds⟩

end Takes

namespace Refuses

theorem fail {fault : SyntaxError} : Refuses (Parser.fail fault : Parser α) tokens :=
  fun _ _ => ⟨fault, rfl⟩

theorem failWanting {wanted : String} : Refuses (Parser.failWanting wanted : Parser α) tokens := by
  intro state alike
  change ∃ fault, (if state.rest.isEmpty then _ else _ : Parser α) state = .error fault
  split <;> exact ⟨_, rfl⟩

theorem bind {parser : Parser α} {following : α → Parser β}
    (first : Takes parser tokens middle claim)
    (second : ∀ value, claim value → Refuses (following value) middle) :
    Refuses (parser >>= following) tokens := by
  intro state alike
  obtain ⟨value, between, parsed, behind, _, holds⟩ := first state alike
  obtain ⟨fault, failed⟩ := second value holds between behind
  refine ⟨fault, ?_⟩
  change (Except.bind (parser state) fun step => following step.1 step.2) = _
  rw [parsed]
  exact failed

theorem first {parser : Parser α} {following : α → Parser β} (refused : Refuses parser tokens) :
    Refuses (parser >>= following) tokens := by
  intro state alike
  obtain ⟨fault, failed⟩ := refused state alike
  refine ⟨fault, ?_⟩
  change (Except.bind (parser state) fun step => following step.1 step.2) = _
  rw [failed]
  rfl

theorem ahead {following : Tokens → Parser β}
    (second : ∀ found, Tokens.Alike found tokens → Refuses (following found) tokens) :
    Refuses (Parser.ahead >>= following) tokens := by
  intro state alike
  obtain ⟨fault, failed⟩ := second state.rest alike state alike
  exact ⟨fault, failed⟩

theorem word {word : String} (other : tokens.atWord word = false) :
    Refuses (Parser.word word) tokens := by
  refine bind (Takes.declineWord other) fun accepted holds => ?_
  rw [if_pos (by simp [holds])]
  exact failWanting

end Refuses

/-! ## Repetition -/

/-- Rounds of a step, each of which comes nearer to the end. The last one answers with nothing. -/
inductive Rounds (step : Parser (Option α)) : List (α → Prop) → Tokens → Tokens → Prop
  | stop {tokens rest : Tokens} (ended : Takes step tokens rest (· = none)) :
      Rounds step [] tokens rest
  | more {claim : α → Prop} {claims : List (α → Prop)} {tokens middle rest : Tokens}
      (one : Takes step tokens middle fun found => ∃ value ∈ found, claim value)
      (nearer : middle.length < tokens.length) (others : Rounds step claims middle rest) :
      Rounds step (claim :: claims) tokens rest

/-- A condition that holds, or does not, of all tokens that look like the given ones. -/
def Tells (condition : Tokens → Bool) (tokens : Tokens) (answer : Bool) : Prop :=
  ∀ found, Tokens.Alike found tokens → condition found = answer

/-- Elements up to a stop with separators between them. The flag tells whether there is one behind
the last element, or no element at all. -/
inductive Parts (separator : String) (stop : Tokens → Bool) (element : Parser α) :
    Bool → List (α → Prop) → Tokens → Tokens → Prop
  | none {tokens : Tokens} (stops : Tells stop tokens true) :
      Parts separator stop element true [] tokens tokens
  | last {claim : α → Prop} {tokens rest : Tokens} (starts : Tells stop tokens false)
      (one : Takes element tokens rest claim) (stops : Tells stop rest true) :
      Parts separator stop element false [claim] tokens rest
  | more {trailing : Bool} {claim : α → Prop} {claims : List (α → Prop)}
      {tokens middle rest : Tokens} (starts : Tells stop tokens false)
      (one : Takes element tokens (Token.ofOperator separator ++ middle) claim)
      (divides : Tells stop (Token.ofOperator separator ++ middle) false)
      (nearer : middle.length < tokens.length)
      (others : Parts separator stop element trailing claims middle rest) :
      Parts separator stop element trailing (claim :: claims) tokens rest

/-- Rounds of a parser for as long as a condition holds. -/
inductive Whiles (condition : Tokens → Bool) (parser : Parser α) :
    List (α → Prop) → Tokens → Tokens → Prop
  | stop {tokens : Tokens} (stops : Tells condition tokens false) :
      Whiles condition parser [] tokens tokens
  | more {claim : α → Prop} {claims : List (α → Prop)} {tokens middle rest : Tokens}
      (continues : Tells condition tokens true) (one : Takes parser tokens middle claim)
      (nearer : middle.length < tokens.length)
      (others : Whiles condition parser claims middle rest) :
      Whiles condition parser (claim :: claims) tokens rest

namespace Takes

variable {claims : List (α → Prop)}

theorem manyWithin {step : Parser (Option α)} {fuel : Nat} (enough : tokens.length < fuel)
    (rounds : Rounds step claims tokens rest) :
    Takes (Parser.manyWithin step fuel) tokens rest
      fun found => List.Forall₂ (fun value claim => claim value) found claims := by
  induction rounds generalizing fuel with
  | stop ended =>
      obtain ⟨fuel, rfl⟩ := Nat.exists_eq_add_of_lt enough
      exact bind ended fun found holds => by
        subst holds
        exact result .nil
  | more one nearer others ih =>
      cases fuel with
      | zero => contradiction
      | succ fuel =>
          refine bind one fun found holds => ?_
          obtain ⟨value, rfl, holds⟩ := holds
          exact bind (ih (by omega)) fun _ related => result (.cons holds related)

/-- Repetition goes as far as its rounds do. -/
theorem many {step : Parser (Option α)} (rounds : Rounds step claims tokens rest) :
    Takes (Parser.many step) tokens rest
      fun found => List.Forall₂ (fun value claim => claim value) found claims := by
  refine ahead fun found alike => manyWithin ?_ rounds
  rw [alike.length]
  exact Nat.lt_succ_self _

theorem manyWhile {condition : Tokens → Bool} {parser : Parser α}
    (whiles : Whiles condition parser claims tokens rest) :
    Takes (Parser.manyWhile condition parser) tokens rest
      fun found => List.Forall₂ (fun value claim => claim value) found claims := by
  refine many ?_
  induction whiles with
  | stop stops => exact .stop (ahead fun found alike => second (by simp [stops found alike])
      (result rfl))
  | more continues one nearer _ ih =>
      exact .more (ahead fun found alike => first (continues found alike)
        (bind one fun value holds => result ⟨value, rfl, holds⟩)) nearer ih

/-- Elements with separators are taken up to the stop. -/
theorem separatedWithin {separator : String} {stop : Tokens → Bool} {element : Parser α}
    {trailing : Bool} {fuel : Nat} (enough : tokens.length < fuel)
    (parts : Parts separator stop element trailing claims tokens rest) :
    Takes (Parser.separatedWithin separator stop element fuel) tokens rest
      fun found => List.Forall₂ (fun value claim => claim value) found.1 claims ∧
        found.2 = trailing := by
  induction parts generalizing fuel with
  | none stops =>
      obtain ⟨fuel, rfl⟩ := Nat.exists_eq_add_of_lt enough
      exact ahead fun found alike => first (stops found alike) (result ⟨.nil, rfl⟩)
  | last starts one stops =>
      obtain ⟨fuel, rfl⟩ := Nat.exists_eq_add_of_lt enough
      refine ahead fun found alike => second (by simp [starts found alike]) ?_
      refine bind one fun value holds => ahead fun found alike => ?_
      exact first (stops found alike) (result ⟨.cons holds .nil, rfl⟩)
  | more starts one divides nearer others ih =>
      cases fuel with
      | zero => contradiction
      | succ fuel =>
          refine ahead fun found alike => second (by simp [starts found alike]) ?_
          refine bind one fun value holds => ahead fun found alike => ?_
          refine second (by simp [divides found alike]) (seq operator fun _ => ?_)
          refine bind (ih (by omega)) fun found related => ?_
          exact result ⟨.cons holds related.1, related.2⟩

theorem separated {separator : String} {stop : Tokens → Bool} {element : Parser α}
    {trailing : Bool} (parts : Parts separator stop element trailing claims tokens rest) :
    Takes (Parser.separated separator stop element) tokens rest
      fun found => List.Forall₂ (fun value claim => claim value) found.1 claims ∧
        found.2 = (trailing && !claims.isEmpty) := by
  refine ahead fun found alike => bind (separatedWithin ?_ parts) fun found related => ?_
  · rw [alike.length]
    exact Nat.lt_succ_self _
  · refine result ⟨related.1, ?_⟩
    obtain ⟨elements, isTrailing⟩ := found
    obtain ⟨same, rfl⟩ := related
    cases same <;> rfl

theorem commaSeparated {element : Parser α} {trailing : Bool}
    (parts : Parts "," List.isEmpty element trailing claims tokens rest) :
    Takes (Parser.commaSeparated element) tokens rest
      fun found => List.Forall₂ (fun value claim => claim value) found claims :=
  bind (separated parts) fun _ related => result related.1

end Takes

end Parser

end StorageMapping.Source
