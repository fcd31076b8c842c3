import StorageMapping.Proofs.Source.Forward
import StorageMapping.Proofs.Source.Lexed

namespace StorageMapping.Source

open Lexer StorageMapping.Source.Parser

/-! # Parsers that keep tokens tidy

A parser that takes tidy tokens leaves tidy tokens and writes tidy ones. A joint character is only
ever taken together with the whole operator that it belongs to. -/

namespace Token

theorem head_of_afterOperator? {c : Char} {more : List Char} {tokens rest : Tokens}
    (found : Tokens.afterOperator? (c :: more) tokens = some rest) :
    ∃ joint position behind, tokens = .punctuation c joint position :: behind := by
  unfold Tokens.afterOperator? at found
  split at found
  · contradiction
  · rename_i joint position behind same
    obtain ⟨rfl, rfl⟩ := List.cons.inj same
    split at found
    · rename_i same
      exact ⟨joint, position, behind, by rw [same]⟩
    · contradiction
  · rename_i joint position behind _ same
    obtain ⟨rfl, rfl⟩ := List.cons.inj same
    split at found
    · rename_i same
      exact ⟨joint, position, behind, by simp_all⟩
    · contradiction
  · contradiction

theorem head_operator (position : Position) (c : Char) (more : List Char) :
    ∃ joint behind, operator position (c :: more) = .punctuation c joint position :: behind := by
  cases more with
  | nil => exact ⟨false, [], rfl⟩
  | cons d more => exact ⟨true, _, rfl⟩

/-- Every character of an operator found in tidy tokens continues the one before it. -/
theorem tidy_operator {operator : List Char} {tokens rest : Tokens}
    (found : Tokens.afterOperator? operator tokens = some rest) (tidy : Tidy tokens)
    (position : Position) : Tidy (Token.operator position operator) := by
  fun_induction Tokens.afterOperator? operator tokens with
  | case1 => exact .nil
  | case2 joint here rest =>
      cases tidy.readable _ List.mem_cons_self with
      | punctuation mark other => exact .single (.punctuation mark other) rfl
  | case3 => contradiction
  | case4 c more mark joint here behind longer same ih =>
      simp only [Bool.and_eq_true, decide_eq_true_eq] at same
      obtain ⟨rfl, rfl⟩ := same
      have following := ih found tidy.tail
      cases more with
      | nil => exact absurd rfl (longer · )
      | cons d more =>
          obtain ⟨followed, _, _, rfl⟩ := head_of_afterOperator? found
          obtain ⟨joint, behind, head⟩ := head_operator position d more
          obtain ⟨follower, same, continues⟩ := tidy.spaced.1
          cases same
          have readable := tidy.readable _ List.mem_cons_self
          cases readable with
          | punctuation marked other =>
              refine ⟨List.forall_mem_cons.mpr ⟨.punctuation marked other, following.readable⟩, ?_⟩
              refine ⟨⟨.punctuation d joint position, ?_, continues⟩, following.spaced⟩
              rw [head]
              rfl
  | case5 => contradiction
  | case6 => contradiction

end Token

namespace Parser

variable {α β : Type} {state next : ParserState}

/-- The tokens ahead are tidy, and so are those written down. -/
structure Tidied (state : ParserState) : Prop where
  rest : Tidy state.rest
  written : Tidy state.written.reverse

/-- Written tokens stay tidy, and the answer is what it should be. -/
structure Keeps (claim : α → Prop) (parser : Parser α) : Prop where
  kept : ∀ {state value next}, Tidied state → parser state = .ok (value, next) →
    Tidied next ∧ claim value

/-- Written tokens stay tidy. -/
class Tidies (parser : Parser α) : Prop where
  keeps : Keeps (fun _ => True) parser

namespace Keeps

variable {claim : α → Prop} {parser : Parser α}

theorem tidies (keeps : Keeps claim parser) : Tidies parser where
  keeps := ⟨fun tidied parsed => ⟨(keeps.kept tidied parsed).1, trivial⟩⟩

theorem of_tidies [tidies : Tidies parser] : Keeps (fun _ => True) parser := tidies.keeps

theorem result {value : α} (holds : claim value) : Keeps claim (pure value) where
  kept tidied parsed := by
    obtain ⟨rfl, rfl⟩ := pure_eq_ok.mp parsed
    exact ⟨tidied, holds⟩

theorem bind {claim' : β → Prop} {following : α → Parser β} (front : Keeps claim parser)
    (back : ∀ value, claim value → Keeps claim' (following value)) :
    Keeps claim' (parser >>= following) where
  kept tidied parsed := by
    obtain ⟨value, middle, first, second⟩ := bind_eq_ok.mp parsed
    obtain ⟨tidied, holds⟩ := front.kept tidied first
    exact (back value holds).kept tidied second

theorem step {claim' : β → Prop} {following : α → Parser β} [Tidies parser]
    (back : ∀ value, Keeps claim' (following value)) : Keeps claim' (parser >>= following) :=
  of_tidies.bind fun value _ => back value

theorem choice {condition : Prop} [Decidable condition] {first second : Parser α}
    (one : Keeps claim first) (other : Keeps claim second) :
    Keeps claim (if condition then first else second) where
  kept tidied parsed := by
    rcases ite_eq_ok.mp parsed with ⟨_, parsed⟩ | ⟨_, parsed⟩
    · exact one.kept tidied parsed
    · exact other.kept tidied parsed

theorem fail (error : SyntaxError) : Keeps claim (Parser.fail error) where
  kept _ parsed := by cases parsed

theorem failWanting (wanted : String) : Keeps claim (Parser.failWanting wanted) where
  kept _ parsed := absurd parsed failWanting_ne_ok

end Keeps

namespace Tidies

instance pure (value : α) : Tidies (pure value : Parser α) where
  keeps := .result trivial

instance bind (parser : Parser α) (following : α → Parser β) [Tidies parser]
    [back : ∀ value, Tidies (following value)] : Tidies (parser >>= following) where
  keeps := .step fun value => (back value).keeps

theorem step {parser : Parser α} {following : α → Parser β} [Tidies parser]
    (back : ∀ value, Tidies (following value)) : Tidies (parser >>= following) :=
  inferInstance

theorem choice {condition : Prop} [Decidable condition] {first second : Parser α}
    (one : Tidies first) (other : Tidies second) :
    Tidies (if condition then first else second) where
  keeps := .choice one.keeps other.keeps

instance ite (condition : Prop) [Decidable condition] (first second : Parser α) [Tidies first]
    [Tidies second] : Tidies (if condition then first else second) :=
  choice inferInstance inferInstance

instance map (f : α → β) (parser : Parser α) [Tidies parser] : Tidies (f <$> parser) := by
  rw [← bind_pure_comp]
  infer_instance

instance fail (error : SyntaxError) : Tidies (Parser.fail error : Parser α) where
  keeps := .fail error

instance failWanting (wanted : String) : Tidies (Parser.failWanting wanted : Parser α) where
  keeps := .failWanting wanted

instance failWantingThen (wanted : String) (following : α → Parser β) :
    Tidies (Parser.failWanting wanted >>= following) where
  keeps := (Keeps.failWanting wanted : Keeps (fun _ => False) _).bind fun _ absurd => absurd.elim

/-- A parser that leaves all tokens alone. -/
theorem of_unmoved {parser : Parser α}
    (unmoved : ∀ {state value next}, parser state = .ok (value, next) → next = state) :
    Tidies parser where
  keeps := ⟨fun tidied parsed => ⟨unmoved parsed ▸ tidied, trivial⟩⟩

instance get : Tidies (get : Parser ParserState) := of_unmoved fun parsed => by cases parsed; rfl

instance ahead : Tidies ahead := of_unmoved fun parsed => by cases parsed; rfl

instance atEnd : Tidies atEnd := of_unmoved fun parsed => by cases parsed; rfl

end Tidies

theorem keeps_write {tokens : Tokens} (tidy : Tidy tokens) :
    Keeps (fun _ => True) (write tokens) where
  kept := by
    intro state value next tidied parsed
    cases parsed
    refine ⟨⟨tidied.rest, ?_⟩, trivial⟩
    simpa using tidied.written.append tidy

/-- Written tokens stay tidy where these tokens are ahead. -/
structure KeepsAt (tokens : Tokens) (claim : α → Prop) (parser : Parser α) : Prop where
  kept : ∀ {state value next}, state.rest = tokens → Tidied state →
    parser state = .ok (value, next) → Tidied next ∧ claim value

namespace KeepsAt

variable {tokens : Tokens} {claim : α → Prop}

theorem look {following : Tokens → Parser α}
    (each : ∀ tokens : Tokens, Tidy tokens → KeepsAt tokens claim (following tokens)) :
    Keeps claim (ahead >>= following) where
  kept tidied parsed := by
    obtain ⟨_, _, looked, parsed⟩ := bind_eq_ok.mp parsed
    obtain ⟨rfl, rfl⟩ := ahead_eq_ok.mp looked
    exact (each _ tidied.rest).kept rfl tidied parsed

theorem of_keeps {parser : Parser α} (keeps : Keeps claim parser) :
    KeepsAt tokens claim parser where
  kept _ := keeps.kept

theorem choice {condition : Prop} [Decidable condition] {first second : Parser α}
    (one : condition → KeepsAt tokens claim first) (other : Keeps claim second) :
    KeepsAt tokens claim (if condition then first else second) where
  kept held tidied parsed := by
    rcases ite_eq_ok.mp parsed with ⟨holds, parsed⟩ | ⟨_, parsed⟩
    · exact (one holds).kept held tidied parsed
    · exact other.kept tidied parsed

/-- A token that is not joint can be taken by itself. -/
theorem take (ended : ∀ token ∈ tokens.head?, token.isJoint = false) :
    KeepsAt tokens (fun _ => True) take where
  kept := by
    intro state value next held tidied taken
    change Except.ok ((), _) = _ at taken
    simp only [Except.ok.injEq, Prod.mk.injEq, true_and] at taken
    subst held next
    cases held : state.rest with
    | nil => exact ⟨by simpa [held] using tidied, trivial⟩
    | cons token rest =>
        have tidy := tidied.rest
        rw [held] at tidy ended
        refine ⟨⟨tidy.tail, ?_⟩, trivial⟩
        simpa using tidied.written.append
          (.single (tidy.readable token List.mem_cons_self) (ended token rfl))

theorem bind {claim' : β → Prop} {parser : Parser α} {following : α → Parser β}
    (front : KeepsAt tokens claim parser)
    (back : ∀ value, claim value → Keeps claim' (following value)) :
    KeepsAt tokens claim' (parser >>= following) where
  kept held tidied parsed := by
    obtain ⟨value, middle, first, second⟩ := bind_eq_ok.mp parsed
    obtain ⟨tidied, holds⟩ := front.kept held tidied first
    exact (back value holds).kept tidied second

end KeepsAt

theorem legal_of_tidy {name : Identifier} {position : Position} {rest : Tokens}
    (tidy : Tidy (.word name position :: rest)) : name.Legal := by
  cases tidy.readable _ List.mem_cons_self with
  | word legal => exact legal

theorem keeps_anyWord : Keeps (fun found => found.1.Legal) anyWord := by
  refine KeepsAt.look fun tokens tidy => ?_
  split
  · exact (KeepsAt.take (by simp [Token.isJoint])).bind fun _ _ => .result (legal_of_tidy tidy)
  · exact .of_keeps (.failWanting _)

theorem keeps_name : Keeps (fun found => found.1.Legal) name := by
  refine KeepsAt.look fun tokens tidy => ?_
  split
  · refine .choice (fun _ => ?_) (.fail _)
    exact (KeepsAt.take (by simp [Token.isJoint])).bind fun _ _ => .result (legal_of_tidy tidy)
  · exact .of_keeps (.failWanting _)

theorem keeps_lifetime : Keeps Identifier.Legal lifetime := by
  refine KeepsAt.look fun tokens tidy => ?_
  split
  · refine (KeepsAt.take (by simp [Token.isJoint])).bind fun _ _ => .result ?_
    cases tidy.readable _ List.mem_cons_self with
    | lifetime legal => exact legal
  · exact .of_keeps (.failWanting _)

theorem keeps_acceptOperator (operator : String) :
    Keeps (fun _ => True) (acceptOperator operator) where
  kept := by
    intro state value next tidied parsed
    obtain ⟨_, _, here, parsed⟩ := bind_eq_ok.mp parsed
    cases here
    cases found : Tokens.afterOperator? operator.toList state.rest with
    | none =>
        simp only [found] at parsed
        cases parsed
        exact ⟨tidied, trivial⟩
    | some rest =>
        simp only [found] at parsed
        cases parsed
        refine ⟨⟨tidied.rest.of_suffix (Forward.afterOperator?_suffix found), ?_⟩, trivial⟩
        simpa using tidied.written.append (Token.tidy_operator found tidied.rest _)

/-- A literal is one token, but for the sign of a negative number. -/
theorem keeps_literal : Keeps (fun _ => True) literal := by
  refine KeepsAt.look fun tokens _ => ?_
  by_cases unliteral : (!tokens.atLiteral) = true
  · rw [if_pos unliteral]
    exact .of_keeps (.failWanting _)
  · rw [if_neg unliteral]
    simp only [Bool.not_eq_true, Bool.not_eq_false'] at unliteral
    refine ⟨fun {state value next} held tidied parsed => ?_⟩
    subst held
    obtain ⟨accepted, middle, signed, parsed⟩ := bind_eq_ok.mp parsed
    have kept := ((keeps_acceptOperator "-").kept tidied signed).1
    have ended : ∀ token ∈ middle.rest.head?, token.isJoint = false := by
      have sign : "-".toList = ['-'] := by decide
      rcases acceptOperator_eq_ok signed with ⟨_, read⟩ | ⟨_, unread, rfl⟩
      · rw [sign] at read
        obtain ⟨_, _, _, held⟩ := Token.head_of_afterOperator? read
        rw [held, Tokens.afterOperator?, if_pos rfl] at read
        rw [held, Option.some.inj read] at unliteral
        unfold Tokens.atLiteral at unliteral
        split at unliteral <;> simp_all [Token.isJoint]
      · rw [sign] at unread
        unfold Tokens.atLiteral at unliteral
        split at unliteral <;> simp_all [Token.isJoint, Tokens.afterOperator?]
    split at parsed
    · exact (KeepsAt.take ended).kept rfl kept parsed
    · exact (KeepsAt.take ended).kept rfl kept parsed

namespace Tidies

instance anyWord : Tidies anyWord := keeps_anyWord.tidies

instance name : Tidies name := keeps_name.tidies

instance lifetime : Tidies lifetime := keeps_lifetime.tidies

instance acceptWord (word : String) : Tidies (acceptWord word) where
  keeps := by
    refine KeepsAt.look fun tokens tidy => .choice (fun found => ?_) (.result trivial)
    refine (KeepsAt.take ?_).bind fun _ _ => .result trivial
    unfold Tokens.atWord at found
    split at found
    · simp [Token.isJoint]
    · contradiction

instance word (word : String) : Tidies (Parser.word word) := by
  unfold Parser.word; infer_instance

instance acceptOperator (operator : String) : Tidies (acceptOperator operator) where
  keeps := keeps_acceptOperator operator

instance literal : Tidies literal where
  keeps := keeps_literal

instance operator (operator : String) : Tidies (Parser.operator operator) := by
  unfold Parser.operator; infer_instance

instance rawGroup : Tidies rawGroup where
  keeps := by
    refine KeepsAt.look fun tokens tidy => ?_
    split
    · exact (KeepsAt.take (by simp [Token.isJoint])).bind fun _ _ => .result trivial
    · exact .of_keeps (.failWanting _)

end Tidies

theorem KeepsAt.captured {tokens : Tokens} {claim : α → Prop} {parser : Parser α}
    (keeps : KeepsAt tokens claim parser) :
    KeepsAt tokens (fun found => claim found.1 ∧ Tidy found.2) (captured parser) where
  kept := by
    intro state value next held tidied parsed
    obtain ⟨_, _, here, parsed⟩ := bind_eq_ok.mp parsed
    cases here
    obtain ⟨_, _, cleared, parsed⟩ := bind_eq_ok.mp parsed
    cases cleared
    obtain ⟨_, _, taken, parsed⟩ := bind_eq_ok.mp parsed
    have cleared : Tidied { state with written := [] } := ⟨tidied.rest, .nil⟩
    obtain ⟨inside, holds⟩ := keeps.kept (by exact held) cleared taken
    obtain ⟨_, _, looked, parsed⟩ := bind_eq_ok.mp parsed
    cases looked
    cases parsed
    exact ⟨⟨inside.rest, tidied.written⟩, holds, inside.written⟩

theorem KeepsAt.quiet {tokens : Tokens} {claim : α → Prop} {parser : Parser α}
    (keeps : KeepsAt tokens claim parser) : KeepsAt tokens claim (quiet parser) :=
  keeps.captured.bind fun _ holds => .result holds.1

theorem keeps_captured {claim : α → Prop} {parser : Parser α} (keeps : Keeps claim parser) :
    Keeps (fun found => claim found.1 ∧ Tidy found.2) (captured parser) :=
  ⟨(KeepsAt.of_keeps keeps).captured.kept rfl⟩

theorem keeps_quiet {claim : α → Prop} {parser : Parser α} (keeps : Keeps claim parser) :
    Keeps claim (quiet parser) :=
  ⟨(KeepsAt.of_keeps keeps).quiet.kept rfl⟩

theorem keeps_group {claim : α → Prop} {delimiter : Delimiter} {contents : Parser α}
    (keeps : Keeps claim contents) : Keeps claim (group delimiter contents) where
  kept := by
    intro state value next tidied parsed
    obtain ⟨_, _, here, parsed⟩ := bind_eq_ok.mp parsed
    cases here
    cases held : state.rest with
    | nil => simp only [held] at parsed; exact absurd parsed failWanting_ne_ok
    | cons token rest =>
        have tidy := tidied.rest
        rw [held] at tidy
        cases token with
        | group found inner opening closing =>
            have inside : Tidy inner := by
              cases tidy.readable _ List.mem_cons_self with
              | group inside spaced => exact ⟨inside, spaced⟩
            simp only [held] at parsed
            rcases ite_eq_ok.mp parsed with ⟨rfl, parsed⟩ | ⟨_, parsed⟩
            · obtain ⟨_, _, entered, parsed⟩ := bind_eq_ok.mp parsed
              cases entered
              obtain ⟨result, left, completed, parsed⟩ := bind_eq_ok.mp parsed
              have entered : Tidied { state with rest := inner, written := [] } := ⟨inside, .nil⟩
              obtain ⟨read, holds⟩ := keeps.kept entered completed
              obtain ⟨_, _, looked, parsed⟩ := bind_eq_ok.mp parsed
              cases looked
              cases parsed
              refine ⟨⟨tidy.tail, ?_⟩, holds⟩
              simpa using tidied.written.append (.group read.written)
            · exact absurd parsed failWanting_ne_ok
        | _ => simp only [held] at parsed; exact absurd parsed failWanting_ne_ok

/-! ## Repetition -/

variable {claim : α → Prop}

theorem keeps_manyWithin {step : Parser (Option α)}
    (keeps : Keeps (fun found => ∀ value ∈ found, claim value) step) (fuel : Nat) :
    Keeps (fun found => ∀ value ∈ found, claim value) (manyWithin step fuel) := by
  induction fuel with
  | zero => exact .result (by simp)
  | succ fuel ih =>
      unfold manyWithin
      refine keeps.bind fun found holds => ?_
      split
      · exact ih.bind fun rest others => .result (List.forall_mem_cons.mpr ⟨holds _ rfl, others⟩)
      · exact .result (by simp)

theorem keeps_manyWhile {condition : Tokens → Bool} {parser : Parser α}
    (keeps : Keeps claim parser) :
    Keeps (fun found => ∀ value ∈ found, claim value) (manyWhile condition parser) := by
  refine .step fun _ => keeps_manyWithin (.step fun _ => .choice ?_ (.result (by simp))) _
  exact keeps.bind fun value holds => .result (by simpa using holds)

theorem keeps_separatedWithin {separator : String} {stop : Tokens → Bool} {element : Parser α}
    (keeps : Keeps claim element) (fuel : Nat) :
    Keeps (fun found => ∀ value ∈ found.1, claim value)
      (separatedWithin separator stop element fuel) := by
  induction fuel with
  | zero => exact .result (by simp)
  | succ fuel ih =>
      unfold separatedWithin
      refine .step fun _ => .choice (.result (by simp)) (keeps.bind fun value holds => ?_)
      refine .step fun _ => .choice (.result (by simpa using holds)) (.step fun _ => ?_)
      exact ih.bind fun rest others => .result (List.forall_mem_cons.mpr ⟨holds, others⟩)

theorem keeps_separated {separator : String} {stop : Tokens → Bool} {element : Parser α}
    (keeps : Keeps claim element) :
    Keeps (fun found => ∀ value ∈ found.1, claim value) (separated separator stop element) :=
  .step fun _ => (keeps_separatedWithin keeps _).bind fun _ holds => .result holds

namespace Tidies

instance captured (parser : Parser α) [Tidies parser] : Tidies (captured parser) :=
  (keeps_captured .of_tidies).tidies

instance quiet (parser : Parser α) [Tidies parser] : Tidies (quiet parser) :=
  (keeps_quiet .of_tidies).tidies

instance group (delimiter : Delimiter) (contents : Parser α) [Tidies contents] :
    Tidies (group delimiter contents) :=
  (keeps_group .of_tidies).tidies

instance attempt (parser : Parser α) [tidies : Tidies parser] : Tidies (attempt parser) where
  keeps := by
    refine ⟨fun {state value next} tidied parsed => ?_⟩
    change (match parser state with | .ok (_, _) => _ | .error _ => _) = _ at parsed
    cases tried : parser state with
    | error fault =>
        rw [tried] at parsed
        cases parsed
        exact ⟨tidied, trivial⟩
    | ok result =>
        rw [tried] at parsed
        cases parsed
        exact ⟨(tidies.keeps.kept tidied tried).1, trivial⟩

instance many (step : Parser (Option α)) [tidies : Tidies step] : Tidies (many step) where
  keeps := by
    have each : Keeps (fun found => ∀ value ∈ found, True) step :=
      ⟨fun tidied parsed => ⟨(tidies.keeps.kept tidied parsed).1, fun _ _ => trivial⟩⟩
    exact .step fun _ => (keeps_manyWithin each _).tidies.keeps

instance manyWhile (condition : Tokens → Bool) (parser : Parser α) [Tidies parser] :
    Tidies (manyWhile condition parser) :=
  (keeps_manyWhile .of_tidies).tidies

instance separated (separator : String) (stop : Tokens → Bool) (element : Parser α)
    [Tidies element] : Tidies (separated separator stop element) :=
  (keeps_separated .of_tidies).tidies

instance commaSeparated (element : Parser α) [Tidies element] :
    Tidies (commaSeparated element) := by
  unfold Parser.commaSeparated; infer_instance

instance chainWithin (continues : Tokens → Bool) (separator : String) (element : Parser α)
    [Tidies element] (fuel : Nat) : Tidies (chainWithin continues separator element fuel) := by
  induction fuel with
  | zero => unfold Parser.chainWithin; infer_instance
  | succ fuel ih => unfold Parser.chainWithin; infer_instance

instance chain (continues : Tokens → Bool) (separator : String) (element : Parser α)
    [Tidies element] : Tidies (chain continues separator element) := by
  unfold Parser.chain; infer_instance

/-- A token that a condition shows not to be joint may be taken where it holds. -/
theorem takeWhere {condition : Tokens → Bool} (following : Parser α) [back : Tidies following]
    (unjoint : ∀ tokens : Tokens, condition tokens = true →
      ∀ token ∈ tokens.head?, token.isJoint = false) :
    Tidies (Parser.ahead >>= fun tokens =>
      if condition tokens then take >>= fun _ => following else following) where
  keeps := KeepsAt.look fun tokens _ => .choice
    (fun holds => (KeepsAt.take (unjoint tokens holds)).bind fun _ _ => back.keeps) back.keeps

end Tidies

end Parser

end StorageMapping.Source
