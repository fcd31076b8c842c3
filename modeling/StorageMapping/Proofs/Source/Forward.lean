import Mathlib.Data.List.Infix
import StorageMapping.Proofs.Source.Parsing

namespace StorageMapping.Source.Parser

/-! # Parsers that go forward

A parser takes tokens from the front of its group and leaves those behind as they are. A group is
one token for what encloses it, whatever is done with its contents. -/

variable {α β : Type} {state next : ParserState}

/-- What a parser leaves is the end of what it found. -/
class Forward (parser : Parser α) : Prop where
  suffix : ∀ {state value next}, parser state = .ok (value, next) → next.rest <:+ state.rest

namespace Forward

instance pure (value : α) : Forward (pure value : Parser α) where
  suffix parsed := by
    obtain ⟨_, rfl⟩ := pure_eq_ok.mp parsed
    exact List.suffix_refl _

instance bind (parser : Parser α) (following : α → Parser β) [front : Forward parser]
    [back : ∀ value, Forward (following value)] : Forward (parser >>= following) where
  suffix parsed := by
    obtain ⟨value, middle, first, second⟩ := bind_eq_ok.mp parsed
    exact ((back value).suffix second).trans (front.suffix first)

theorem choice {condition : Prop} [Decidable condition] {first second : Parser α}
    (one : Forward first) (other : Forward second) :
    Forward (if condition then first else second) where
  suffix parsed := by
    rcases ite_eq_ok.mp parsed with ⟨_, parsed⟩ | ⟨_, parsed⟩
    · exact one.suffix parsed
    · exact other.suffix parsed

theorem step {parser : Parser α} {following : α → Parser β} [Forward parser]
    (back : ∀ value, Forward (following value)) : Forward (parser >>= following) :=
  inferInstance

instance ite (condition : Prop) [Decidable condition] (first second : Parser α) [Forward first]
    [Forward second] : Forward (if condition then first else second) :=
  choice inferInstance inferInstance

instance map (f : α → β) (parser : Parser α) [forward : Forward parser] :
    Forward (f <$> parser) where
  suffix parsed := by
    rw [← bind_pure_comp] at parsed
    exact (inferInstance : Forward (parser >>= fun value => Pure.pure (f value))).suffix parsed

/-- A parser that leaves the tokens alone. -/
theorem of_unmoved {parser : Parser α}
    (unmoved : ∀ {state value next}, parser state = .ok (value, next) → next.rest = state.rest) :
    Forward parser where
  suffix parsed := unmoved parsed ▸ List.suffix_refl _

instance fail (error : SyntaxError) : Forward (fail error : Parser α) where
  suffix parsed := by cases parsed

instance failWanting (wanted : String) : Forward (failWanting wanted : Parser α) where
  suffix parsed := absurd parsed failWanting_ne_ok

instance failWantingThen (wanted : String) (following : α → Parser β) :
    Forward (Parser.failWanting wanted >>= following) where
  suffix parsed := by
    obtain ⟨_, _, failed, _⟩ := bind_eq_ok.mp parsed
    exact absurd failed failWanting_ne_ok

instance get : Forward (get : Parser ParserState) :=
  of_unmoved fun parsed => by cases parsed; rfl

instance ahead : Forward ahead := of_unmoved fun parsed => by cases parsed; rfl

instance atEnd : Forward atEnd := of_unmoved fun parsed => by cases parsed; rfl

instance write (tokens : Tokens) : Forward (write tokens) :=
  of_unmoved fun parsed => by cases parsed; rfl

instance take : Forward take where
  suffix := by
    intro state value next parsed
    change Except.ok ((), _) = _ at parsed
    simp only [Except.ok.injEq, Prod.mk.injEq, true_and] at parsed
    subst next
    cases rest : state.rest <;> simp [rest]

instance acceptWord (word : String) : Forward (acceptWord word) := by
  unfold Parser.acceptWord; infer_instance

instance word (word : String) : Forward (Parser.word word) := by
  unfold Parser.word; infer_instance

theorem afterOperator?_suffix {operator : List Char} {tokens rest : Tokens}
    (found : Tokens.afterOperator? operator tokens = some rest) : rest <:+ tokens := by
  fun_induction Tokens.afterOperator? operator tokens with
  | case1 tokens => cases found; exact List.suffix_refl _
  | case2 => cases found; exact List.suffix_cons _ _
  | case3 => cases found
  | case4 c more found joint position rest _ _ ih => exact (ih found).trans (List.suffix_cons _ _)
  | case5 => cases found
  | case6 => cases found

instance acceptOperator (operator : String) : Forward (acceptOperator operator) where
  suffix := by
    intro state value next parsed
    obtain ⟨_, _, here, parsed⟩ := bind_eq_ok.mp parsed
    cases here
    cases found : Tokens.afterOperator? operator.toList state.rest with
    | none =>
        simp only [found] at parsed
        cases parsed
        exact List.suffix_refl _
    | some rest =>
        simp only [found] at parsed
        cases parsed
        exact afterOperator?_suffix found

instance operator (operator : String) : Forward (Parser.operator operator) := by
  unfold Parser.operator; infer_instance

instance anyWord : Forward anyWord := by
  unfold Parser.anyWord
  refine .step fun tokens => ?_
  split <;> infer_instance

instance name : Forward name := by
  unfold Parser.name
  refine .step fun tokens => ?_
  split <;> infer_instance

instance lifetime : Forward lifetime := by
  unfold Parser.lifetime
  refine .step fun tokens => ?_
  split <;> infer_instance

instance literal : Forward literal := by unfold Parser.literal; infer_instance

instance rawGroup : Forward rawGroup := by
  unfold Parser.rawGroup
  refine .step fun tokens => ?_
  split <;> infer_instance

instance captured (parser : Parser α) [forward : Forward parser] : Forward (captured parser) where
  suffix := by
    intro state value next parsed
    obtain ⟨_, _, here, parsed⟩ := bind_eq_ok.mp parsed
    cases here
    obtain ⟨_, _, cleared, parsed⟩ := bind_eq_ok.mp parsed
    cases cleared
    obtain ⟨_, _, taken, parsed⟩ := bind_eq_ok.mp parsed
    have moved := forward.suffix taken
    cases parsed
    exact moved

instance quiet (parser : Parser α) [Forward parser] : Forward (quiet parser) := by
  unfold Parser.quiet; infer_instance

instance attempt (parser : Parser α) [forward : Forward parser] : Forward (attempt parser) where
  suffix := by
    intro state value next parsed
    change (match parser state with | .ok (_, _) => _ | .error _ => _) = _ at parsed
    cases tried : parser state with
    | error fault =>
        rw [tried] at parsed
        cases parsed
        exact List.suffix_refl _
    | ok result =>
        rw [tried] at parsed
        cases parsed
        exact forward.suffix tried

/-- Whatever becomes of its contents, a group is one token. -/
instance group (delimiter : Delimiter) (contents : Parser α) :
    Forward (group delimiter contents) where
  suffix parsed := by
    obtain ⟨_, _, _, _, held, _⟩ := group_eq_ok parsed
    exact held ▸ List.suffix_cons _ _

/-! ## Repetition -/

instance manyWithin (step : Parser (Option α)) [Forward step] (fuel : Nat) :
    Forward (manyWithin step fuel) := by
  induction fuel with
  | zero => unfold Parser.manyWithin; infer_instance
  | succ fuel ih =>
      unfold Parser.manyWithin
      refine .step fun found => ?_
      split <;> infer_instance

instance many (step : Parser (Option α)) [Forward step] : Forward (many step) := by
  unfold Parser.many; infer_instance

instance manyWhile (condition : Tokens → Bool) (parser : Parser α) [Forward parser] :
    Forward (manyWhile condition parser) := by
  unfold Parser.manyWhile; infer_instance

instance separatedWithin (separator : String) (stop : Tokens → Bool) (element : Parser α)
    [Forward element] (fuel : Nat) : Forward (separatedWithin separator stop element fuel) := by
  induction fuel with
  | zero => unfold Parser.separatedWithin; infer_instance
  | succ fuel ih => unfold Parser.separatedWithin; infer_instance

instance separated (separator : String) (stop : Tokens → Bool) (element : Parser α)
    [Forward element] : Forward (separated separator stop element) := by
  unfold Parser.separated; infer_instance

instance commaSeparated (element : Parser α) [Forward element] :
    Forward (commaSeparated element) := by
  unfold Parser.commaSeparated; infer_instance

instance chainWithin (continues : Tokens → Bool) (separator : String) (element : Parser α)
    [Forward element] (fuel : Nat) : Forward (chainWithin continues separator element fuel) := by
  induction fuel with
  | zero => unfold Parser.chainWithin; infer_instance
  | succ fuel ih => unfold Parser.chainWithin; infer_instance

instance chain (continues : Tokens → Bool) (separator : String) (element : Parser α)
    [Forward element] : Forward (chain continues separator element) := by
  unfold Parser.chain; infer_instance

end Forward

end StorageMapping.Source.Parser
