import StorageMapping.Source.Parser

namespace StorageMapping.Source.Parser

/-! # Steps of a parser

A parser that ends well has passed every step on its way, and each step has left a state for the
next one. -/

variable {α β : Type} {state next : ParserState}

theorem bind_eq_ok {parser : Parser α} {following : α → Parser β} {result : β × ParserState} :
    (parser >>= following) state = .ok result ↔
      ∃ value middle, parser state = .ok (value, middle) ∧
        following value middle = .ok result := by
  change (Except.bind (parser state) fun step => following step.1 step.2) = _ ↔ _
  cases parser state with
  | error fault => exact ⟨nofun, fun ⟨_, _, same, _⟩ => nomatch same⟩
  | ok step =>
      constructor
      · exact fun completed => ⟨step.1, step.2, rfl, completed⟩
      · rintro ⟨value, middle, same, completed⟩
        cases same
        exact completed

theorem pure_eq_ok {value found : α} :
    (pure value : Parser α) state = .ok (found, next) ↔ value = found ∧ state = next := by
  change Except.ok (value, state) = _ ↔ _
  simp

theorem ahead_eq_ok {tokens : Tokens} :
    ahead state = .ok (tokens, next) ↔ tokens = state.rest ∧ next = state := by
  change Except.ok (state.rest, state) = _ ↔ _
  simp [eq_comm]

/-- To look ahead takes nothing. -/
theorem ahead_bind_eq_ok {following : Tokens → Parser β} {result : β × ParserState} :
    (ahead >>= following) state = .ok result ↔ following state.rest state = .ok result :=
  Iff.rfl

theorem ite_eq_ok {condition : Prop} [Decidable condition] {first second : Parser α}
    {result : α × ParserState} :
    (if condition then first else second) state = .ok result ↔
      condition ∧ first state = .ok result ∨ ¬ condition ∧ second state = .ok result := by
  by_cases holds : condition <;> simp [holds]

theorem failWanting_ne_ok {wanted : String} {result : α × ParserState} :
    (failWanting wanted : Parser α) state ≠ .ok result := by
  intro completed
  change (if state.rest.isEmpty then _ else _ : Parser α) state = _ at completed
  split at completed <;> cases completed

theorem anyWord_eq_ok {found : Identifier × Position}
    (parsed : anyWord state = .ok (found, next)) :
    state.rest = .word found.1 found.2 :: next.rest := by
  obtain ⟨_, middle, here, parsed⟩ := bind_eq_ok.mp parsed
  obtain ⟨rfl, rfl⟩ := ahead_eq_ok.mp here
  cases held : middle.rest with
  | nil => simp only [held] at parsed; exact absurd parsed failWanting_ne_ok
  | cons token rest =>
      cases token with
      | word name position =>
          simp only [held] at parsed
          obtain ⟨_, _, taken, parsed⟩ := bind_eq_ok.mp parsed
          obtain ⟨rfl, rfl⟩ := pure_eq_ok.mp parsed
          cases taken
          dsimp only
          rw [held]
      | _ => simp only [held] at parsed; exact absurd parsed failWanting_ne_ok

/-- A name is a word that is no keyword. -/
theorem anyWord_of_name {found : Identifier × Position} (parsed : name state = .ok (found, next)) :
    found.1.isName = true ∧ anyWord state = .ok (found, next) := by
  obtain ⟨_, start, here, parsed⟩ := bind_eq_ok.mp parsed
  have looked := here
  obtain ⟨rfl, rfl⟩ := ahead_eq_ok.mp here
  cases held : start.rest with
  | nil => simp only [held] at parsed; exact absurd parsed failWanting_ne_ok
  | cons token rest =>
      cases token with
      | word name position =>
          simp only [held] at parsed
          rcases ite_eq_ok.mp parsed with ⟨isName, parsed⟩ | ⟨_, parsed⟩
          · obtain ⟨_, _, taken, ended⟩ := bind_eq_ok.mp parsed
            obtain ⟨rfl, _⟩ := pure_eq_ok.mp ended
            refine ⟨isName, bind_eq_ok.mpr ⟨_, start, looked, ?_⟩⟩
            simpa only [held] using parsed
          · cases parsed
      | _ => simp only [held] at parsed; exact absurd parsed failWanting_ne_ok

theorem name_eq_ok {found : Identifier × Position} (parsed : name state = .ok (found, next)) :
    found.1.isName = true ∧ ∃ rest, state.rest = .word found.1 found.2 :: rest := by
  obtain ⟨isName, read⟩ := anyWord_of_name parsed
  exact ⟨isName, next.rest, anyWord_eq_ok read⟩

theorem acceptWord_eq_ok {word : String} {accepted : Bool}
    (parsed : acceptWord word state = .ok (accepted, next)) :
    (accepted = true → state.rest.atWord word = true ∧ next.rest = state.rest.skip 1) ∧
      (¬ accepted = true → next = state) := by
  replace parsed := ahead_bind_eq_ok.mp parsed
  rcases ite_eq_ok.mp parsed with ⟨found, parsed⟩ | ⟨_, parsed⟩
  · obtain ⟨_, _, taken, parsed⟩ := bind_eq_ok.mp parsed
    obtain ⟨rfl, rfl⟩ := pure_eq_ok.mp parsed
    cases taken
    refine ⟨fun _ => ⟨found, ?_⟩, fun declined => absurd rfl declined⟩
    dsimp only
    split <;> simp_all [Tokens.skip]
  · obtain ⟨rfl, rfl⟩ := pure_eq_ok.mp parsed
    exact ⟨fun accepted => absurd accepted Bool.false_ne_true, fun _ => rfl⟩

theorem word_eq_ok {word : String} (parsed : Parser.word word state = .ok ((), next)) :
    state.rest.atWord word = true ∧ next.rest = state.rest.skip 1 := by
  obtain ⟨accepted, _, read, parsed⟩ := bind_eq_ok.mp parsed
  rcases ite_eq_ok.mp parsed with ⟨_, parsed⟩ | ⟨taken, parsed⟩
  · exact absurd parsed failWanting_ne_ok
  · obtain ⟨_, rfl⟩ := pure_eq_ok.mp parsed
    exact (acceptWord_eq_ok read).1 (by simpa using taken)

theorem acceptOperator_eq_ok {operator : String} {accepted : Bool}
    (parsed : acceptOperator operator state = .ok (accepted, next)) :
    (accepted = true ∧ Tokens.afterOperator? operator.toList state.rest = some next.rest) ∨
      (accepted = false ∧ Tokens.afterOperator? operator.toList state.rest = none ∧
        next = state) := by
  obtain ⟨_, _, here, parsed⟩ := bind_eq_ok.mp parsed
  cases here
  cases found : Tokens.afterOperator? operator.toList state.rest with
  | none =>
      simp only [found] at parsed
      cases parsed
      exact .inr ⟨rfl, rfl, rfl⟩
  | some rest =>
      simp only [found] at parsed
      cases parsed
      exact .inl ⟨rfl, rfl⟩

theorem operator_eq_ok {operator : String}
    (parsed : Parser.operator operator state = .ok ((), next)) :
    Tokens.afterOperator? operator.toList state.rest = some next.rest := by
  obtain ⟨_, _, accepted, parsed⟩ := bind_eq_ok.mp parsed
  rcases acceptOperator_eq_ok accepted with ⟨rfl, found⟩ | ⟨rfl, _⟩
  · obtain ⟨_, rfl⟩ := pure_eq_ok.mp parsed
    exact found
  · cases parsed

theorem group_eq_ok {delimiter : Delimiter} {contents : Parser α} {value : α}
    (parsed : group delimiter contents state = .ok (value, next)) :
    ∃ inner opening closing left, state.rest = .group delimiter inner opening closing :: next.rest ∧
      contents ⟨inner, [], state.remaining⟩ = .ok (value, left) := by
  obtain ⟨_, _, here, parsed⟩ := bind_eq_ok.mp parsed
  cases here
  cases held : state.rest with
  | nil => simp only [held] at parsed; exact absurd parsed failWanting_ne_ok
  | cons token rest =>
      cases token with
      | group found inner opening closing =>
          simp only [held] at parsed
          rcases ite_eq_ok.mp parsed with ⟨rfl, parsed⟩ | ⟨_, parsed⟩
          · obtain ⟨_, _, entered, parsed⟩ := bind_eq_ok.mp parsed
            obtain ⟨result, left, completed, parsed⟩ := bind_eq_ok.mp parsed
            obtain ⟨_, _, looked, parsed⟩ := bind_eq_ok.mp parsed
            obtain ⟨_, _, closed, parsed⟩ := bind_eq_ok.mp parsed
            cases entered
            cases looked
            cases closed
            cases parsed
            exact ⟨inner, opening, closing, left, rfl, completed⟩
          · exact absurd parsed failWanting_ne_ok
      | _ => simp only [held] at parsed; exact absurd parsed failWanting_ne_ok

/-- All tokens of a text are taken, in every group. -/
theorem runAll_eq_ok {parser : Parser α} {tokens : Tokens} {value : α} :
    runAll parser tokens = .ok value ↔
      ∃ written, parser ⟨tokens, [], none⟩ = .ok (value, ⟨[], written, none⟩) := by
  rw [runAll, StateT.run]
  cases parser ⟨tokens, [], none⟩ with
  | error fault => simp
  | ok result =>
      obtain ⟨found, rest, written, remaining⟩ := result
      cases remaining <;> cases rest <;> simp

end StorageMapping.Source.Parser
