import StorageMapping.Proofs.Source.TakingStatements
import StorageMapping.Proofs.Unit.Paths

namespace StorageMapping

/-! # Calls in generated code

Expressions in generated code are names, fields, literals and calls. Each of them is read by every
grammar that nests as deep as the expression does. -/

open Source Source.Parser Source.Grammar Fragment

namespace Source.Grammar

/-- The tokens are an operand, wherever no access follows. -/
def TakesOperand (g : Grammar) (allowStruct : Bool) (tokens : Tokens) : Prop :=
  ∀ rest, EndsOperand allowStruct rest →
    Takes (g.operand allowStruct) (tokens ++ rest) rest (· = .plain)

/-- The tokens are an expression. -/
structure TakesExpression (g : Grammar) (tokens : Tokens) : Prop where
  present : tokens ≠ []
  taken : ∀ rest, EndsExpression true rest →
    Passes (g.expression true) (tokens ++ rest) rest

variable {g : Grammar} {tokens inner middle : Tokens} {depth : Nat} {allowStruct : Bool}
    {type : TypeExpr} {name : Identifier}

/-! ## Arguments -/

/-- Expressions with commas between them stand up to the end. -/
inductive Listing (g : Grammar) : Tokens → Prop
  | none : Listing g []
  | last {tokens : Tokens} (one : g.TakesExpression tokens) : Listing g tokens
  | more {tokens others : Tokens} (one : g.TakesExpression tokens) (behind : Listing g others) :
      Listing g (tokens ++ (mark "," ++ others))

theorem Listing.parts (listing : Listing g tokens) : ∃ trailing claims,
    Parts "," List.isEmpty (g.expression true) trailing claims tokens [] := by
  induction listing with
  | none => exact ⟨_, _, .none fun found alike => by simp [alike.looks]⟩
  | @last tokens one =>
      have taken : Passes (g.expression true) tokens [] := by simpa using one.taken [] .nil
      refine ⟨_, _, .last (fun found alike => ?_) taken fun found alike => by simp [alike.looks]⟩
      simp [alike.looks, one.present]
  | @more tokens others one _ ih =>
      obtain ⟨trailing, claims, parts⟩ := ih
      refine ⟨_, _, .more (fun found alike => ?_) (one.taken _ .comma) (fun found alike => ?_) ?_
        parts⟩
      · simp [alike.looks, one.present]
      · simp only [alike.looks]
        rfl
      · have comma : (mark ",").length = 1 := rfl
        simp only [List.length_append, comma]
        omega

theorem Listing.takesArguments (listing : Listing g inner) : g.TakesArguments inner := by
  obtain ⟨trailing, claims, parts⟩ := listing.parts
  exact .bind (.commaSeparated parts) fun _ _ => .result trivial

/-! ## Accesses behind an operand -/

/-- Calls, method calls, question marks and perhaps a field at the end. -/
inductive Chain (g : Grammar) : Tokens → Prop
  | none : Chain g []
  | call {inner more : Tokens} (listing : Listing g inner) (behind : Chain g more) :
      Chain g (parens inner ++ more)
  | method {called : String} {inner more : Tokens} (isName : IsPathWord called)
      (listing : Listing g inner) (behind : Chain g more) :
      Chain g (Fragment.method called inner ++ more)
  | question {more : Tokens} (behind : Chain g more) : Chain g (mark "?" ++ more)
  | field {selected : Identifier} (isName : selected.isName = true) :
      Chain g (mark "." ++ Fragment.name selected)

theorem method_append (called : String) (inner rest : Tokens) :
    Fragment.method called inner ++ rest = Token.ofOperator "." ++
      Token.ofWord called :: Token.enclosed .parenthesis inner :: rest := by
  simp [Fragment.method, Fragment.mark, Fragment.word, Fragment.parens]

theorem Chain.accesses {rest : Tokens} (chain : Chain g tokens)
    (ends : EndsOperand allowStruct rest) : g.Accesses (tokens ++ rest) rest := by
  induction chain with
  | none => exact .none ends
  | call listing _ ih => exact .call listing.takesArguments ih
  | method isName listing _ ih =>
      rw [List.append_assoc, method_append]
      exact .method isName listing.takesArguments ih
  | question _ ih =>
      rw [List.append_assoc]
      exact .question ih
  | field isName =>
      rw [List.append_assoc]
      exact .field isName ends

/-- Nothing that follows a path could belong to it. -/
theorem Chain.endsAtom {rest : Tokens} (chain : Chain g tokens)
    (ends : EndsOperand allowStruct rest) : EndsAtom allowStruct (tokens ++ rest) := by
  have marked : ∀ {mark : String} {more : Tokens}, mark = "." ∨ mark = "?" →
      EndsAtom allowStruct (Token.ofOperator mark ++ more) := by
    rintro mark more (rfl | rfl)
    · exact ⟨.mark (by decide), fun _ => rfl⟩
    · exact ⟨.mark (by decide), fun _ => rfl⟩
  cases chain with
  | none => exact ends.atom
  | call => exact ⟨nofun, fun _ => rfl⟩
  | method =>
      rw [List.append_assoc, method_append]
      exact marked (.inl rfl)
  | question =>
      rw [List.append_assoc]
      exact marked (.inr rfl)
  | field =>
      rw [List.append_assoc]
      exact marked (.inl rfl)

/-! ## Operands and expressions by their depth -/

/-- A path of one word. -/
theorem tokens_word (called : String) :
    (Naming.pathType [.plain called]).tokens = Fragment.word called :=
  tokens_pathType [.plain called]

theorem isPlain_word {called : String} (isName : IsPathWord called) :
    IsPlain (Naming.pathType [.plain called]) :=
  isPlain_pathType (by simp) (by simpa using .inl isName)

/-- An operand of every grammar that nests so deep. -/
structure Operand (depth : Nat) (tokens : Tokens) : Prop where
  present : tokens ≠ []
  taken : ∀ {g : Grammar}, g.Deep depth → ∀ allowStruct, g.TakesOperand allowStruct tokens

/-- An expression of every grammar that nests so deep. -/
structure Expression (depth : Nat) (tokens : Tokens) : Prop where
  taken : ∀ {g : Grammar}, g.Deep depth → g.TakesExpression tokens

/-- Arguments of every grammar that nests so deep. -/
structure Arguments (depth : Nat) (tokens : Tokens) : Prop where
  listing : ∀ {g : Grammar}, g.Deep depth → g.Listing tokens

/-- What is done to a value, in every grammar that nests so deep. -/
structure Accessed (depth : Nat) (tokens : Tokens) : Prop where
  chain : ∀ {g : Grammar}, g.Deep depth → g.Chain tokens

theorem Operand.expression (operand : Operand (depth + 1) tokens) :
    Expression (depth + 2) tokens where
  taken deep := by
    refine ⟨operand.present, fun rest ends => ?_⟩
    cases deep with
    | deepen deep =>
        have first := operand.taken deep true rest ends.toEndsOperand
        cases deep with
        | deepen deep => exact (takes_expression first (takes_operators ends)).passes

theorem IsPath.present (isPath : IsPath type) : type.tokens ≠ [] := by
  intro empty
  have starts := (isPath.begins []).start
  rw [empty] at starts
  cases starts

/-- A path with what is done to it: a call, a field or nothing. -/
theorem Operand.path (plain : IsPlain type) (accessed : Accessed depth inner) :
    Operand (depth + 1) (type.tokens ++ inner) where
  present := by simp [plain.isPath.present]
  taken deep allowStruct rest ends := by
    cases deep with
    | deepen deep =>
        rw [List.append_assoc]
        exact takes_plainOperand plain ((accessed.chain deep).endsAtom ends)
          ((accessed.chain deep).accesses ends)

theorem Operand.word {called : String} (isName : IsPathWord called)
    (accessed : Accessed depth inner) : Operand (depth + 1) (Fragment.word called ++ inner) :=
  tokens_word called ▸ .path (isPlain_word isName) accessed

theorem Operand.macro (plain : IsPlain type) :
    Operand 1 (type.tokens ++ (mark "!" ++ brackets inner)) where
  present := by simp [plain.isPath.present]
  taken deep allowStruct rest ends := by
    cases deep with
    | deepen =>
        have shape : type.tokens ++ (mark "!" ++ brackets inner) ++ rest =
            type.tokens ++ (Token.ofOperator "!" ++ Token.enclosed .bracket inner :: rest) := by
          simp [Fragment.mark, Fragment.brackets]
        rw [shape]
        exact takes_operand (plain.isPath.begins _) (takes_macroCall plain) (.none ends)

theorem Operand.literal {text : String} {position : Position} :
    Operand 1 [.literal text position] where
  present := nofun
  taken deep allowStruct rest ends := by
    cases deep with
    | deepen => exact takes_literalOperand (.none ends)

/-- A reference to a field of an object. -/
theorem Operand.reference (isName : name.isName = true) :
    Operand 2 (mark "&" ++ Fragment.field "object" name) where
  present := nofun
  taken deep allowStruct rest ends := by
    cases deep with
    | deepen deep =>
        have object : Operand 1 (Fragment.word "object" ++ (mark "." ++ Fragment.name name)) :=
          .word rfl ⟨fun _ => .field isName⟩
        exact takes_reference (object.taken deep allowStruct rest ends)
          (.ofSegment (.inl rfl) _) rfl

theorem Operand.rooted {names : List String} (present : names ≠ [])
    (named : ∀ name ∈ names, IsPathWord name) (accessed : Accessed depth inner) :
    Operand (depth + 1) (below names ++ inner) :=
  TypeExpr.tokens_rooted present ▸ .path (isPlain_rooted present named) accessed

theorem Operand.mono {other : Nat} (operand : Operand depth tokens) (fewer : depth ≤ other) :
    Operand other tokens :=
  ⟨operand.present, fun deep => operand.taken (deep.mono fewer)⟩

theorem Expression.mono {other : Nat} (expression : Expression depth tokens)
    (fewer : depth ≤ other) : Expression other tokens :=
  ⟨fun deep => expression.taken (deep.mono fewer)⟩

theorem Expression.text (value : String) : Expression (depth + 2) (Fragment.text value) :=
  Operand.literal.expression.mono (Nat.le_add_left 2 depth)

theorem Arguments.none : Arguments depth [] := ⟨fun _ => .none⟩

theorem Arguments.one (expression : Expression depth tokens) : Arguments depth tokens :=
  ⟨fun deep => .last (expression.taken deep)⟩

theorem Arguments.more (expression : Expression depth tokens) (others : Arguments depth inner) :
    Arguments depth (tokens ++ (mark "," ++ inner)) :=
  ⟨fun deep => .more (expression.taken deep) (others.listing deep)⟩

theorem Accessed.none : Accessed depth [] := ⟨fun _ => .none⟩

theorem Accessed.call (arguments : Arguments depth inner) (behind : Accessed depth tokens) :
    Accessed depth (parens inner ++ tokens) :=
  ⟨fun deep => .call (arguments.listing deep) (behind.chain deep)⟩

theorem Accessed.method {called : String} (isName : IsPathWord called)
    (arguments : Arguments depth inner) (behind : Accessed depth tokens) :
    Accessed depth (Fragment.method called inner ++ tokens) :=
  ⟨fun deep => .method isName (arguments.listing deep) (behind.chain deep)⟩

theorem Accessed.question (behind : Accessed depth tokens) : Accessed depth (mark "?" ++ tokens) :=
  ⟨fun deep => .question (behind.chain deep)⟩

/-- A path behind a type that is taken as a trait. -/
theorem Operand.qualified {names : List String} {selected : String} (plain : IsPlain type)
    (present : names ≠ []) (named : ∀ name ∈ names, IsPathWord name)
    (isName : IsPathWord selected) (accessed : Accessed (depth + 1) inner) :
    Operand (depth + 2) (Template.angled (type.tokens ++ Fragment.word "as" ++ below names) ++
      below [selected] ++ inner) where
  present := nofun
  taken deep allowStruct rest ends := by
    cases deep with
    | @deepen _ g deep =>
        have atom : EndsAtom allowStruct (inner ++ rest) := (accessed.chain deep).endsAtom ends
        have trait : IsPlain (.path true (names.map TypeExpr.bareSegment)) :=
          isPlain_rooted present named
        have shape : Template.angled (type.tokens ++ Fragment.word "as" ++ below names) ++
              below [selected] ++ inner ++ rest =
            Token.ofOperator "<" ++ (type.tokens ++ ([Token.ofWord "as"] ++
              ((TypeExpr.path true (names.map TypeExpr.bareSegment)).tokens ++
                (Token.ofOperator ">" ++ (Token.ofOperator "::" ++
                  ([Token.ofIdentifier (.plain selected)] ++ (inner ++ rest))))))) := by
          have written : (TypeExpr.path true (names.map TypeExpr.bareSegment)).tokens =
              below names := TypeExpr.tokens_rooted present
          rw [written]
          simp [Template.angled, below, Fragment.mark, Fragment.word, Token.ofWord,
            Token.ofIdentifier]
        have behind : EndsPath true (inner ++ rest) :=
          ⟨atom.clear.atOperator (by decide), fun typed => absurd typed (by decide)⟩
        rw [shape]
        refine takes_operand (.ofMark (.inr rfl) _) ?_ ((accessed.chain deep).accesses ends)
        cases deep with
        | deepen =>
            exact takes_pathExpression (takes_qualified plain.takesType trait.1 trait.takesSegment
              (.inl isName) behind) atom

/-- A copy of what an expression refers to. -/
theorem Operand.clone (reference : Expression depth tokens) :
    Operand (depth + 1) (Fragment.clone tokens) :=
  .rooted (by simp) (by decide) (.call (.one reference) .none)

end Source.Grammar

end StorageMapping
