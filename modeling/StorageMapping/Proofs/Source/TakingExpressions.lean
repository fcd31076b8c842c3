import StorageMapping.Proofs.Source.TakingTypes

namespace StorageMapping.Source

open StorageMapping.Source.Parser

namespace Grammar

variable {g : Grammar} {tokens middle rest inner : Tokens} {allowStruct : Bool}
    {name : Identifier} {position : Position} {form : ExpressionForm}

/-! # Expressions are taken

An operand is an atom with the accesses behind it. It is taken as far as it goes, provided that what
follows is no access, and an expression, provided that no operator follows either. -/

/-- What may follow an atom: nothing that a path could go on with. -/
structure EndsAtom (allowStruct : Bool) (rest : Tokens) : Prop where
  clear : Tokens.Clear [':', '!'] rest
  brace : allowStruct = true → rest.atGroup .brace = false

/-- What may follow an operand. -/
structure EndsOperand (allowStruct : Bool) (rest : Tokens) : Prop where
  clear : Tokens.Clear [':', '!', '.', '?'] rest
  parenthesis : rest.atGroup .parenthesis = false
  bracket : rest.atGroup .bracket = false
  brace : allowStruct = true → rest.atGroup .brace = false

theorem EndsOperand.atom (ends : EndsOperand allowStruct rest) : EndsAtom allowStruct rest where
  clear := ends.clear.fewer (by decide)
  brace := ends.brace

/-! ## Accesses -/

/-- One access, where there is one. -/
def access (g : Grammar) (form : ExpressionForm) : Parser (Option Unit) := do
  let tokens ← ahead
  if tokens.atGroup .parenthesis then
    group .parenthesis g.expressions
    return some ()
  else if atPoint tokens && form ≠ .range then
    g.pointAccess
    return some ()
  else if tokens.atGroup .bracket then
    group .bracket do
      let _ ← g.expression true
    return some ()
  else if tokens.atOperator "?" then
    operator "?"
    return some ()
  else return none

/-- Accesses stand in front, up to the rest. -/
def Accesses (g : Grammar) (tokens rest : Tokens) : Prop :=
  ∃ claims, Rounds (g.access .plain) claims tokens rest

theorem Accesses.takes (accesses : g.Accesses tokens rest) :
    Takes (g.accesses .plain) tokens rest (· = .plain) := by
  obtain ⟨claims, rounds⟩ := accesses
  have taken := Takes.many rounds
  refine .bind taken fun found _ => .result ?_
  cases found <;> rfl

theorem EndsOperand.access (ends : EndsOperand allowStruct rest) :
    Takes (g.access form) rest rest (· = none) := by
  refine .ahead fun found alike => ?_
  have point : Tokens.atOperator "." rest = false := ends.clear.atOperator (by decide)
  have question : Tokens.atOperator "?" rest = false := ends.clear.atOperator (by decide)
  simp only [alike.looks, atPoint, ends.parenthesis, ends.bracket, point, question]
  exact .result rfl

theorem EndsOperand.accesses (ends : EndsOperand allowStruct rest) :
    Takes (g.accesses form) rest rest (· = form) := by
  have stopped : Rounds (g.access form) [] rest rest := .stop ends.access
  have taken := Takes.many stopped
  refine .bind taken fun found related => .result ?_
  cases related
  rfl

theorem Accesses.none (ends : EndsOperand allowStruct rest) : g.Accesses rest rest :=
  ⟨[], .stop ends.access⟩

/-- One access, and those behind it. -/
theorem Accesses.more (one : Takes (g.access .plain) tokens middle (· = some ()))
    (nearer : middle.length < tokens.length) (others : g.Accesses middle rest) :
    g.Accesses tokens rest := by
  obtain ⟨claims, rounds⟩ := others
  exact ⟨(fun _ => True) :: claims, .more (one.imp fun _ same => ⟨(), same, trivial⟩) nearer rounds⟩

/-- Arguments of a call. -/
def TakesArguments (g : Grammar) (inner : Tokens) : Prop := Passes g.expressions inner []

theorem Accesses.call (arguments : g.TakesArguments inner) (others : g.Accesses tokens rest) :
    g.Accesses (Token.enclosed .parenthesis inner :: tokens) rest := by
  refine .more (.ahead fun found alike => ?_) (Nat.lt_succ_self _) others
  simp only [alike.looks]
  exact .bind (.group arguments) fun _ _ => .result rfl

theorem Accesses.question (others : g.Accesses tokens rest) :
    g.Accesses (Token.ofOperator "?" ++ tokens) rest := by
  refine .more (.ahead fun found alike => ?_) (Nat.lt_succ_self _) others
  simp only [alike.looks, atPoint]
  exact .seq .operator fun _ => .result rfl

theorem takes_memberName (isName : name.isName = true) :
    Takes memberName (Token.word name position :: rest) rest (· = true) := by
  refine .ahead fun found alike => ?_
  obtain ⟨place, tail, rfl, _⟩ := alike.word
  exact .first isName (.seq .take fun _ => .result rfl)

/-- The call of a member behind its name, where it is called. -/
def memberCall (g : Grammar) : Parser Unit := do
  let tokens ← ahead
  if tokens.atOperator "::" then
    let arguments ← quiet g.argumentsForm
    write arguments.tokens
    group .parenthesis g.expressions
  else if tokens.atGroup .parenthesis then group .parenthesis g.expressions

/-- A member behind its point, followed by what need not belong to it. -/
theorem Accesses.member (isName : name.isName = true) (behind : Passes g.memberCall middle tokens)
    (nearer : tokens.length ≤ middle.length) (others : g.Accesses tokens rest) :
    g.Accesses (Token.ofOperator "." ++ Token.ofIdentifier name :: middle) rest := by
  have waits : name.isWord "await" = false := Identifier.isWord_of_isName isName (by decide)
  have named : Passes g.namedAccess (Token.ofIdentifier name :: middle) tokens := by
    refine .bind (.declineWord waits) fun accepted absent => ?_
    subst absent
    exact .bind (takes_memberName isName) fun _ _ => behind
  have pointed : Passes g.pointAccess (Token.ofOperator "." ++ Token.ofIdentifier name :: middle)
      tokens := by
    refine .seq .operator fun _ => .ahead fun found alike => ?_
    obtain ⟨place, tail, rfl, _⟩ := alike.word
    exact named
  refine .more (.ahead fun found alike => ?_) ?_ others
  · have point : atPoint found = true := by
      simp only [atPoint, alike.looks]
      rfl
    simp only [alike.looks, point]
    exact .seq pointed fun _ => .result rfl
  · have width : (Token.ofOperator ".").length = 1 := rfl
    simp only [List.length_append, List.length_cons, width]
    omega

theorem Accesses.method {called : String} (isName : (Identifier.plain called).isName = true)
    (arguments : g.TakesArguments inner) (others : g.Accesses tokens rest) :
    g.Accesses (Token.ofOperator "." ++ Token.ofWord called ::
      Token.enclosed .parenthesis inner :: tokens) rest := by
  refine .member isName (.ahead fun found alike => ?_) (Nat.le_succ _) others
  simp only [alike.looks]
  exact .group arguments

theorem Accesses.field (isName : name.isName = true) (ends : EndsOperand allowStruct rest) :
    g.Accesses (Token.ofOperator "." ++ Token.ofIdentifier name :: rest) rest := by
  refine .member isName (.ahead fun found alike => ?_) (Nat.le_refl _) (.none ends)
  have colons : Tokens.atOperator "::" rest = false := ends.clear.atOperator (by decide)
  simp only [alike.looks, colons, ends.parenthesis]
  exact .result trivial

/-! ## Operands -/

theorem BeginsPath.blockExpression? (begins : BeginsPath tokens) :
    g.blockExpression? tokens = none := by
  simp [Grammar.blockExpression?, begins.word "if" (by decide), begins.word "while" (by decide),
    begins.word "for" (by decide), begins.word "loop" (by decide), begins.word "match" (by decide),
    begins.oneOf ["try", "unsafe", "const"] (by decide), begins.group, begins.lifetime]

theorem BeginsPath.atClosure (begins : BeginsPath tokens) : atClosure tokens = false := by
  have bar : tokens.atOperator "|" = false := begins.operator (by decide)
  simp [Grammar.atClosure, atClosureBinder, begins.word "for" (by decide),
    begins.word "const" (by decide), begins.word "async" (by decide),
    begins.oneOf ["move", "static"] (by decide), bar]

theorem BeginsPath.outerAttributes (begins : BeginsPath tokens) :
    Passes g.outerAttributes tokens tokens :=
  (Takes.manyWhile (.stop fun _ alike => (begins.alike alike).operator (by decide))).passes

/-- An operand without signs in front is an atom with its accesses. -/
theorem takes_unsigned {claim : ExpressionForm → Prop}
    (unsigned : Tokens.Clear ['#', '&', '*', '!', '-'] tokens)
    (atom : Takes (g.atom allowStruct) tokens middle (· = form))
    (accesses : Takes (g.accesses form) middle rest claim) :
    Takes (g.deepen.operand allowStruct) tokens rest claim := by
  have unmarked : Passes g.outerAttributes tokens tokens :=
    (Takes.manyWhile (.stop fun _ alike => (unsigned.alike alike).atOperator (by decide))).passes
  refine .seq unmarked fun _ => .ahead fun found alike => ?_
  replace unsigned := unsigned.alike alike
  have ampersand : found.atOperator "&" = false := unsigned.atOperator (by decide)
  have signs : ["*", "!", "-"].find? found.atOperator = none := by
    have star : found.atOperator "*" = false := unsigned.atOperator (by decide)
    have bang : found.atOperator "!" = false := unsigned.atOperator (by decide)
    have minus : found.atOperator "-" = false := unsigned.atOperator (by decide)
    simp [star, bang, minus]
  refine .second (by simp [ampersand]) ?_
  rw [signs]
  exact .bind atom fun _ same => by
    subst same
    exact accesses

theorem takes_pathAtom (begins : BeginsPath tokens)
    (path : Takes (g.pathExpression allowStruct) tokens middle (· = .plain)) :
    Takes (g.atom allowStruct) tokens middle (· = .plain) := by
  refine .ahead fun found alike => ?_
  replace begins := begins.alike alike
  refine .second (by simp [begins.literal]) (.second ?_ ?_)
  · simp [begins.word "async" (by decide)]
  simp only [begins.blockExpression?]
  exact .second (by simp [begins.atClosure]) (.first (by simp [begins.start]) path)

/-- An operand that begins with a path. -/
theorem takes_operand (begins : BeginsPath tokens)
    (path : Takes (g.pathExpression allowStruct) tokens middle (· = .plain))
    (accesses : g.Accesses middle rest) :
    Takes (g.deepen.operand allowStruct) tokens rest (· = .plain) :=
  takes_unsigned (begins.clear.fewer (by decide)) (takes_pathAtom begins path) accesses.takes

theorem takes_literalOperand {text : String} (accesses : g.Accesses middle rest) :
    Takes (g.deepen.operand allowStruct) (.literal text position :: middle) rest (· = .plain) := by
  refine takes_unsigned nofun (.ahead fun found alike => ?_) accesses.takes
  simp only [alike.looks]
  exact .bind .literal fun _ _ => .result rfl

theorem IsPlain.takesPath {type : TypeExpr} (plain : IsPlain type) (ends : EndsPath true rest) :
    Takes g.expressionPath (type.tokens ++ rest) rest (·.unplaced = type.unplaced) := by
  cases type with
  | path rooted segments =>
      refine takes_printed (.ahead fun found alike => .second ?_ ?_)
      · simp [alike.looks, tokens_unangled plain.1]
      · exact takes_pathForm plain.1 ends plain.takesSegment
  | _ => exact plain.elim

theorem takes_pathExpression {found : TypeExpr → Prop}
    (path : Takes g.expressionPath tokens rest found) (ends : EndsAtom allowStruct rest) :
    Takes (g.pathExpression allowStruct) tokens rest (· = .plain) := by
  have bang : Tokens.atOperator "!" rest = false := ends.clear.atOperator (by decide)
  refine .bind path fun found _ => .ahead fun tokens alike => .second ?_ (.second ?_ (.result rfl))
  · simp [alike.looks, bang]
  · simpa [alike.looks] using ends.brace

/-- What is read as a plain path has no arguments. -/
theorem IsPlain.bare {type found : TypeExpr} (plain : IsPlain type)
    (same : found.unplaced = type.unplaced) : ∃ rooted segments,
      found = .path rooted segments ∧ segments.all (·.arguments.isNone) = true := by
  cases type with
  | path rooted segments =>
      cases found with
      | path foundRooted others =>
          obtain ⟨rfl, listed⟩ := TypeExpr.path.inj same
          refine ⟨foundRooted, others, rfl, ?_⟩
          have bare : ∀ segments : List PathSegment, segments.all (·.arguments.isNone) =
              (unplacedSegments segments).all (·.arguments.isNone) := by
            intro segments
            rw [unplacedSegments_eq_map, List.all_map]
            congr 1
            funext segment
            simp [Column.arguments_unplaced]
          rw [bare, listed, ← bare, List.all_eq_true]
          intro segment member
          obtain ⟨name, position, rfl, _⟩ := plain.2 segment member
          rfl
      | _ => cases same
  | _ => exact plain.elim

/-- A macro call is taken with its brackets, whatever they hold. -/
theorem takes_macroCall {type : TypeExpr} (plain : IsPlain type) :
    Takes (g.pathExpression allowStruct)
      (type.tokens ++ (Token.ofOperator "!" ++ Token.enclosed .bracket inner :: rest)) rest
      (· = .plain) := by
  refine .bind (plain.takesPath ⟨rfl, nofun⟩) fun found same => .ahead fun tokens alike => ?_
  obtain ⟨rooted, segments, rfl, bare⟩ := plain.bare same
  refine .first ?_ (.bind (.seq .operator fun _ => .rawGroup) fun delimiter bracketed => ?_)
  · simp only [bare, alike.looks]
    rfl
  · subst bracketed
    exact .result rfl

theorem takes_plainOperand {type : TypeExpr} (plain : IsPlain type)
    (ends : EndsAtom allowStruct middle) (accesses : g.Accesses middle rest) :
    Takes (g.deepen.operand allowStruct) (type.tokens ++ middle) rest (· = .plain) :=
  takes_operand (plain.isPath.begins _)
    (takes_pathExpression (plain.takesPath ⟨ends.clear.atOperator (by decide), nofun⟩) ends)
    accesses

theorem takes_reference (taken : Takes (g.operand allowStruct) tokens rest (· = form))
    (begins : BeginsPath tokens) (safe : (tokens.skip 1).atAnyWord = false) :
    Takes (g.deepen.operand allowStruct) (Token.ofOperator "&" ++ tokens) rest (· = .plain) := by
  have ahead : Passes g.outerAttributes (Token.ofOperator "&" ++ tokens)
      (Token.ofOperator "&" ++ tokens) :=
    (Takes.manyWhile (.stop fun found alike => (alike.looks.2.2.2.2.2.2.1 _).trans rfl)).passes
  refine .seq ahead fun _ => .ahead fun found alike => .first ?_ ?_
  · exact (alike.looks.2.2.2.2.2.2.1 _).trans rfl
  refine .seq .operator fun _ => .ahead fun found alike => .second ?_ ?_
  · simp [(alike.skip 1).looks, Tokens.looks_wordless safe]
  · refine .bind (.declineWord (begins.word "mut" (by decide))) fun _ _ => ?_
    exact .bind taken fun _ _ => .result rfl

/-! ## Operators -/

/-- The first characters of operators between operands. -/
def operatorMarks : List Char := ['+', '-', '*', '/', '%', '^', '&', '|', '<', '>', '=', '!', '.']

/-- What may follow an expression. -/
structure EndsExpression (allowStruct : Bool) (rest : Tokens) : Prop
    extends EndsOperand allowStruct rest where
  operators : Tokens.Clear operatorMarks rest
  cast : rest.atWord "as" = false

theorem EndsExpression.nil : EndsExpression allowStruct [] :=
  ⟨⟨nofun, rfl, rfl, fun _ => rfl⟩, nofun, rfl⟩

theorem EndsExpression.comma : EndsExpression allowStruct (Token.ofOperator "," ++ rest) :=
  ⟨⟨.mark (by decide), rfl, rfl, fun _ => rfl⟩, .mark (by decide), rfl⟩

theorem EndsExpression.semicolon : EndsExpression allowStruct (Token.ofOperator ";" ++ rest) :=
  ⟨⟨.mark (by decide), rfl, rfl, fun _ => rfl⟩, .mark (by decide), rfl⟩

theorem EndsExpression.braces : EndsExpression false (Token.enclosed .brace inner :: rest) :=
  ⟨⟨nofun, rfl, rfl, nofun⟩, nofun, rfl⟩

theorem EndsExpression.binaryOperator? (ends : EndsExpression allowStruct rest) :
    binaryOperator? rest = none := by
  refine List.find?_eq_none.mpr fun operator listed => ?_
  have marked : ∀ operator ∈ binaryOperators,
      operator.1.toList.head?.any operatorMarks.contains = true := by decide
  simp [ends.operators.atOperator (marked operator listed)]

theorem EndsExpression.nextPrecedence (ends : EndsExpression allowStruct rest) :
    nextPrecedence rest = Precedence.lowest := by
  have assignment : Tokens.atOperator "=" rest = false := ends.operators.atOperator (by decide)
  have range : Tokens.atOperator ".." rest = false := ends.operators.atOperator (by decide)
  simp [Grammar.nextPrecedence, ends.binaryOperator?, atAssignment, assignment, range, ends.cast]

theorem binaryOperator?_alike {found : Tokens} (alike : Tokens.Alike found tokens) :
    binaryOperator? found = binaryOperator? tokens := by
  simp only [Grammar.binaryOperator?, alike.looks]

theorem nextPrecedence_alike {found : Tokens} (alike : Tokens.Alike found tokens) :
    nextPrecedence found = nextPrecedence tokens := by
  simp only [Grammar.nextPrecedence, binaryOperator?_alike alike, atAssignment, alike.looks]
  rfl

theorem takes_operatorsWithin {base : Nat} (ends : EndsExpression allowStruct rest) :
    ∀ fuel, Takes (g.operatorsWithin allowStruct base fuel form) rest rest (· = form)
  | 0 => .result rfl
  | fuel + 1 => by
      have assignment : Tokens.atOperator "=" rest = false := ends.operators.atOperator (by decide)
      have range : Tokens.atOperator ".." rest = false := ends.operators.atOperator (by decide)
      refine .ahead fun found alike => ?_
      split
      · exact .result rfl
      simp only [binaryOperator?_alike alike, ends.binaryOperator?, alike.looks, atAssignment,
        assignment, range, ends.cast]
      exact .second (by simp) (.second (by simp) (.second (by simp) (.result rfl)))

theorem takes_operators {base : Nat} (ends : EndsExpression allowStruct rest) :
    Takes (g.deepen.operators allowStruct base form) rest rest (· = form) :=
  .ahead fun found _ => takes_operatorsWithin ends (found.length + 1)

theorem passes_rightOperandWithin {precedence : Nat} (ends : EndsExpression allowStruct rest) :
    ∀ fuel, Passes (g.rightOperandWithin allowStruct precedence fuel form) rest rest
  | 0 => .result trivial
  | fuel + 1 => by
      refine .ahead fun found alike => .second ?_ (.result trivial)
      rw [nextPrecedence_alike alike, ends.nextPrecedence]
      simp [Precedence.lowest, Precedence.assignment]
      omega

/-- An operand on the right of an operator, where nothing follows. -/
theorem passes_rightOperand {precedence : Nat} {claim : ExpressionForm → Prop}
    (taken : Takes (g.operand allowStruct) tokens rest claim)
    (ends : EndsExpression allowStruct rest) :
    Passes (g.rightOperand allowStruct precedence) tokens rest :=
  .bind taken fun _ _ => .ahead fun found _ => passes_rightOperandWithin ends (found.length + 1)

/-- An operand on the right of an assignment may be compared with another one. -/
theorem passes_comparedOperand {compared : Tokens}
    (taken : Takes (g.operand allowStruct) tokens (Token.ofOperator "==" ++ compared) (· = form))
    (tighter : Takes (g.operators allowStruct Precedence.comparison form)
      (Token.ofOperator "==" ++ compared) rest fun _ => True)
    (nearer : rest.length ≤ compared.length) (ends : EndsExpression allowStruct rest) :
    Passes (g.rightOperand allowStruct Precedence.assignment) tokens rest := by
  refine .bind taken fun found same => .ahead fun tokens _ => .ahead fun before alike => ?_
  subst same
  rw [(nextPrecedence_alike alike).trans (b := Precedence.comparison) rfl]
  refine .first rfl (.bind tighter fun _ _ => .ahead fun behind left => .first ?_ ?_)
  · have width : (Token.ofOperator "==").length = 2 := rfl
    rw [alike.length, left.length, List.length_append, width]
    omega
  · exact passes_rightOperandWithin ends tokens.length

theorem takes_comparison {base : Nat} (below : base ≤ Precedence.comparison)
    (right : Takes (g.operand allowStruct) tokens rest (· = form))
    (ends : EndsExpression allowStruct rest) :
    Takes (g.deepen.operators allowStruct base .plain) (Token.ofOperator "==" ++ tokens) rest
      (· = .comparison) := by
  have found? : binaryOperator? (Token.ofOperator "==" ++ tokens) =
      some ("==", Precedence.comparison) := rfl
  refine .ahead fun found _ => .ahead fun found alike => .second nofun ?_
  rw [binaryOperator?_alike alike, found?]
  refine .second (by omega) (.second nofun (.seq .operator fun _ => ?_))
  exact .bind (passes_rightOperand right ends) fun _ _ => takes_operatorsWithin ends _

theorem takes_assignment
    (right : Passes (g.rightOperand allowStruct Precedence.assignment) tokens rest)
    (ends : EndsExpression allowStruct rest) :
    Takes (g.deepen.operators allowStruct Precedence.lowest .plain)
      (Token.ofOperator "=" ++ tokens) rest (· = .plain) := by
  have found? : binaryOperator? (Token.ofOperator "=" ++ tokens) = none := rfl
  refine .ahead fun found _ => .ahead fun found alike => .second nofun ?_
  rw [binaryOperator?_alike alike, found?]
  refine .first ?_ (.seq .operator fun _ => .bind right fun _ _ => takes_operatorsWithin ends _)
  simp only [atAssignment, alike.looks]
  rfl

/-! ## Expressions -/

/-- An expression is an operand with the operators behind it. -/
theorem takes_expression {claim : ExpressionForm → Prop}
    (operand : Takes (g.operand allowStruct) tokens middle (· = form))
    (operators : Takes (g.operators allowStruct Precedence.lowest form) middle rest claim) :
    Takes (g.deepen.expression allowStruct) tokens rest claim :=
  .bind operand fun _ same => by
    subst same
    exact operators

/-! ## Blocks -/

theorem passes_block (unmarked : Tokens.Clear ['#'] inner) (taken : Passes g.statements inner []) :
    Passes g.block (Token.enclosed .brace inner :: rest) rest := by
  refine .group (.bind (.manyWhile (.stop fun found alike => ?_)) fun _ _ =>
    .bind taken fun _ _ => .result trivial)
  have sign : found.atOperator "#" = false := (unmarked.alike alike).atOperator (by decide)
  simp [sign]

/-- A block stands in front, in braces. -/
def TakesBlock (g : Grammar) (inner : Tokens) : Prop :=
  ∀ rest, Passes g.block (Token.enclosed .brace inner :: rest) rest

theorem blockExpression?_if {found : Tokens}
    (alike : Tokens.Alike found (Token.ofWord "if" :: tokens)) :
    g.blockExpression? found = some g.ifExpression := by
  simp only [Grammar.blockExpression?, alike.looks]
  rfl

theorem blockExpression?_let {found : Tokens}
    (alike : Tokens.Alike found (Token.ofWord "let" :: tokens)) :
    g.blockExpression? found = none := by
  simp only [Grammar.blockExpression?, alike.looks]
  rfl

theorem atClosure_let {found : Tokens}
    (alike : Tokens.Alike found (Token.ofWord "let" :: tokens)) : atClosure found = false := by
  simp only [atClosure, atClosureBinder, alike.looks]
  rfl

theorem blockExpression?_braces {found : Tokens}
    (alike : Tokens.Alike found (Token.enclosed .brace inner :: tokens)) :
    g.blockExpression? found = some (do
      let _ ← g.block) := by
  simp only [Grammar.blockExpression?, alike.looks]
  rfl

variable {condition : Tokens}

/-- The condition is taken in front of a block. -/
def TakesCondition (g : Grammar) (condition : Tokens) : Prop :=
  ∀ inner rest, Passes (g.expression false) (condition ++ Token.enclosed .brace inner :: rest)
    (Token.enclosed .brace inner :: rest)

theorem passes_branch (first : g.TakesCondition condition) (second : g.TakesBlock inner) :
    Passes (do
      word "if"
      let _ ← g.expression false
      let _ ← g.block)
      (Token.ofWord "if" :: (condition ++ Token.enclosed .brace inner :: rest)) rest :=
  .seq .word fun _ => .seq (first inner rest) fun _ => .seq (second rest) fun _ => .result trivial

theorem passes_if (first : g.TakesCondition condition) (second : g.TakesBlock inner)
    (ends : rest.atWord "else" = false) :
    Passes g.ifExpression
      (Token.ofWord "if" :: (condition ++ Token.enclosed .brace inner :: rest)) rest := by
  refine .seq (passes_branch first second) fun _ => .bind (.many (.stop (.bind
    (.declineWord ends) fun accepted absent => ?_))) fun _ _ => .result trivial
  exact .second (by simp [absent]) (.result rfl)

theorem passes_ifElse {other : Tokens} (first : g.TakesCondition condition)
    (second : g.TakesBlock inner) (third : g.TakesBlock other) :
    Passes g.ifExpression
      (Token.ofWord "if" :: (condition ++ Token.enclosed .brace inner :: Token.ofWord "else" ::
        Token.enclosed .brace other :: rest)) rest := by
  refine .seq (passes_branch first second) fun _ => .bind (.many (.stop (.bind
    .acceptWord fun accepted holds => .first holds ?_))) fun _ _ => .result trivial
  refine .ahead fun found alike => .second ?_ (.ahead fun found alike => .first ?_ ?_)
  · simp only [alike.looks]
    nofun
  · simp only [alike.looks]
    rfl
  · exact .bind (third rest) fun _ _ => .result rfl

/-- A condition with its blocks is an operand. -/
theorem takes_ifOperand (taken : Passes g.ifExpression (Token.ofWord "if" :: tokens) rest)
    (ends : EndsOperand allowStruct rest) :
    Takes (g.deepen.operand allowStruct) (Token.ofWord "if" :: tokens) rest (· = .block) := by
  refine takes_unsigned nofun (.ahead fun found alike => ?_) ends.accesses
  simp only [alike.looks, blockExpression?_if alike]
  exact .bind taken fun _ _ => .result rfl

end Grammar

end StorageMapping.Source
