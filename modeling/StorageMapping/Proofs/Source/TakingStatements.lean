import StorageMapping.Proofs.Source.TakingExpressions

namespace StorageMapping.Source

open StorageMapping.Source.Parser

namespace Grammar

variable {g : Grammar} {tokens middle rest inner pattern value : Tokens} {name : Identifier}
    {position : Position} {form : ExpressionForm} {type : TypeExpr}

/-! # Statements are taken

A statement is recognised by what stands in front of it, so it has to be told from an item and from
a macro call. -/

/-! ## Patterns -/

/-- What may follow a name that is a pattern. -/
structure EndsPattern (rest : Tokens) : Prop where
  clear : Tokens.Clear ['!', '.', '@', '|'] rest
  colons : rest.atOperator "::" = false
  parenthesis : rest.atGroup .parenthesis = false
  brace : rest.atGroup .brace = false

/-- The name of a pattern, behind the words that may stand in front of it. -/
def boundName (g : Grammar) : Parser Unit := do
  if !(← acceptWord "self") then
    let _ ← Parser.name
  if ← acceptOperator "@" then g.pattern

theorem passes_boundName (isName : name.isName = true) (ends : rest.atOperator "@" = false) :
    Passes g.boundName (Token.word name position :: rest) rest := by
  have other : name.isWord "self" = false := Identifier.isWord_of_isName isName (by decide)
  refine .bind (.declineWord other) fun accepted absent => ?_
  subst absent
  refine .bind (.name isName) fun _ _ => .bind (.declineOperator ends) fun accepted absent => ?_
  exact .second (by simp [absent]) (.result trivial)

theorem passes_namePattern (isName : name.isName = true) (ends : EndsPattern rest) :
    Passes g.deepen.pattern (Token.word name position :: rest) rest := by
  have begins : BeginsPath (Token.word name position :: rest) := .ofSegment (.inl isName) rest
  have other : ∀ word, reservedWords.contains word = true → name.isWord word = false :=
    fun word => Identifier.isWord_of_isName isName
  have bang : Tokens.atOperator "!" rest = false := ends.clear.atOperator (by decide)
  have dots : Tokens.atOperator ".." rest = false := ends.clear.atOperator (by decide)
  have at? : Tokens.atOperator "@" rest = false := ends.clear.atOperator (by decide)
  refine .ahead fun found alike => .second ?_ (.second ?_ (.second ?_ (.second ?_ (.first ?_ ?_))))
  · have second : (Tokens.skip 1 found).Alike rest := alike.skip 1
    simp [alike.looks, second.looks, Tokens.looks_word, Tokens.atOneOf, bang, dots, ends.colons,
      ends.parenthesis, ends.brace, other "self" (by decide), other "Self" (by decide),
      other "super" (by decide), other "crate" (by decide)]
  · simp [alike.looks, Tokens.looks_word, other "_" (by decide)]
  · simp [alike.looks, Tokens.looks_word, other "box" (by decide)]
  · simp [alike.looks, begins.literal, begins.word "const" (by decide), Tokens.looks_word]
  · simp [alike.looks, Tokens.looks_word, isName]
  refine .bind (.declineWord (other "ref" (by decide))) fun _ _ => ?_
  exact .bind (.declineWord (other "mut" (by decide))) fun _ _ => passes_boundName isName at?

theorem passes_wildcard : Passes g.deepen.pattern (Token.ofWord "_" :: rest) rest := by
  refine .ahead fun found alike => ?_
  simp only [alike.looks]
  exact .word

theorem passes_mutablePattern (isName : name.isName = true)
    (ends : rest.atOperator "@" = false) :
    Passes g.deepen.pattern (Token.ofWord "mut" :: Token.word name position :: rest) rest := by
  refine .ahead fun found alike => ?_
  simp only [alike.looks]
  refine .bind (.declineWord rfl) fun _ _ => .bind .acceptWord fun _ _ => ?_
  exact passes_boundName isName ends

theorem passes_alternatives (unbarred : Tokens.Clear ['|'] tokens)
    (taken : Passes g.pattern tokens rest) (ends : Tokens.Clear ['|'] rest) :
    Passes g.alternatives tokens rest := by
  refine .bind (.declineOperator (unbarred.atOperator (by decide))) fun _ _ => ?_
  refine .seq taken fun _ => ?_
  refine .bind (.manyWhile (.stop fun found alike => ?_)) fun _ _ => .result trivial
  have bar : found.atOperator "|" = false := (ends.alike alike).atOperator (by decide)
  simp [atBar, bar]

/-- A path from the root, with a pattern in parentheses. -/
theorem passes_wrappingPattern {segments : List PathSegment}
    (plain : IsPlain (.path true segments))
    (taken : Parts "," List.isEmpty g.alternatives false [fun _ => True] inner []) :
    Passes g.deepen.pattern
      ((TypeExpr.path true segments).tokens ++ Token.enclosed .parenthesis inner :: rest) rest := by
  have bound : Passes g.pathPattern
      ((TypeExpr.path true segments).tokens ++ Token.enclosed .parenthesis inner :: rest) rest := by
    refine .bind (plain.takesPath ⟨rfl, nofun⟩) fun _ _ => .ahead fun found alike => ?_
    simp only [alike.looks]
    exact .bind (.group (.commaSeparated taken)) fun _ _ => .result trivial
  refine .ahead fun found alike => .first ?_ bound
  have colons : Tokens.atOperator "::" ((TypeExpr.path true segments).tokens ++
      Token.enclosed .parenthesis inner :: rest) = true := rfl
  simp [alike.looks, colons]

/-! ## Bindings -/

/-- A pattern stands in front of an equals sign. -/
def TakesPattern (g : Grammar) (pattern : Tokens) : Prop :=
  ∀ rest, Passes g.pattern (pattern ++ (Token.ofOperator "=" ++ rest))
    (Token.ofOperator "=" ++ rest)

/-- A condition that binds a pattern. -/
theorem takesCondition_let (bound : g.deepen.TakesPattern pattern)
    (unbarred : ∀ rest, Tokens.Clear ['|'] (pattern ++ rest))
    (operand : ∀ inner rest, Takes (g.deepen.operand false)
      (value ++ Token.enclosed .brace inner :: rest) (Token.enclosed .brace inner :: rest)
      (· = .plain)) :
    g.deepen.deepen.deepen.TakesCondition
      (Token.ofWord "let" :: (pattern ++ (Token.ofOperator "=" ++ value))) := by
  intro inner rest
  have taken : Passes g.deepen.letExpression
      (Token.ofWord "let" :: (pattern ++ (Token.ofOperator "=" ++
        (value ++ Token.enclosed .brace inner :: rest))))
      (Token.enclosed .brace inner :: rest) := by
    have bounds := fun more => passes_alternatives (unbarred _) (bound more) (.mark (by decide))
    refine .seq .word fun _ => .seq (bounds _) fun _ => .seq .operator fun _ => ?_
    refine .bind (operand inner rest) fun _ _ => ?_
    exact .bind (takes_operators .braces) fun _ _ => .result trivial
  have atom : Takes (g.deepen.atom false)
      (Token.ofWord "let" :: (pattern ++ (Token.ofOperator "=" ++
        (value ++ Token.enclosed .brace inner :: rest)))) (Token.enclosed .brace inner :: rest)
      (· = .plain) := by
    refine .ahead fun found alike => ?_
    simp only [alike.looks, blockExpression?_let alike, atClosure_let alike, atPathStart]
    exact .bind taken fun _ _ => .result rfl
  have shape : Token.ofWord "let" :: (pattern ++ (Token.ofOperator "=" ++ value)) ++
      Token.enclosed .brace inner :: rest = Token.ofWord "let" :: (pattern ++
        (Token.ofOperator "=" ++ (value ++ Token.enclosed .brace inner :: rest))) := by
    simp
  rw [shape]
  exact (takes_expression (takes_unsigned .word atom EndsExpression.braces.accesses)
    (takes_operators .braces)).passes

/-- A binding with its value. -/
theorem passes_letStatement (bound : g.TakesPattern pattern)
    (taken : Passes (g.expression true) (value ++ (Token.ofOperator ";" ++ rest))
      (Token.ofOperator ";" ++ rest)) :
    Passes g.letStatement
      (Token.ofWord "let" :: (pattern ++ (Token.ofOperator "=" ++
        (value ++ (Token.ofOperator ";" ++ rest))))) rest := by
  refine .seq .word fun _ => .seq (bound _) fun _ => ?_
  refine .bind (.declineOperator rfl) fun accepted absent => .second (by simp [absent]) ?_
  refine .bind .acceptOperator fun accepted holds => .first holds ?_
  refine .seq taken fun _ => .get fun state _ => .ahead fun found alike => .second ?_ .operator
  have other : found.atWord "else" = false := (alike.looks.1 _).trans rfl
  simp [other]

/-! ## What a statement is -/

theorem passes_plainSegment (segment : name.IsSegment) :
    Passes plainSegment (Token.word name position :: rest) rest := by
  refine .ahead fun found alike => .second ?_ (.bind .anyWord fun _ _ => .result trivial)
  have known : atPlainSegment found = true := by
    rcases segment with isName | ⟨word, listed, rfl⟩
    · simp [atPlainSegment, alike.looks, Tokens.looks_word, isName]
    · simp only [pathStarts, List.mem_cons, List.not_mem_nil, or_false] at listed
      rcases listed with rfl | rfl | rfl | rfl <;>
        simp [atPlainSegment, alike.looks, Tokens.looks_word, Tokens.atOneOf, Identifier.isWord,
          Identifier.plain]
  simp [known]

/-- Segments without arguments stand behind each other. -/
theorem whiles_plainSegments {segments : List PathSegment} (ends : rest.atOperator "::" = false)
    (each : ∀ segment ∈ segments, ∃ name position,
      segment = .mk name position none ∧ name.IsSegment) :
    Whiles (·.atOperator "::") (do
      operator "::"
      plainSegment) (segments.map fun _ _ => True) (furtherTokens segments ++ rest) rest := by
  induction segments with
  | nil => exact .stop fun found alike => (alike.looks.2.2.2.2.2.2.1 _).trans ends
  | cons segment segments ih =>
      obtain ⟨⟨name, position, rfl, segmental⟩, others⟩ := List.forall_mem_cons.mp each
      change Whiles _ _ (_ :: segments.map _) (Token.ofOperator "::" ++
        Token.word name position :: (furtherTokens segments ++ rest)) rest
      refine .more (fun found alike => ?_) (.seq .operator fun _ => passes_plainSegment segmental)
        ?_ (ih others)
      · exact (alike.looks.2.2.2.2.2.2.1 _).trans rfl
      · simp
        omega

/-- The names of a plain path, behind the colons that it may begin with. -/
def plainNames (rooted : Bool) : Parser (Bool × List Identifier) := do
  let first ← plainSegment
  let more ← manyWhile (·.atOperator "::") do
    operator "::"
    plainSegment
  return (rooted, first :: more)

theorem IsPlain.passes_plainPath (plain : IsPlain type) (ends : rest.atOperator "::" = false) :
    Passes plainPath (type.tokens ++ rest) rest := by
  cases type with
  | path rooted segments =>
      obtain ⟨segment, more, rfl⟩ := List.exists_cons_of_ne_nil plain.1
      obtain ⟨⟨name, position, rfl, segmental⟩, others⟩ := List.forall_mem_cons.mp plain.2
      have behind : Passes (plainNames rooted)
          (segmentsTokens (PathSegment.mk name position none :: more) ++ rest) rest := by
        rw [segmentsTokens_cons, List.append_assoc]
        refine .seq (passes_plainSegment segmental) fun _ => ?_
        exact .bind (.manyWhile (whiles_plainSegments ends others)) fun _ _ => .result trivial
      rw [TypeExpr.tokens]
      cases rooted with
      | true =>
          rw [if_pos rfl, List.append_assoc]
          refine .bind .acceptOperator fun accepted holds => ?_
          subst holds
          exact behind
      | false =>
          have unrooted : Tokens.atOperator "::"
              (segmentsTokens (PathSegment.mk name position none :: more) ++ rest) = false := by
            rw [segmentsTokens_cons]
            rfl
          refine .bind (.declineOperator unrooted) fun accepted absent => ?_
          subst absent
          exact behind
  | _ => exact plain.elim

theorem refuses_plainPath (colons : tokens.atOperator "::" = false)
    (unnamed : tokens.atName = false)
    (words : tokens.atOneOf ["super", "self", "Self", "crate"] = false) :
    Refuses plainPath tokens := by
  refine .bind (.declineOperator colons) fun _ _ => .first (.ahead fun found alike => ?_)
  have unknown : atPlainSegment found = false := by
    simp only [atPlainSegment, alike.looks, unnamed, words, Bool.or_self]
  rw [unknown]
  exact .first .failWanting

theorem afterPath?_refused {found : Tokens} (refused : Refuses plainPath tokens)
    (alike : Tokens.Alike found tokens) : afterPath? found = none := by
  obtain ⟨fault, failed⟩ := refused ⟨found, [], none⟩ alike
  rw [afterPath?, StateT.run, failed]

theorem afterPath?_passed {found : Tokens} (passed : Passes plainPath tokens rest)
    (alike : Tokens.Alike found tokens) : ∃ behind, afterPath? found = some behind ∧
      Tokens.Alike behind rest := by
  obtain ⟨value, next, parsed, behind, _⟩ := passed ⟨found, [], none⟩ alike
  exact ⟨next.rest, by rw [afterPath?, StateT.run, parsed], behind⟩

/-- What stands in front where a statement is neither a binding, an item nor a macro call that ends
with its braces. -/
structure BeginsBody (tokens : Tokens) : Prop where
  unmarked : Tokens.Clear ['#'] tokens
  binding : tokens.atWord "let" = false
  macro_ : Tells atBracedMacro tokens false
  item : Tells atItem tokens false

theorem BeginsBody.braces : BeginsBody (Token.enclosed .brace inner :: rest) := by
  have pathless : Refuses plainPath (Token.enclosed .brace inner :: rest) :=
    refuses_plainPath rfl rfl rfl
  refine ⟨nofun, rfl, fun found alike => ?_, fun found alike => ?_⟩
  · rw [atBracedMacro, afterPath?_refused pathless alike]
    rfl
  · simp only [atItem, atConstant, atNamedMacro, afterPath?_refused pathless alike, alike.looks]
    rfl

theorem BeginsBody.condition : BeginsBody (Token.ofWord "if" :: rest) := by
  have pathless : Refuses plainPath (Token.ofWord "if" :: rest) :=
    refuses_plainPath rfl rfl rfl
  refine ⟨.word, rfl, fun found alike => ?_, fun found alike => ?_⟩
  · rw [atBracedMacro, afterPath?_refused pathless alike]
    rfl
  · simp only [atItem, atConstant, atNamedMacro, afterPath?_refused pathless alike, alike.looks]
    rfl

/-- What stands second where a path stands in front. -/
theorem IsPlain.second (plain : IsPlain type) (wordless : rest.atAnyWord = false) :
    (Tokens.skip 1 (type.tokens ++ rest)).atAnyWord = false := by
  cases type with
  | path rooted segments =>
      obtain ⟨segment, more, rfl⟩ := List.exists_cons_of_ne_nil plain.1
      obtain ⟨⟨name, position, rfl, _⟩, _⟩ := List.forall_mem_cons.mp plain.2
      rw [TypeExpr.tokens, segmentsTokens_cons]
      cases rooted with
      | true => rfl
      | false =>
          cases more with
          | nil => exact wordless
          | cons _ _ => rfl
  | _ => exact plain.elim

theorem IsPlain.outermost (plain : IsPlain type)
    (outside : ∀ name position, type = .path false [.mk name position none] →
      name.isWord "crate" = false)
    (front : Tokens.atWord "crate" (type.tokens ++ rest) = true) :
    (Tokens.skip 1 (type.tokens ++ rest)).atOperator "::" = true := by
  cases type with
  | path rooted segments =>
      obtain ⟨segment, more, rfl⟩ := List.exists_cons_of_ne_nil plain.1
      obtain ⟨⟨name, position, rfl, _⟩, _⟩ := List.forall_mem_cons.mp plain.2
      rw [TypeExpr.tokens, segmentsTokens_cons] at front ⊢
      cases rooted with
      | true => cases front
      | false =>
          cases more with
          | nil => cases (outside name position rfl).symm.trans front
          | cons _ _ => rfl
  | _ => exact plain.elim

/-- A path stands in front that is no macro call. It is not the word for the outermost module
alone. -/
theorem IsPlain.beginsBody (plain : IsPlain type)
    (outside : ∀ name position, type = .path false [.mk name position none] →
      name.isWord "crate" = false)
    (clear : Tokens.Clear [':', '!'] rest) (wordless : rest.atAnyWord = false) :
    BeginsBody (type.tokens ++ rest) := by
  have begins := plain.isPath.begins rest
  have apart : Tokens.atOperator "::" rest = false := clear.atOperator (by decide)
  have passed := plain.passes_plainPath apart
  have bang : Tokens.atOperator "!" rest = false := clear.atOperator (by decide)
  refine ⟨begins.clear.fewer (by decide), begins.word "let" (by decide), fun found alike => ?_,
    fun found alike => ?_⟩
  · obtain ⟨behind, reached, same⟩ := afterPath?_passed passed alike
    simp [atBracedMacro, reached, same.looks, bang]
  · obtain ⟨behind, reached, same⟩ := afterPath?_passed passed alike
    have named : atNamedMacro found = false := by
      simp [atNamedMacro, reached, same.looks, bang]
    replace begins := begins.alike alike
    have second : (found.skip 1).atAnyWord = false :=
      (alike.skip 1).looks.2.2.1.trans (plain.second wordless)
    have crate : found.atWord "crate" = true → (found.skip 1).atOperator "::" = true := by
      simpa only [alike.looks, (alike.skip 1).looks] using plain.outermost outside
    simpa [atItem, atConstant, named, begins.oneOf itemWords (by decide),
      begins.word "const" (by decide), begins.word "static" (by decide),
      begins.word "unsafe" (by decide), begins.word "async" (by decide),
      Tokens.looks_wordless second] using crate

/-! ## Bodies -/

/-- An expression that begins with a path, as a statement. -/
theorem takes_pathBody {middle : Tokens} {claim : ExpressionForm → Prop}
    (begins : BeginsPath tokens)
    (operand : Takes (g.operand true) tokens middle (· = form))
    (operators : Takes (g.operators true Precedence.lowest form) middle rest claim) :
    Takes g.deepen.body tokens rest claim := by
  refine .seq begins.outerAttributes fun _ => .ahead fun found alike => ?_
  simp only [(begins.alike alike).blockExpression?]
  refine .bind operand fun _ same => ?_
  subst same
  exact operators

/-- What may follow a block that is a statement, and has no attributes. -/
structure EndsBlock (rest : Tokens) : Prop where
  clear : Tokens.Clear ['.', '?', ';', '#'] rest
  otherwise : rest.atWord "else" = false

theorem takes_blockBody {parser : Parser Unit} (unmarked : Tokens.Clear ['#'] tokens)
    (block : ∀ found, Tokens.Alike found tokens → g.blockExpression? found = some parser)
    (taken : Passes parser tokens rest) (ends : EndsBlock rest) :
    Takes g.deepen.body tokens rest (· = .block) := by
  have attributes : Passes g.outerAttributes tokens tokens :=
    (Takes.manyWhile (.stop fun _ alike => (unmarked.alike alike).atOperator (by decide))).passes
  have point : Tokens.atOperator "." rest = false := ends.clear.atOperator (by decide)
  have question : Tokens.atOperator "?" rest = false := ends.clear.atOperator (by decide)
  refine .seq attributes fun _ => .ahead fun found alike => ?_
  simp only [block found alike]
  refine .seq taken fun _ => .ahead fun found alike => .second ?_ (.result rfl)
  simp [atPoint, alike.looks, point, question]

/-! ## Statements -/

theorem takes_statement {answer : Bool} (begins : BeginsBody tokens)
    (body : Takes g.body tokens middle (· = form))
    (ends : Takes (do
      if ← acceptOperator ";" then return false
      return form ≠ .block && form ≠ .bracedCall) middle rest (· = answer)) :
    Takes g.statement tokens rest (· = answer) := by
  have attributes : Passes g.outerAttributes tokens tokens :=
    (Takes.manyWhile (.stop fun _ alike =>
      (begins.unmarked.alike alike).atOperator (by decide))).passes
  refine .seq attributes fun _ => .ahead fun found alike => ?_
  refine .second ?_ (.second ?_ (.second ?_ (.bind body fun _ same => ?_)))
  · simp [begins.macro_ found alike]
  · simp [alike.looks, begins.binding]
  · simp [begins.item found alike]
  · subst same
    exact ends

theorem takes_closedStatement (begins : BeginsBody tokens)
    (body : Takes g.body tokens (Token.ofOperator ";" ++ rest) (· = form)) :
    Takes g.statement tokens rest (· = false) :=
  takes_statement begins body <| .bind .acceptOperator fun _ holds => .first holds (.result rfl)

theorem takes_blockStatement (begins : BeginsBody tokens)
    (body : Takes g.body tokens rest (· = .block)) (ends : EndsBlock rest) :
    Takes g.statement tokens rest (· = false) :=
  takes_statement begins body <|
    .bind (.declineOperator (ends.clear.atOperator (by decide))) fun _ absent =>
      .second (by simp [absent]) (.result rfl)

theorem takes_lastStatement (begins : BeginsBody tokens)
    (body : Takes g.body tokens [] (· = form)) : Passes g.statement tokens [] :=
  (takes_statement begins body <| .bind (.declineOperator rfl) fun _ absent =>
    .second (by simp [absent]) (.result rfl)).passes

theorem takes_binding (bound : g.TakesPattern pattern)
    (taken : Passes (g.expression true) (value ++ (Token.ofOperator ";" ++ rest))
      (Token.ofOperator ";" ++ rest)) :
    Takes g.statement
      (Token.ofWord "let" :: (pattern ++ (Token.ofOperator "=" ++
        (value ++ (Token.ofOperator ";" ++ rest))))) rest (· = false) := by
  have pathless := @refuses_plainPath (Token.ofWord "let" :: (pattern ++ (Token.ofOperator "=" ++
        (value ++ (Token.ofOperator ";" ++ rest))))) rfl rfl rfl
  refine .bind (.manyWhile (.stop fun found alike => ?_)) fun _ _ => .ahead fun found alike => ?_
  · exact (alike.looks.2.2.2.2.2.2.1 _).trans rfl
  have macroless : atBracedMacro found = false := by
    rw [atBracedMacro, afterPath?_refused pathless alike]
    rfl
  refine .second (by simp [macroless]) (.first ((alike.looks.1 _).trans rfl) ?_)
  exact .seq (passes_letStatement bound taken) fun _ => .result rfl

/-! ## Blocks of statements -/

/-- The tokens are a statement of its own, wherever a block can go on. -/
structure TakesStatement (g : Grammar) (tokens : Tokens) : Prop where
  begins : ∀ rest, EndsBlock (tokens ++ rest)
  present : tokens ≠ []
  taken : ∀ rest, EndsBlock rest → Takes g.statement (tokens ++ rest) rest (· = false)

theorem endsBlock_flatten {closed : List Tokens} {last : Tokens}
    (each : ∀ tokens ∈ closed, g.TakesStatement tokens) (begins : EndsBlock last) :
    EndsBlock (closed.flatten ++ last) := by
  cases closed with
  | nil => exact begins
  | cons first others =>
      rw [List.flatten_cons, List.append_assoc]
      exact (each first List.mem_cons_self).begins _

/-- One round of the loop over the statements of a block. -/
def statementRound (g : Grammar) : Parser (Option Unit) := do
  let _ ← manyWhile (·.atOperator ";") (operator ";")
  if ← atEnd then return none
  let isOpen ← g.statement
  if ← atEnd then return none
  if isOpen then failWanting "`;`"
  return some ()

theorem EndsBlock.unseparated (ends : EndsBlock tokens) :
    Passes (manyWhile (·.atOperator ";") (operator ";")) tokens tokens :=
  (Takes.manyWhile (.stop fun _ alike => (ends.clear.alike alike).atOperator (by decide))).passes

theorem takes_goesOn (filled : tokens ≠ []) : Takes atEnd tokens tokens (· = false) := by
  obtain ⟨token, more, rfl⟩ := List.exists_cons_of_ne_nil filled
  exact .atEnd

theorem TakesStatement.takesRound (statement : g.TakesStatement tokens) (behind : EndsBlock rest)
    (filled : rest ≠ []) : Takes g.statementRound (tokens ++ rest) rest (· = some ()) := by
  refine .seq (statement.begins _).unseparated fun _ => .bind (takes_goesOn ?_) fun _ goes => ?_
  · simp [statement.present]
  refine .second (by simp [goes]) (.bind (statement.taken _ behind) fun _ shut => ?_)
  refine .bind (takes_goesOn filled) fun _ goes => .second (by simp [goes]) ?_
  exact .second (by simp [shut]) (.result rfl)

/-- The loop over the statements of a block. -/
theorem rounds_statements {closed : List Tokens} {last : Tokens}
    (each : ∀ tokens ∈ closed, g.TakesStatement tokens) (begins : EndsBlock last)
    (present : last ≠ []) (taken : Passes g.statement last []) :
    Rounds g.statementRound (closed.map fun _ _ => True) (closed.flatten ++ last) [] := by
  induction closed with
  | nil =>
      refine .stop (.seq begins.unseparated fun _ => .bind (takes_goesOn present) fun _ goes => ?_)
      refine .second (by simp [goes]) (.seq taken fun _ => .bind .atEnd_nil fun _ ended => ?_)
      exact .first ended (.result rfl)
  | cons tokens closed ih =>
      obtain ⟨first, others⟩ := List.forall_mem_cons.mp each
      have one := first.takesRound (endsBlock_flatten others begins) (by simp [present])
      rw [List.flatten_cons, List.append_assoc]
      refine .more (one.imp fun _ same => ⟨(), same, trivial⟩) ?_ (ih others)
      have width := List.length_pos_of_ne_nil first.present
      simp only [List.length_append]
      omega

/-- Statements up to the last one, which need not be closed. -/
theorem passes_statements {closed : List Tokens} {last : Tokens}
    (each : ∀ tokens ∈ closed, g.TakesStatement tokens) (begins : EndsBlock last)
    (present : last ≠ []) (taken : Passes g.statement last []) :
    Passes g.deepen.statements (closed.flatten ++ last) [] :=
  .bind (.many (rounds_statements each begins present taken)) fun _ _ => .result trivial

theorem takesBlock_statements {closed : List Tokens} {last : Tokens}
    (each : ∀ tokens ∈ closed, g.TakesStatement tokens) (begins : EndsBlock last)
    (present : last ≠ []) (taken : Passes g.statement last []) :
    g.deepen.TakesBlock (closed.flatten ++ last) :=
  fun _ => passes_block ((endsBlock_flatten each begins).clear.fewer (by decide))
    (passes_statements each begins present taken)

/-- A block without a value. -/
theorem takesBlock_closed {closed : List Tokens} {last : Tokens}
    (each : ∀ tokens ∈ closed, g.TakesStatement tokens) (behind : g.TakesStatement last) :
    g.deepen.TakesBlock (closed.flatten ++ last) := by
  have begins := behind.begins []
  have taken := behind.taken [] ⟨nofun, rfl⟩
  rw [List.append_nil] at begins taken
  exact takesBlock_statements each begins behind.present taken.passes

/-- Conditions with their blocks, and blocks by themselves, are statements. -/
theorem takesStatement_block {parser : Parser Unit} (begins : ∀ rest, BeginsBody (tokens ++ rest))
    (starts : ∀ rest, EndsBlock (tokens ++ rest)) (present : tokens ≠ [])
    (block : ∀ rest found, Tokens.Alike found (tokens ++ rest) →
      g.blockExpression? found = some parser)
    (taken : ∀ rest, EndsBlock rest → Passes parser (tokens ++ rest) rest) :
    g.deepen.TakesStatement tokens where
  begins := starts
  present := present
  taken rest ends := takes_blockStatement (begins rest)
    (takes_blockBody (begins rest).unmarked (block rest) (taken rest ends) ends) ends

end Grammar

end StorageMapping.Source
