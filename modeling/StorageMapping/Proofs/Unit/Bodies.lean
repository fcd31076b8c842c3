import StorageMapping.Proofs.Source.TakingItems
import StorageMapping.Proofs.Unit.Calls

namespace StorageMapping

/-! # Bodies of generated functions

What generated functions do is read as statements: columns that are put and columns that are
read. -/

open Source Source.Parser Source.Grammar Fragment

namespace Source.Grammar

variable {g : Grammar} {tokens inner other rest : Tokens} {depth : Nat} {type : TypeExpr}
    {name : Identifier}

/-- A statement of every grammar that nests so deep. -/
structure Statement (depth : Nat) (tokens : Tokens) : Prop where
  taken : ∀ {g : Grammar}, g.Deep depth → g.TakesStatement tokens

/-- What stands in the braces of a block, in every grammar that nests so deep. -/
structure Block (depth : Nat) (inner : Tokens) : Prop where
  taken : ∀ {g : Grammar}, g.Deep depth → g.TakesBlock inner

/-- A condition of every grammar that nests so deep. -/
structure Condition (depth : Nat) (tokens : Tokens) : Prop where
  taken : ∀ {g : Grammar}, g.Deep depth → g.TakesCondition tokens

/-- What is assigned, in every grammar that nests so deep. -/
structure Assigned (depth : Nat) (tokens : Tokens) : Prop where
  taken : ∀ {g : Grammar}, g.Deep depth → ∀ rest, EndsExpression true rest →
    Passes (g.rightOperand true Precedence.assignment) (tokens ++ rest) rest

theorem Statement.mono {other : Nat} (statement : Statement depth tokens)
    (fewer : depth ≤ other) : Statement other tokens :=
  ⟨fun deep => statement.taken (deep.mono fewer)⟩

theorem Assigned.mono {other : Nat} (assigned : Assigned depth tokens)
    (fewer : depth ≤ other) : Assigned other tokens :=
  ⟨fun deep => assigned.taken (deep.mono fewer)⟩

theorem Condition.mono {other : Nat} (condition : Condition depth tokens)
    (fewer : depth ≤ other) : Condition other tokens :=
  ⟨fun deep => condition.taken (deep.mono fewer)⟩

/-! ## Statements that begin with a path -/

/-- A path that can stand in front of a statement. The outermost module alone cannot. -/
structure IsCallee (type : TypeExpr) : Prop where
  plain : IsPlain type
  inside : ∀ name position, type = .path false [.mk name position none] →
    name.isWord "crate" = false

theorem isCallee_word {called : String} (isName : IsPathWord called) :
    IsCallee (Naming.pathType [.plain called]) where
  plain := isPlain_word isName
  inside name position same := by
    cases same
    exact Identifier.isWord_of_isName isName (by decide)

theorem isCallee_rooted {names : List String} (present : names ≠ [])
    (named : ∀ name ∈ names, IsPathWord name) : IsCallee (.rooted names) :=
  ⟨isPlain_rooted present named, nofun⟩

theorem isCallee_under {names : List String} (plain : IsPlain type) (present : names ≠ [])
    (named : ∀ name ∈ names, IsPathWord name) : IsCallee (type.under names) where
  plain := plain.under named
  inside name position same := by
    cases type with
    | path rooted segments =>
        have one := congrArg List.length (TypeExpr.path.inj same).2
        have first := List.length_pos_of_ne_nil plain.1
        have second := List.length_pos_of_ne_nil present
        simp only [List.length_append, List.length_map, List.length_singleton] at one
        omega
    | _ => exact plain.elim

/-- A chain goes on with a mark or a group, and not with a word. -/
theorem Chain.wordless (chain : Chain g tokens) (ends : rest.atAnyWord = false) :
    Tokens.atAnyWord (tokens ++ rest) = false := by
  cases chain with
  | none => exact ends
  | call | method | question | field => rfl

theorem IsCallee.beginsBody (callee : IsCallee type) (chain : Chain g inner)
    (ends : EndsOperand true rest) (wordless : rest.atAnyWord = false) :
    BeginsBody (type.tokens ++ (inner ++ rest)) :=
  callee.plain.beginsBody callee.inside (chain.endsAtom ends).clear (chain.wordless wordless)

theorem IsCallee.endsBlock (callee : IsCallee type) : EndsBlock (type.tokens ++ rest) :=
  have begins := callee.plain.isPath.begins rest
  ⟨begins.clear.fewer (by decide), begins.word "else" (by decide)⟩

/-- What is done to the value of a path, with operators behind it. -/
theorem IsCallee.takesBody {middle : Tokens} (callee : IsCallee type)
    (accessed : Accessed depth inner) (deep : g.Deep (depth + 1)) (ends : EndsOperand true middle)
    (operators : Takes (g.operators true Precedence.lowest .plain) middle rest (· = .plain)) :
    Takes g.deepen.body (type.tokens ++ (inner ++ middle)) rest (· = .plain) := by
  have operand := (Operand.path callee.plain accessed).taken deep true middle ends
  rw [List.append_assoc] at operand
  exact takes_pathBody (callee.plain.isPath.begins _) operand operators

/-- A call with its semicolon. -/
theorem IsCallee.statement (callee : IsCallee type) (accessed : Accessed depth inner) :
    Statement (depth + 2) (type.tokens ++ (inner ++ mark ";")) where
  taken deep := by
    refine ⟨fun rest => ?_, by simp [callee.plain.isPath.present], fun rest _ => ?_⟩
    · rw [List.append_assoc]
      exact callee.endsBlock
    · have ends : EndsExpression true (mark ";" ++ rest) := .semicolon
      rw [List.append_assoc, List.append_assoc]
      cases deep with
      | deepen deep =>
          have begins := callee.beginsBody (accessed.chain deep.shallower) ends.toEndsOperand rfl
          have body := callee.takesBody accessed deep ends.toEndsOperand <| by
            cases deep with
            | deepen => exact takes_operators ends
          exact takes_closedStatement begins body

/-- A value is assigned to a field. -/
theorem statement_assignment {object : String} (isObject : IsPathWord object)
    (isName : name.isName = true) (assigned : Assigned depth inner) :
    Statement (depth + 2)
      (Fragment.field object name ++ (mark "=" ++ (inner ++ mark ";"))) where
  taken {g} deep := by
    have callee : IsCallee (Naming.pathType [.plain object]) := isCallee_word isObject
    have selected : Accessed 0 (mark "." ++ Fragment.name name) := ⟨fun _ => .field isName⟩
    have shape : ∀ rest, Fragment.field object name ++ (mark "=" ++ (inner ++ mark ";")) ++ rest =
        (Naming.pathType [.plain object]).tokens ++ ((mark "." ++ Fragment.name name) ++
          (mark "=" ++ (inner ++ (mark ";" ++ rest)))) := by
      intro rest
      simp [Fragment.field, tokens_word]
    refine ⟨fun rest => ?_, nofun, fun rest _ => ?_⟩
    · rw [shape]
      exact callee.endsBlock
    · have ends : EndsExpression true (mark ";" ++ rest) := .semicolon
      have equals : EndsOperand true (mark "=" ++ (inner ++ (mark ";" ++ rest))) :=
        ⟨.mark (by decide), rfl, rfl, fun _ => rfl⟩
      rw [shape]
      cases deep with
      | deepen deep => cases deep with
        | @deepen _ deepest deep =>
            have begins := callee.beginsBody (selected.chain (.any deepest)) equals rfl
            have body := callee.takesBody selected (.deepen (.any _)) equals
              (takes_assignment (assigned.taken deep _ ends) ends)
            exact takes_closedStatement begins body

/-- A block of statements with a call at its end. -/
theorem IsCallee.block (closed : List Tokens) (callee : IsCallee type)
    (accessed : Accessed depth inner) (each : ∀ tokens ∈ closed, Statement (depth + 2) tokens) :
    Block (depth + 3) (closed.flatten ++ (type.tokens ++ inner)) where
  taken deep := by
    cases deep with
    | @deepen _ g deep =>
        have ends : EndsExpression true [] := .nil
        have last : Passes g.statement (type.tokens ++ inner) [] := by
          cases deep with
          | deepen deep =>
              have chain := accessed.chain deep.shallower
              have begins := callee.beginsBody chain ends.toEndsOperand rfl
              have body := callee.takesBody accessed deep ends.toEndsOperand <| by
                cases deep with
                | deepen => exact takes_operators ends
              rw [List.append_nil] at begins body
              exact takes_lastStatement begins body
        exact takesBlock_statements (fun tokens member => (each tokens member).taken deep)
          callee.endsBlock (by simp [callee.plain.isPath.present]) last

/-- A block of statements, all of them closed. -/
theorem Statement.block (closed : List Tokens) (statement : Statement depth tokens)
    (each : ∀ tokens ∈ closed, Statement depth tokens) :
    Block (depth + 1) (closed.flatten ++ tokens) where
  taken deep := by
    cases deep with
    | deepen deep =>
        exact takesBlock_closed (fun tokens member => (each tokens member).taken deep)
          (statement.taken deep)

/-! ## Conditions and blocks -/

/-- A condition in front of a block. -/
theorem Operand.condition (operand : Operand (depth + 1) tokens) :
    Condition (depth + 2) tokens where
  taken deep inner rest := by
    have ends : EndsExpression false (Token.enclosed .brace inner :: rest) := .braces
    cases deep with
    | deepen deep =>
        have taken := operand.taken deep false _ ends.toEndsOperand
        cases deep with
        | deepen => exact (takes_expression taken (takes_operators ends)).passes

theorem Condition.statement (condition : Condition depth tokens) (block : Block depth inner) :
    Statement (depth + 1) (Fragment.word "if" ++ (tokens ++ braces inner)) where
  taken deep := by
    cases deep with
    | deepen deep =>
        refine takesStatement_block (fun _ => .condition) (fun _ => ⟨nofun, rfl⟩) nofun
          (fun _ _ => blockExpression?_if) fun rest ends => ?_
        rw [List.append_assoc, List.append_assoc]
        exact passes_if (condition.taken deep) (block.taken deep) ends.otherwise

theorem Block.statement (block : Block depth inner) : Statement (depth + 1) (braces inner) where
  taken deep := by
    cases deep with
    | deepen deep =>
        refine takesStatement_block (fun _ => .braces) (fun _ => ⟨nofun, rfl⟩) nofun
          (fun _ _ => blockExpression?_braces) fun rest ends => ?_
        exact .bind (block.taken deep rest) fun _ _ => .result trivial

/-! ## Assigned values -/

theorem Operand.assigned (operand : Operand depth tokens) : Assigned depth tokens where
  taken deep rest ends := passes_rightOperand (operand.taken deep true rest ends.toEndsOperand) ends

theorem EndsOperand.equal {allowStruct : Bool} :
    EndsOperand allowStruct (Token.ofOperator "==" ++ rest) :=
  ⟨.mark (by decide), rfl, rfl, fun _ => rfl⟩

/-- A comparison is assigned. -/
theorem Operand.assigned_equal (operand : Operand (depth + 1) tokens)
    (compared : Operand depth other) : Assigned (depth + 1) (tokens ++ (mark "==" ++ other)) where
  taken deep rest ends := by
    have taken := operand.taken deep true (mark "==" ++ (other ++ rest)) .equal
    rw [List.append_assoc, List.append_assoc]
    refine passes_comparedOperand taken ?_ (by simp) ends
    cases deep with
    | deepen deep =>
        have right := compared.taken deep true rest ends.toEndsOperand
        exact (takes_comparison (Nat.le_refl _) right ends).passes

theorem Operand.expression_equal (operand : Operand (depth + 1) tokens)
    (compared : Operand depth other) :
    Expression (depth + 2) (tokens ++ (mark "==" ++ other)) where
  taken deep := by
    refine ⟨by simp [operand.present], fun rest ends => ?_⟩
    rw [List.append_assoc, List.append_assoc]
    cases deep with
    | deepen deep =>
        have left := operand.taken deep true (mark "==" ++ (other ++ rest)) .equal
        cases deep with
        | deepen deep =>
            have right := compared.taken deep true rest ends.toEndsOperand
            exact (takes_expression left (takes_comparison (by decide) right ends)).passes

/-- One of two blocks is assigned. -/
theorem Condition.assigned {condition : Tokens} (first : Condition depth condition)
    (second : Block depth inner) (third : Block depth other) :
    Assigned (depth + 1) (Fragment.word "if" ++ (condition ++ (braces inner ++
      (Fragment.word "else" ++ braces other)))) where
  taken deep rest ends := by
    cases deep with
    | deepen deep =>
        refine passes_rightOperand (takes_ifOperand ?_ ends.toEndsOperand) ends
        simpa [Fragment.braces, Fragment.word] using
          passes_ifElse (first.taken deep) (second.taken deep) (third.taken deep)

/-! ## Patterns -/

theorem EndsPattern.equals : EndsPattern (Token.ofOperator "=" ++ rest) :=
  ⟨.mark (by decide), rfl, rfl, rfl⟩

theorem takesPattern_name {called : String} (isName : IsPathWord called) (deep : g.Deep 1) :
    g.TakesPattern (Fragment.word called) := by
  cases deep with
  | deepen => exact fun rest => passes_namePattern isName .equals

theorem takesPattern_mutable {called : String} (isName : IsPathWord called) (deep : g.Deep 1) :
    g.TakesPattern (words ["mut", called]) := by
  cases deep with
  | deepen => exact fun rest => passes_mutablePattern isName rfl

/-- A pattern for what is wrapped. -/
theorem takesPattern_wrapping {names : List String} {called : String} (present : names ≠ [])
    (named : ∀ name ∈ names, IsPathWord name) (isName : IsPathWord called) (deep : g.Deep 2) :
    g.TakesPattern (below names ++ parens (Fragment.word called)) := by
  intro rest
  cases deep with
  | deepen deep =>
      cases deep with
      | @deepen _ g =>
          have plain : IsPlain (.path true (names.map TypeExpr.bareSegment)) :=
            isPlain_rooted present named
          have ends : EndsPattern [] := ⟨nofun, rfl, rfl, rfl⟩
          have bound : Passes g.deepen.alternatives (Fragment.word called) [] :=
            passes_alternatives .word (passes_namePattern isName ends) nofun
          have inner : Parts "," List.isEmpty g.deepen.alternatives false [fun _ => True]
              (Fragment.word called) [] :=
            .last (fun found alike => by simp [alike.looks, Fragment.word]) bound
              fun found alike => by simp [alike.looks]
          rw [← TypeExpr.tokens_rooted present, List.append_assoc]
          exact passes_wrappingPattern plain inner

/-- A value is bound to a pattern. -/
theorem Expression.binding {pattern : Tokens} (expression : Expression (depth + 2) tokens)
    (bound : ∀ {g : Grammar}, g.Deep (depth + 2) → g.TakesPattern pattern) :
    Statement (depth + 2)
      (Fragment.word "let" ++ (pattern ++ (mark "=" ++ (tokens ++ mark ";")))) where
  taken deep := by
    refine ⟨fun _ => ⟨nofun, rfl⟩, nofun, fun rest _ => ?_⟩
    have value := (expression.taken deep).taken (mark ";" ++ rest) .semicolon
    have shape : Fragment.word "let" ++ (pattern ++ (mark "=" ++ (tokens ++ mark ";"))) ++ rest =
        Fragment.word "let" ++ (pattern ++ (mark "=" ++ (tokens ++ (mark ";" ++ rest)))) := by simp
    rw [shape]
    exact takes_binding (bound deep) value

/-- A condition that binds what a value wraps. -/
theorem Operand.condition_wrapping {names : List String} {called : String}
    (operand : Operand (depth + 2) tokens) (present : names ≠ [])
    (named : ∀ name ∈ names, IsPathWord name) (isName : IsPathWord called) :
    Condition (depth + 4) (Fragment.word "let" ++
      (below names ++ parens (Fragment.word called) ++ (mark "=" ++ tokens))) where
  taken deep := by
    have begins : ∀ rest, BeginsPath (below names ++ rest) := by
      intro rest
      rw [← TypeExpr.tokens_rooted present]
      exact (isPlain_rooted present named).isPath.begins rest
    cases deep with
    | deepen deep => cases deep with
      | deepen deep => cases deep with
        | deepen deep =>
            have deepened := Deep.deepen deep
            refine takesCondition_let
              (takesPattern_wrapping present named isName (deepened.mono (by omega)))
              (fun rest => ?_) fun inner rest => ?_
            · rw [List.append_assoc]
              exact (begins _).clear.fewer (by decide)
            · exact operand.taken deepened false _ EndsExpression.braces.toEndsOperand

end Source.Grammar

/-! ## Columns that are put -/

namespace ContentPut

variable {depth : Nat} {reference : Fragment} {put : ContentPut}

theorem statement_put {column : String} (expression : Expression (depth + 2) reference) :
    Statement (depth + 6) (ContentPut.put column reference) := by
  have arguments : Arguments (depth + 4) (text column ++ (mark "," ++ clone reference)) :=
    .more (.text column) (.one (Operand.clone expression).expression)
  have accessed : Accessed (depth + 4)
      (method "put" (text column ++ (mark "," ++ clone reference)) ++ []) :=
    .method (by decide) arguments .none
  have taken := (isCallee_word (by decide : IsPathWord "content_values")).statement accessed
  rw [tokens_word, List.append_nil, ← List.append_assoc] at taken
  exact taken

theorem statement (isName : put.field.isName = true) : Statement 8 put.tokens := by
  have source : Operand 2 (mark "&" ++ Fragment.field "object" put.field) := .reference isName
  rw [tokens]
  split
  · have value : Operand 1 (Fragment.word "value") := .word (by decide) .none
    have condition : Condition 4 (Fragment.word "let" ++
        (below ["core", "option", "Option", "Some"] ++ parens (Fragment.word "value") ++
          (mark "=" ++ (mark "&" ++ Fragment.field "object" put.field)))) :=
      source.condition_wrapping (by simp) (by decide) (by decide)
    have block : Block 7 (ContentPut.put put.column (Fragment.word "value")) :=
      (statement_put value.expression).block [] nofun
    have taken := (condition.mono (by decide)).statement block
    simpa [words, Fragment.word] using taken
  · exact (statement_put source.expression).mono (by decide)

end ContentPut

/-! ## Columns that are read -/

namespace CursorRead

variable {type : ColumnType} {read : CursorRead}

theorem isPathWord_getter (type : ColumnType) : IsPathWord (getter type) := by
  cases type <;> decide

theorem operand_got (type : ColumnType) :
    Operand 3 (Fragment.word "cursor" ++
      (method (getter type) (Fragment.word "index") ++ (mark "?" ++ []))) := by
  have index : Operand 1 (Fragment.word "index") := .word (by decide) .none
  have got := isPathWord_getter type
  exact .word (by decide) (.method got (.one index.expression) (.question .none))

theorem value_eq (type : ColumnType) :
    value type = Fragment.word "cursor" ++
      (method (getter type) (Fragment.word "index") ++ (mark "?" ++ [])) ++
        if type = .boolean then mark "==" ++ [Token.literal "1" .start] else [] := by
  simp [value]

theorem assigned_value (type : ColumnType) : Assigned 3 (value type) := by
  rw [value_eq]
  split
  · exact (operand_got type).assigned_equal (Operand.literal.mono (by decide))
  · rw [List.append_nil]
    exact (operand_got type).assigned

theorem expression_value (type : ColumnType) : Expression 4 (value type) := by
  rw [value_eq]
  split
  · exact (operand_got type).expression_equal (Operand.literal.mono (by decide))
  · rw [List.append_nil]
    exact (operand_got type).expression

theorem assigned_optional (type : ColumnType) :
    Assigned 8 (words ["if", "cursor"] ++ method "is_null" (Fragment.word "index")
      ++ braces (below ["core", "option", "Option", "None"]) ++ Fragment.word "else"
      ++ braces (below ["core", "option", "Option", "Some"] ++ parens (value type))) := by
  have index : Operand 1 (Fragment.word "index") := .word (by decide) .none
  have isNull : Operand 3 (Fragment.word "cursor" ++
      (method "is_null" (Fragment.word "index") ++ [])) :=
    .word (by decide) (.method (by decide) (.one index.expression) .none)
  have absent : Block 7 (below ["core", "option", "Option", "None"]) := by
    have callee : IsCallee (.rooted ["core", "option", "Option", "None"]) :=
      isCallee_rooted (by simp) (by decide)
    simpa [TypeExpr.tokens_rooted] using callee.block [] (.none) nofun
  have present : Block 7 (below ["core", "option", "Option", "Some"] ++ parens (value type)) := by
    have callee : IsCallee (.rooted ["core", "option", "Option", "Some"]) :=
      isCallee_rooted (by simp) (by decide)
    simpa [TypeExpr.tokens_rooted] using
      callee.block [] (.call (.one (expression_value type)) .none) nofun
  have taken := (isNull.condition.mono (by decide)).assigned absent present
  simpa [words] using taken

/-- The statement that looks up the position of a column. -/
def lookupTokens (read : CursorRead) : Fragment :=
  words ["let", "index"] ++ (mark "=" ++ (Fragment.word "cursor" ++
    (method "column_index_or_err" (text read.column) ++ mark "?") ++ mark ";"))

/-- What is assigned to a field. -/
def assignedTokens (read : CursorRead) : Fragment :=
  if read.type.nullable then
    words ["if", "cursor"] ++ method "is_null" (Fragment.word "index")
      ++ braces (below ["core", "option", "Option", "None"]) ++ Fragment.word "else"
      ++ braces (below ["core", "option", "Option", "Some"] ++ parens (value read.type.column))
  else value read.type.column

theorem tokens_eq (read : CursorRead) :
    read.tokens = braces ([read.lookupTokens].flatten ++
      (Fragment.field "object" read.field ++ (mark "=" ++ (read.assignedTokens ++ mark ";")))) := by
  simp [tokens, lookupTokens, assignedTokens]

theorem statement_lookupTokens (read : CursorRead) : Statement 5 read.lookupTokens := by
  have lookup : Operand 4 (Fragment.word "cursor" ++
      (method "column_index_or_err" (text read.column) ++ (mark "?" ++ []))) :=
    .word (by decide) (.method (by decide) (.one (.text read.column)) (.question .none))
  have binding := lookup.expression.binding fun deep =>
    takesPattern_name (by decide : IsPathWord "index") (deep.mono (by decide))
  simpa [CursorRead.lookupTokens, words] using binding

theorem assigned_assignedTokens (read : CursorRead) : Assigned 8 read.assignedTokens := by
  rw [assignedTokens]
  split
  · exact assigned_optional _
  · exact (assigned_value _).mono (by decide)

theorem statement (isName : read.field.isName = true) : Statement 12 read.tokens := by
  have assignment := statement_assignment (by decide : IsPathWord "object") isName
    read.assigned_assignedTokens
  have block := assignment.block [_] fun tokens member => by
    cases List.mem_singleton.mp member
    exact read.statement_lookupTokens.mono (by decide)
  rw [tokens_eq]
  exact block.statement

end CursorRead

end StorageMapping
