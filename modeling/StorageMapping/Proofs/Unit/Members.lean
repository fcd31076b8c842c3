import StorageMapping.Proofs.Unit.Bodies

namespace StorageMapping

/-! # Generated functions are read

Every function of a generated unit is a member of an implementation: its arguments, its result and
its body are read as such. -/

open Source Source.Grammar Fragment
open Source.Parser (Takes Passes)

namespace Source.Grammar

variable {tokens inner body : Tokens} {depth : Nat} {type : TypeExpr} {called : String}

/-- A type that is a path, in every grammar that nests so deep. -/
structure PathType (depth : Nat) (type : TypeExpr) : Prop where
  isPath : IsPath type
  taken : ∀ {g : Grammar}, g.Deep depth → g.TakesType type

/-- Arguments of a function, in every grammar that nests so deep. -/
structure Parameters (depth : Nat) (inner : Tokens) : Prop where
  taken : ∀ {g : Grammar}, g.Deep depth → g.TakesParameters inner

/-- A member of an implementation, in every grammar that nests so deep. -/
structure Member (depth : Nat) (tokens : Tokens) : Prop where
  taken : ∀ {g : Grammar}, g.Deep depth → g.TakesMember tokens

theorem PathType.ofPlain (plain : IsPlain type) : PathType 1 type where
  isPath := plain.isPath
  taken deep := by
    cases deep with
    | deepen => exact plain.takesType

theorem PathType.applied {types : List TypeExpr} (plain : IsPlain type) (isName : IsPathWord called)
    (present : types ≠ []) (each : ∀ type ∈ types, PathType depth type) :
    PathType (depth + 1) (type.applied called types) where
  isPath := plain.isPath_applied isName
  taken deep := by
    cases deep with
    | deepen deep =>
        exact plain.takesType_applied isName present fun type member =>
          ⟨(each type member).isPath, (each type member).taken deep⟩

theorem PathType.mono {other : Nat} (path : PathType depth type) (fewer : depth ≤ other) :
    PathType other type :=
  ⟨path.isPath, fun deep => path.taken (deep.mono fewer)⟩

theorem Block.mono {other : Nat} (block : Block depth inner) (fewer : depth ≤ other) :
    Block other inner :=
  ⟨fun deep => block.taken (deep.mono fewer)⟩

theorem Member.mono {other : Nat} (member : Member depth tokens) (fewer : depth ≤ other) :
    Member other tokens :=
  ⟨fun deep => member.taken (deep.mono fewer)⟩

/-! ## Arguments -/

theorem Parameters.none : Parameters depth [] := ⟨fun _ => .none⟩

/-- An argument that is not used. -/
theorem Parameters.blank (path : PathType depth type) :
    Parameters (depth + 1) (word "_" ++ (mark ":" ++ type.tokens)) where
  taken {g} deep := by
    have bound : Passes g.pattern (word "_" ++ (mark ":" ++ (type.tokens ++ [])))
        (mark ":" ++ (type.tokens ++ [])) := by
      cases deep with
      | deepen => exact passes_wildcard
    have dots : Tokens.atOperator "..." (type.tokens ++ []) = false :=
      (path.isPath.begins []).operator (by decide)
    have taken := path.taken deep.shallower true [] nofun
    have argument : Takes (g.functionArgument true) (word "_" ++ (mark ":" ++ (type.tokens ++ [])))
        [] (· = false) :=
      takes_argument rfl rfl bound dots taken.passes
    rw [List.append_nil] at argument
    exact .one .word nofun argument

/-- The object that a method borrows besides its receiver. -/
theorem PathType.borrowed {behind : Tokens} (path : PathType depth type)
    (isName : IsPathWord called) (ends : behind = [] ∨ behind = mark ",") :
    Parameters (depth + 1) (Template.borrowed called type.tokens ++ behind) where
  taken {g} deep := by
    have bound : Passes g.pattern (word called ++ (mark ":" ++ (mark "&" ++ type.tokens ++ behind)))
        (mark ":" ++ (mark "&" ++ type.tokens ++ behind)) := by
      cases deep with
      | deepen => exact passes_namePattern isName ⟨.mark (by decide), rfl, rfl, rfl⟩
    have follows : EndsType behind := by
      rcases ends with rfl | rfl
      · exact .nil
      · have comma : EndsType (Token.ofOperator "," ++ []) := .mark (by decide)
        rwa [List.append_nil] at comma
    have reference : Passes (g.type true) (mark "&" ++ type.tokens ++ behind) behind := by
      rw [List.append_assoc]
      cases deep with
      | deepen deep => exact passes_reference path.isPath (path.taken deep) follows
    have mutable : (Identifier.plain called).isWord "mut" = false :=
      Identifier.isWord_of_isName isName (by decide)
    have receiver : (Identifier.plain called).isWord "self" = false :=
      Identifier.isWord_of_isName isName (by decide)
    have argument : Takes (g.functionArgument false)
        (word called ++ (mark ":" ++ (mark "&" ++ type.tokens ++ behind))) behind (· = false) :=
      takes_argument mutable receiver bound rfl reference
    have shape : Template.borrowed called type.tokens ++ behind = Token.ofOperator "&" ++
        Token.ofWord "self" :: (Token.ofOperator "," ++
          (word called ++ (mark ":" ++ (mark "&" ++ type.tokens ++ behind)))) := by
      simp [Template.borrowed, Fragment.mark, word]
    rw [shape]
    exact TakesParameters.borrowed .word (List.cons_ne_nil _ _) argument ends

/-! ## Functions -/

theorem Member.function (isName : IsPathWord called) (parameters : Parameters depth inner)
    (result : PathType depth type) (block : Block depth body) :
    Member depth (Template.function called inner type.tokens body) where
  taken {g} deep := by
    refine ⟨fun _ => .word, nofun, fun rest => ?_⟩
    have resulting : g.TakesResult type.tokens := fun inner rest =>
      (result.taken deep true (Token.enclosed .brace inner :: rest) nofun).passes
    simpa [Template.function, words, word, mark, parens, braces] using
      takes_function isName (parameters.taken deep) resulting (block.taken deep)

/-- How a function begins, up to the first statement of its body. -/
structure Opening (depth : Nat) (called : String) (inner : Tokens) (type : TypeExpr)
    (first : Tokens) : Prop where
  isName : IsPathWord called
  parameters : Parameters (depth + 1) inner
  result : PathType (depth + 1) type
  statement : Statement depth first

/-- A function whose statements stand between its first one and a call. -/
theorem Opening.member {callee : TypeExpr} {first last : Tokens} {statements : List Tokens}
    (opening : Opening (depth + 2) called inner type first) (isCallee : IsCallee callee)
    (accessed : Accessed depth last) (each : ∀ tokens ∈ statements, Statement (depth + 2) tokens) :
    Member (depth + 3) (Template.function called inner type.tokens
      (first ++ (statements.flatten ++ (callee.tokens ++ last)))) := by
  have block := isCallee.block (first :: statements) accessed
    (List.forall_mem_cons.mpr ⟨opening.statement, each⟩)
  rw [List.flatten_cons, List.append_assoc] at block
  exact .function opening.isName opening.parameters opening.result block

/-- Members of an implementation, one behind the other. -/
def Members (depth : Nat) (body : Tokens) : Prop :=
  ∃ members : List Tokens, body = members.flatten ∧ ∀ tokens ∈ members, Member depth tokens

theorem Members.one (member : Member depth body) : Members depth body :=
  ⟨[body], by simp, by simpa using member⟩

theorem Members.append (first : Members depth body) (second : Members depth tokens) :
    Members depth (body ++ tokens) := by
  obtain ⟨members, rfl, each⟩ := first
  obtain ⟨others, rfl, behind⟩ := second
  exact ⟨members ++ others, by simp, List.forall_mem_append.mpr ⟨each, behind⟩⟩

end Source.Grammar

/-! ## The functions of units -/

namespace Template

variable {backend : Backend} {runtime host : TypeExpr} {model : TypeModel} {name : String}

theorem isPathWord_locatorMethod (offered : backend ∈ Backend.all) :
    IsPathWord backend.locatorMethod := by
  have each : ∀ backend ∈ Backend.all, IsPathWord backend.locatorMethod := by decide
  exact each backend offered

theorem isPathWord_mappingType (offered : backend ∈ Backend.all) :
    IsPathWord backend.mappingType := by
  have each : ∀ backend ∈ Backend.all, IsPathWord backend.mappingType := by decide
  exact each backend offered

theorem operand_arguments (runtime : Fragment) (condition : KeyCondition) :
    Operand 1 (condition.arguments runtime) := by
  have plain : IsPlain (.rooted ["std", "vec"]) := isPlain_rooted (by simp) (by decide)
  simpa [KeyCondition.arguments, TypeExpr.tokens_rooted] using Operand.macro plain

theorem block_query (locator : String) (condition : Option KeyCondition)
    (offered : backend ∈ Backend.all) (plain : IsPlain runtime) (isName : IsPathWord name) :
    Block 5 (query backend runtime.tokens name locator condition) := by
  have callee : IsCallee (runtime.under [name, "builder"]) :=
    isCallee_under plain (by simp) (by simpa using ⟨isName, by decide⟩)
  have build : Accessed 2 (method "build" [] ++ []) := .method (by decide) .none .none
  have block : ∀ {behind}, Accessed 2 behind → Block 5 (runtime.tokens ++ below [name, "builder"] ++
      (parens [] ++ (method backend.locatorMethod (text locator) ++ behind))) := by
    intro behind accessed
    have located := accessed.method (isPathWord_locatorMethod offered) (.one (.text locator))
    simpa [tokens_under plain.isPath] using callee.block [] (located.call .none) nofun
  cases condition with
  | none => simpa [query] using block build
  | some condition =>
      have keys := build.method (by decide : IsPathWord "where_args")
        (.one (operand_arguments runtime.tokens condition).expression)
      have clause := keys.method (by decide : IsPathWord "where_clause")
        (.one (.text condition.clause))
      simpa [query] using block clause

/-- A function that builds the query for a borrowed object. -/
theorem member_query {function object : String} (locator : String) (condition : Option KeyCondition)
    (offered : backend ∈ Backend.all) (plain : IsPlain runtime) (isHost : IsPlain host)
    (isFunction : IsPathWord function) (isObject : IsPathWord object) (isName : IsPathWord name) :
    Member 13 (Template.function function (borrowed object host.tokens)
      (runtime.tokens ++ below [name]) (query backend runtime.tokens name locator condition)) := by
  have path : PathType 12 host := (PathType.ofPlain isHost).mono (by decide)
  have parameters := path.borrowed isObject (.inl rfl)
  have result : PathType 13 (runtime.under [name]) :=
    (PathType.ofPlain (plain.under (by simpa using isName))).mono (by decide)
  have block := (block_query locator condition offered plain isName).mono (by decide : 5 ≤ 13)
  simpa [tokens_under plain.isPath] using Member.function isFunction parameters result block

theorem members_delete (offered : backend ∈ Backend.all) (plain : IsPlain runtime)
    (isHost : IsPlain host) : Members 13 (deleteBody backend runtime.tokens host.tokens model) :=
  .one (member_query _ _ offered plain isHost (by decide) (by decide) (by decide))

/-- The statement that makes column values for so many columns. -/
def capacity (runtime : Fragment) (columns : Nat) : Fragment :=
  words ["let", "mut", "content_values"] ++ (mark "=" ++
    (runtime ++ below ["ContentValues", "with_capacity"] ++
      parens [Token.literal (toString columns ++ "usize") .start] ++ mark ";"))

/-- The function that puts the fields of an object into column values. -/
theorem opening_values {columns : Nat} (plain : IsPlain runtime) (isHost : IsPlain host) :
    Opening 12 "map_to_content_values" (borrowed "object" host.tokens)
      (runtime.under ["ContentValues"]) (capacity runtime.tokens columns) := by
  have path : PathType 12 host := (PathType.ofPlain isHost).mono (by decide)
  have size : Expression 2 [Token.literal (toString columns ++ "usize") .start] :=
    Operand.literal.expression
  have reserved : Operand 3 ((runtime.under ["ContentValues", "with_capacity"]).tokens ++
      (parens [Token.literal (toString columns ++ "usize") .start] ++ [])) :=
    .path (plain.under (by decide)) (.call (.one size) .none)
  have binding := reserved.expression.binding fun deep =>
    takesPattern_mutable (by decide : IsPathWord "content_values") (deep.mono (by decide))
  have parameters := path.borrowed (by decide : IsPathWord "object") (.inl rfl)
  rw [List.append_nil] at parameters
  refine ⟨by decide, parameters, (PathType.ofPlain (plain.under (by decide))).mono (by decide), ?_⟩
  simpa [capacity, tokens_under plain.isPath, words] using binding.mono (by decide : 4 ≤ 12)

/-- The functions of a put, the last of them with a statement for each column. -/
theorem putBody_eq (plain : IsPlain runtime) :
    putBody backend runtime.tokens host.tokens model =
      [function "map_to_insert_query" (borrowed "_object" host.tokens)
        (runtime.tokens ++ below ["InsertQuery"]) (query backend runtime.tokens "InsertQuery"
          (model.locators.resolve .insert) none),
      function "map_to_update_query" (borrowed "object" host.tokens)
        (runtime.tokens ++ below ["UpdateQuery"]) (query backend runtime.tokens "UpdateQuery"
          (model.locators.resolve .update) (some (.ofModel model)))].flatten ++
      function "map_to_content_values" (borrowed "object" host.tokens)
        (runtime.under ["ContentValues"]).tokens (capacity runtime.tokens model.columns.length ++
          ((model.contentPuts.map (·.tokens)).flatten ++
            ((Naming.pathType [.plain "content_values"]).tokens ++ []))) := by
  simp [putBody, capacity, tokens_under plain.isPath, tokens_word, words, below,
    List.flatMap_def]

/-- The queries of a put. -/
theorem members_queries (offered : backend ∈ Backend.all) (plain : IsPlain runtime)
    (isHost : IsPlain host) (insert update : String) (condition : Option KeyCondition) :
    ∀ tokens ∈ [function "map_to_insert_query" (borrowed "_object" host.tokens)
        (runtime.tokens ++ below ["InsertQuery"]) (query backend runtime.tokens "InsertQuery"
          insert none),
      function "map_to_update_query" (borrowed "object" host.tokens)
        (runtime.tokens ++ below ["UpdateQuery"]) (query backend runtime.tokens "UpdateQuery"
          update condition)], Member 13 tokens := by
  refine List.forall_mem_cons.mpr ⟨?_, List.forall_mem_singleton.mpr ?_⟩
  · exact member_query _ _ offered plain isHost (by decide) (by decide) (by decide)
  · exact member_query _ _ offered plain isHost (by decide) (by decide) (by decide)

theorem members_put (offered : backend ∈ Backend.all) (plain : IsPlain runtime)
    (isHost : IsPlain host) (named : ∀ column ∈ model.columns, column.field.isName = true) :
    Members 13 (putBody backend runtime.tokens host.tokens model) := by
  rw [putBody_eq plain]
  refine .append ⟨_, rfl, members_queries offered plain isHost _ _ _⟩ (.one ?_)
  refine (opening_values plain isHost).member (isCallee_word (by decide)) .none ?_
  simp only [TypeModel.contentPuts, List.map_map, List.forall_mem_map]
  exact fun column inside => (ContentPut.statement (named column inside)).mono (by decide)

/-- The statement that makes an object. -/
def fresh (host : Fragment) : Fragment :=
  words ["let", "mut", "object"] ++ (mark "=" ++
    (angled (host ++ word "as" ++ below ["core", "default", "Default"]) ++ below ["default"] ++
      parens [] ++ mark ";"))

/-- The function that reads the fields of an object from a row. -/
theorem opening_cursor (plain : IsPlain runtime) (isHost : IsPlain host) :
    Opening 12 "map_from_cursor"
      (borrowed "cursor" (runtime.under ["Cursor"]).tokens ++ mark ",")
      ((TypeExpr.rooted ["core", "result"]).applied "Result" [host, runtime.under ["Error"]])
      (fresh host.tokens) := by
  have cursor : PathType 12 (runtime.under ["Cursor"]) :=
    (PathType.ofPlain (plain.under (by decide))).mono (by decide)
  have error : PathType 12 (runtime.under ["Error"]) :=
    (PathType.ofPlain (plain.under (by decide))).mono (by decide)
  have read : PathType 12 host := (PathType.ofPlain isHost).mono (by decide)
  have default : Operand 2 (angled (host.tokens ++ word "as" ++
      below ["core", "default", "Default"]) ++ below ["default"] ++ (parens [] ++ [])) :=
    .qualified isHost (by simp) (by decide) (by decide) (.call .none .none)
  have binding := default.expression.binding fun deep =>
    takesPattern_mutable (by decide : IsPathWord "object") (deep.mono (by decide))
  refine ⟨by decide, cursor.borrowed (by decide) (.inr rfl), ?_, ?_⟩
  · exact .applied (isPlain_rooted (by simp) (by decide)) (by decide) (by simp)
      (by simpa using ⟨read, error⟩)
  · simpa [fresh, words] using binding.mono (by decide : 3 ≤ 12)

/-- The function of a get, with a statement for each column. -/
theorem getBody_eq (plain : IsPlain runtime) :
    getBody runtime.tokens host.tokens model =
      function "map_from_cursor" (borrowed "cursor" (runtime.under ["Cursor"]).tokens ++ mark ",")
        ((TypeExpr.rooted ["core", "result"]).applied "Result"
          [host, runtime.under ["Error"]]).tokens
        (fresh host.tokens ++ ((model.cursorReads.map (·.tokens)).flatten ++
          ((TypeExpr.rooted ["core", "result", "Result", "Ok"]).tokens ++
            (parens (word "object") ++ [])))) := by
  have outcome : IsPlain (.rooted ["core", "result"]) := isPlain_rooted (by simp) (by decide)
  simp [getBody, fresh, borrowed, tokens_under plain.isPath, tokens_applied outcome.isPath,
    TypeExpr.tokens_rooted, words, below, listed, List.flatMap_def]

theorem members_get (plain : IsPlain runtime) (isHost : IsPlain host)
    (named : ∀ column ∈ model.columns, column.field.isName = true) :
    Members 13 (getBody runtime.tokens host.tokens model) := by
  have object : Operand 1 (word "object") := .word (by decide) .none
  have filled : Accessed 10 (parens (word "object") ++ []) :=
    .call (.one (object.expression.mono (by decide))) .none
  rw [getBody_eq plain]
  have ok : IsCallee (.rooted ["core", "result", "Result", "Ok"]) :=
    isCallee_rooted (by simp) (by decide)
  refine .one ((opening_cursor plain isHost).member ok filled ?_)
  simp only [TypeModel.cursorReads, List.map_map, List.forall_mem_map]
  exact fun column inside => CursorRead.statement (named column inside)

/-! ## The functions of mappings -/

section Mapping

variable {mapping put get delete : Identifier}

theorem operand_name (isName : mapping.isName = true) : Operand 1 (Fragment.name mapping) := by
  have plain : IsPlain (Naming.pathType [mapping]) :=
    isPlain_pathType (by simp) (by simpa using .inl isName)
  have operand : Operand 1 ((Naming.pathType [mapping]).tokens ++ []) := .path plain .none
  rwa [List.append_nil, tokens_pathType] at operand

theorem expression_boxed (isName : mapping.isName = true) : Expression 4 (boxed mapping) := by
  have new : Operand 3 (below ["std", "boxed", "Box", "new"] ++
      (parens (Fragment.name mapping) ++ [])) :=
    .rooted (by simp) (by decide) (.call (.one (operand_name isName).expression) .none)
  simpa [boxed] using new.expression

theorem isPlain_self : IsPlain (Naming.pathType [.plain "Self"]) :=
  isPlain_pathType (by simp) fun name member => by
    rw [List.mem_singleton.mp member]
    exact .inr ⟨"Self", by decide, rfl⟩

/-- A mapping is made of its resolvers. -/
theorem members_from (offered : backend ∈ Backend.all) (plain : IsPlain runtime)
    (isName : mapping.isName = true)
    (resolvers : ∀ resolver ∈ [put, get, delete], resolver.isName = true) :
    Members 13 (function "from" (word "_" ++ mark ":" ++ Fragment.name mapping) (word "Self")
      (runtime.tokens ++ below [backend.mappingType] ++ below ["new"] ++
        parens ([put, get, delete].flatMap fun resolver => boxed resolver ++ mark ","))) := by
  obtain ⟨putNamed, getNamed, deleteNamed⟩ : put.isName = true ∧ get.isName = true ∧
      delete.isName = true := by simpa using resolvers
  have argument : PathType 12 (Naming.pathType [mapping]) :=
    (PathType.ofPlain (isPlain_pathType (by simp) (by simpa using .inl isName))).mono (by decide)
  have result : PathType 13 (Naming.pathType [.plain "Self"]) :=
    (PathType.ofPlain isPlain_self).mono (by decide)
  have arguments : Arguments 4 (boxed put ++ (mark "," ++ (boxed get ++ (mark "," ++
      (boxed delete ++ (mark "," ++ [])))))) :=
    .more (expression_boxed putNamed) (.more (expression_boxed getNamed)
      (.more (expression_boxed deleteNamed) .none))
  have callee : IsCallee (runtime.under [backend.mappingType, "new"]) :=
    isCallee_under plain (by simp) (by simpa using ⟨isPathWord_mappingType offered, by decide⟩)
  have block := callee.block [] (.call arguments .none) nofun
  have function := Member.function (by decide : IsPathWord "from") (.blank argument) result
    (block.mono (by decide))
  refine .one ?_
  simpa [tokens_under plain.isPath, tokens_pathType, Naming.pathTokens, Fragment.name, word, below,
    Token.ofWord, Token.ofIdentifier] using function

/-- A type is mapped by its mapping. -/
theorem members_typeMapped (offered : backend ∈ Backend.all) (plain : IsPlain runtime)
    (isName : mapping.isName = true) :
    Members 13 (function "type_mapping" []
      (runtime.tokens ++ below [backend.mappingType] ++ angled (word "Self"))
      (below ["core", "convert", "From", "from"] ++ parens (Fragment.name mapping))) := by
  have self : PathType 12 (Naming.pathType [.plain "Self"]) :=
    (PathType.ofPlain isPlain_self).mono (by decide)
  have result := PathType.applied plain (isPathWord_mappingType offered)
    (by simp : [Naming.pathType [.plain "Self"]] ≠ []) (by simpa using self)
  have callee : IsCallee (.rooted ["core", "convert", "From", "from"]) :=
    isCallee_rooted (by simp) (by decide)
  have block := callee.block [] (.call (.one (operand_name isName).expression) .none) nofun
  have function := Member.function (by decide : IsPathWord "type_mapping") .none result
    (block.mono (by decide))
  refine .one ?_
  simpa [tokens_applied plain.isPath, TypeExpr.tokens_rooted, tokens_word, listed] using function

end Mapping

end Template

end StorageMapping
