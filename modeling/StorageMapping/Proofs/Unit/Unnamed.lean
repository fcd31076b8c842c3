import StorageMapping.Proofs.Source.Refusals
import StorageMapping.Proofs.Unit.Headlines

namespace StorageMapping

/-! # Fields without a name

A text may have a field without a name. What puts or reads such a field is no statement: nothing can
select it. -/

open Source Source.Grammar Fragment
open Source.Parser (Passes Refuses)

namespace Source.Grammar

variable {g : Grammar} {tokens rest inner : Tokens} {allowStruct : Bool} {depth : Nat}

/-- Tokens that a block can go on with, and no statement of a grammar that nests so deep. -/
structure Refused (depth : Nat) (tokens : Tokens) : Prop where
  begins : ∀ rest, EndsBlock (tokens ++ rest)
  present : tokens ≠ []
  refused : ∀ {g : Grammar}, g.Deep depth → ∀ rest, Refuses g.statement (tokens ++ rest)

theorem Refused.mono {other : Nat} (refused : Refused depth tokens) (fewer : depth ≤ other) :
    Refused other tokens :=
  ⟨refused.begins, refused.present, fun deep => refused.refused (deep.mono fewer)⟩

/-- The object whose unnamed field is selected. -/
theorem refuses_unnamed (deep : g.Deep 1) :
    Refuses (g.operand allowStruct) (Fragment.field "object" (.plain "_") ++ rest) := by
  have object : IsPlain (Naming.pathType [.plain "object"]) := isPlain_word (by decide)
  have ends : EndsAtom allowStruct (Token.ofOperator "." ++ Token.ofWord "_" :: rest) :=
    ⟨.mark (by decide), fun _ => rfl⟩
  cases deep with
  | deepen =>
      simpa [Fragment.field, Fragment.name, mark, word, tokens_word, Token.ofWord,
        Token.ofIdentifier] using
        refuses_operand object ends refuses_selection

theorem refuses_unnamedReference (deep : g.Deep 2) :
    Refuses (g.operand allowStruct) (mark "&" ++ Fragment.field "object" (.plain "_") ++ rest) := by
  rw [List.append_assoc]
  cases deep with
  | deepen deep =>
      exact refuses_reference (refuses_unnamed deep) (.ofSegment (.inl rfl) _) rfl

/-- The copy of an unnamed field. -/
theorem refuses_unnamedClone (deep : g.Deep 5) :
    Refuses (g.expression true)
      (clone (mark "&" ++ Fragment.field "object" (.plain "_")) ++ rest) := by
  have path : IsPlain (.rooted ["core", "clone", "Clone", "clone"]) :=
    isPlain_rooted (by simp) (by decide)
  cases deep with
  | deepen deep => cases deep with
    | @deepen _ g deep =>
        have reference : Refuses (g.expression true)
            (mark "&" ++ Fragment.field "object" (.plain "_") ++ []) := by
          cases deep with
          | deepen deep => exact refuses_expression (refuses_unnamedReference deep)
        rw [List.append_nil] at reference
        have arguments : Refuses g.expressions (mark "&" ++ Fragment.field "object" (.plain "_")) :=
          refuses_arguments (.here (fun found alike => by simp [alike.looks]; nofun) reference)
        have ends : EndsAtom true
            (parens (mark "&" ++ Fragment.field "object" (.plain "_")) ++ rest) :=
          ⟨nofun, fun _ => rfl⟩
        have operand := refuses_operand path ends (refuses_call arguments)
        rw [TypeExpr.tokens_rooted (by simp), ← List.append_assoc] at operand
        exact refuses_expression operand

/-- A statement is refused with what is done to the path at its front. -/
theorem IsCallee.refused {type : TypeExpr} (callee : IsCallee type) (deep : g.Deep (depth + 2))
    (clear : Tokens.Clear [':', '!'] tokens) (braceless : tokens.atGroup .brace = false)
    (wordless : tokens.atAnyWord = false)
    (refused : ∀ {g : Grammar}, g.Deep depth → Refuses (g.accesses .plain) tokens) :
    Refuses g.statement (type.tokens ++ tokens) := by
  refine refuses_statement (callee.plain.beginsBody callee.inside clear wordless) ?_
  cases deep with
  | deepen deep => cases deep with
    | deepen deep =>
        exact refuses_pathBody (callee.plain.isPath.begins tokens)
          (refuses_operand callee.plain ⟨clear, fun _ => braceless⟩ (refused deep))

end Source.Grammar

namespace ContentPut

variable {g : Grammar} {put : ContentPut}

theorem refuses_arguments (column : String) (deep : g.Deep 5) :
    Refuses g.expressions (text column ++
      (mark "," ++ clone (mark "&" ++ Fragment.field "object" (.plain "_")))) := by
  have text : Expression 2 (text column) := .text column
  have first := ((text.taken (deep.mono (by decide))).taken
    (mark "," ++ clone (mark "&" ++ Fragment.field "object" (.plain "_"))) .comma)
  have second : Refuses (g.expression true)
      (clone (mark "&" ++ Fragment.field "object" (.plain "_")) ++ []) := refuses_unnamedClone deep
  rw [List.append_nil] at second
  refine Grammar.refuses_arguments (.later ?_ first ?_ ?_ (.here ?_ second))
  · intro found alike
    simp only [alike.looks]
    rfl
  · intro found alike
    simp only [alike.looks]
    rfl
  · simp only [List.length_append]
    exact Nat.lt_add_left _ (Nat.lt_add_of_pos_left Nat.one_pos)
  · intro found alike
    simp only [alike.looks]
    rfl

theorem refused_put (column : String) :
    Refused 8 (ContentPut.put column (mark "&" ++ Fragment.field "object" (.plain "_"))) where
  begins rest := ⟨nofun, rfl⟩
  present := nofun
  refused {g} deep rest := by
    have callee : IsCallee (Naming.pathType [.plain "content_values"]) := isCallee_word (by decide)
    have refused : Refuses g.statement ((Naming.pathType [.plain "content_values"]).tokens ++
        (Token.ofOperator "." ++ Token.ofWord "put" :: Token.enclosed .parenthesis (text column ++
          (mark "," ++ clone (mark "&" ++ Fragment.field "object" (.plain "_")))) ::
            (mark ";" ++ rest))) :=
      callee.refused deep (.mark (by decide)) rfl rfl fun deep =>
        refuses_method (by decide) (refuses_arguments column (deep.mono (by decide)))
    simpa [ContentPut.put, tokens_word, method_append] using refused

theorem refused_present (body : Fragment) :
    Refused 8 (Fragment.word "if" ++ (Fragment.word "let" ++
      (below ["core", "option", "Option", "Some"] ++ parens (Fragment.word "value") ++
        (mark "=" ++ (mark "&" ++ Fragment.field "object" (.plain "_") ++ braces body))))) where
  begins rest := ⟨nofun, rfl⟩
  present := nofun
  refused {g} deep rest := by
    have begins : ∀ rest,
        BeginsPath (below ["core", "option", "Option", "Some"] ++ rest) := fun rest => by
      rw [← TypeExpr.tokens_rooted (by simp)]
      exact (isPlain_rooted (by simp) (by decide)).isPath.begins rest
    have bound : ∀ {g : Grammar}, g.Deep 2 → g.TakesPattern
        (below ["core", "option", "Option", "Some"] ++ parens (Fragment.word "value")) :=
      fun deep => takesPattern_wrapping (by simp) (by decide) (by decide) deep
    have unbarred : ∀ rest, Tokens.Clear ['|'] (below ["core", "option", "Option", "Some"] ++
        parens (Fragment.word "value") ++ rest) := fun rest => by
      rw [List.append_assoc]
      exact (begins _).clear.fewer (by decide)
    have shape : Fragment.word "if" ++ (Fragment.word "let" ++
        (below ["core", "option", "Option", "Some"] ++ parens (Fragment.word "value") ++
          (mark "=" ++ (mark "&" ++ Fragment.field "object" (.plain "_") ++ braces body)))) ++
        rest =
        Token.ofWord "if" :: Token.ofWord "let" ::
        ((below ["core", "option", "Option", "Some"] ++ parens (Fragment.word "value")) ++
          (Token.ofOperator "=" ++ (mark "&" ++ Fragment.field "object" (.plain "_") ++
            (braces body ++ rest)))) := by
      simp [Fragment.word, mark]
    rw [shape]
    refine refuses_statement .condition ?_
    cases deep with
    | deepen deep =>
        refine refuses_blockBody .word (fun _ alike => blockExpression?_if alike) (refuses_if ?_)
        cases deep with
        | deepen deep => cases deep with
          | deepen deep => cases deep with
            | deepen deep =>
                have deepened := (Deep.deepen deep).mono (by decide : 2 ≤ 5)
                exact refuses_let (bound deepened) unbarred (refuses_unnamedReference deepened)

/-- An unnamed field is not put. -/
theorem refused (unnamed : put.field = .plain "_") : Refused 8 put.tokens := by
  rw [tokens, unnamed]
  split
  · simpa [words] using refused_present (ContentPut.put put.column (Fragment.word "value"))
  · exact refused_put put.column

end ContentPut

namespace CursorRead

variable {read : CursorRead}

theorem refused_assignment (assigned : Fragment) :
    Refused 4 (Fragment.field "object" (.plain "_") ++ assigned) where
  begins rest := ⟨nofun, rfl⟩
  present := nofun
  refused {g} deep rest := by
    have callee : IsCallee (Naming.pathType [.plain "object"]) := isCallee_word (by decide)
    have refused : Refuses g.statement ((Naming.pathType [.plain "object"]).tokens ++
        (Token.ofOperator "." ++ Token.ofWord "_" :: (assigned ++ rest))) :=
      callee.refused deep (.mark (by decide)) rfl rfl fun _ => refuses_selection
    simpa [Fragment.field, Fragment.name, mark, tokens_word, Token.ofWord, Token.ofIdentifier]
      using refused

/-- An unnamed field is not read. -/
theorem refused (unnamed : read.field = .plain "_") : Refused 8 read.tokens where
  begins rest := ⟨nofun, rfl⟩
  present := nofun
  refused {g} deep rest := by
    rw [tokens_eq, unnamed]
    have statements : ∀ tokens ∈ [read.lookupTokens], Statement 5 tokens :=
      List.forall_mem_singleton.mpr read.statement_lookupTokens
    have assignment := refused_assignment (mark "=" ++ (read.assignedTokens ++ mark ";"))
    refine refuses_statement .braces ?_
    cases deep with
    | deepen deep =>
        refine refuses_blockBody nofun (fun _ => blockExpression?_braces) ?_
        cases deep with
        | deepen deep =>
            have begins := assignment.begins []
            have last := assignment.refused (deep.mono (by decide)) []
            rw [List.append_nil] at begins last
            refine (refuses_block (fun tokens member => ?_) begins assignment.present last).first
            exact (statements tokens member).taken (deep.mono (by decide))

end CursorRead

/-! ## Functions -/

namespace Source.Grammar

variable {g : Grammar} {inner first behind rest : Tokens} {type : TypeExpr} {called : String}
    {depth : Nat} {columns : List Column}

/-- A function is refused with one of the statements behind its first. -/
theorem Opening.refused {front : List Tokens} {tokens : Tokens}
    (opening : Opening depth called inner type first)
    (each : ∀ tokens ∈ front, Statement depth tokens) (refused : Refused depth tokens)
    (deep : g.Deep (depth + 1)) :
    Refuses g.implementationMember (Template.function called inner type.tokens
      (first ++ (front.flatten ++ (tokens ++ behind)))) := by
  have resulting : g.TakesResult type.tokens := fun inner rest =>
    (opening.result.taken deep true (Token.enclosed .brace inner :: rest) nofun).passes
  have block : Refuses g.block (Token.enclosed .brace
      ((first :: front).flatten ++ (tokens ++ behind)) :: []) := by
    cases deep with
    | deepen deep =>
        refine refuses_block (fun statement member => ?_) (refused.begins behind)
          (by simp [refused.present]) (refused.refused deep behind)
        exact (List.forall_mem_cons.mpr ⟨opening.statement, each⟩ statement member).taken deep
  simpa [Template.function, words, word, mark, parens, braces] using
    refuses_function opening.isName (opening.parameters.taken deep) resulting block

/-- The statements for columns, up to the first whose field has no name. -/
theorem refused_columns (statement : Column → Tokens)
    (named : ∀ column, column.field.isName = true → Statement depth (statement column))
    (unnamed : ∀ column, column.field = .plain "_" → Refused depth (statement column))
    (fields : ∀ column ∈ columns, column.field.isName = true ∨ column.field = .plain "_")
    (one : ∃ column ∈ columns, column.field = .plain "_") :
    ∃ (front : List Tokens) (tokens behind : Tokens),
      (columns.map statement).flatten = front.flatten ++ (tokens ++ behind) ∧
        (∀ tokens ∈ front, Statement depth tokens) ∧ Refused depth tokens := by
  obtain ⟨column, inside, isUnnamed⟩ := one
  obtain ⟨found, known⟩ := Option.isSome_iff_exists.mp
    (List.find?_isSome.mpr ⟨column, inside, beq_iff_eq.mpr isUnnamed⟩ :
      (columns.find? (·.field == .plain "_")).isSome = true)
  obtain ⟨isFirst, front, behind, rfl, others⟩ := List.find?_eq_some_iff_append.mp known
  refine ⟨front.map statement, statement found, (behind.map statement).flatten, by simp, ?_,
    unnamed found (beq_iff_eq.mp isFirst)⟩
  refine List.forall_mem_map.mpr fun column inFront => named column ?_
  exact (fields column (List.mem_append_left _ inFront)).resolve_right
    (by simpa using others column inFront)

end Source.Grammar

/-! ## Units -/

namespace Template

variable {g : Grammar} {backend : Backend} {runtime host : TypeExpr} {model : TypeModel}
    {name : Identifier} {body rest : Tokens}

theorem refuses_put (offered : backend ∈ Backend.all) (plain : IsPlain runtime)
    (isHost : IsPlain host)
    (fields : ∀ column ∈ model.columns, column.field.isName = true ∨ column.field = .plain "_")
    (one : ∃ column ∈ model.columns, column.field = .plain "_") (deep : g.Deep 13) :
    Refuses (g.members g.implementationMember)
      (Token.enclosed .brace (putBody backend runtime.tokens host.tokens model) :: rest) := by
  obtain ⟨front, tokens, behind, split, each, refused⟩ := refused_columns
    (fun column => (ContentPut.ofColumn column).tokens)
    (fun column isName => (ContentPut.statement isName).mono (by decide : 8 ≤ 12))
    (fun column unnamed => (ContentPut.refused unnamed).mono (by decide)) fields one
  rw [putBody_eq plain, TypeModel.contentPuts, List.map_map, Function.comp_def, split,
    List.append_assoc, List.append_assoc]
  refine refuses_members (fun tokens member => ?_) .word (List.cons_ne_nil _ _) ?_
  · exact (members_queries offered plain isHost _ _ _ tokens member).taken deep
  · exact (opening_values plain isHost).refused each refused deep

theorem refuses_get (plain : IsPlain runtime) (isHost : IsPlain host)
    (fields : ∀ column ∈ model.columns, column.field.isName = true ∨ column.field = .plain "_")
    (one : ∃ column ∈ model.columns, column.field = .plain "_") (deep : g.Deep 13) :
    Refuses (g.members g.implementationMember)
      (Token.enclosed .brace (getBody runtime.tokens host.tokens model) :: rest) := by
  obtain ⟨front, tokens, behind, split, each, refused⟩ := refused_columns
    (fun column => (CursorRead.ofColumn column).tokens)
    (fun column isName => CursorRead.statement isName)
    (fun column unnamed => (CursorRead.refused unnamed).mono (by decide)) fields one
  rw [getBody_eq plain, TypeModel.cursorReads, List.map_map, Function.comp_def, split,
    List.append_assoc, List.append_assoc]
  have none : ∀ tokens ∈ [], g.TakesMember tokens := List.forall_mem_nil _
  exact refuses_members none .word (List.cons_ne_nil _ _)
    ((opening_cursor plain isHost).refused each refused deep)

/-- A resolver is refused with its functions. -/
theorem refuses_resolver (kind : UnitKind) (plain : IsPlain runtime) (isHost : IsPlain host)
    (isName : name.isName = true) (deep : g.Deep 13)
    (refused : Refuses (g.members g.implementationMember) [Token.enclosed .brace body]) :
    Refuses g.oneItem (implementation (resolverTrait runtime.tokens host.tokens kind)
      (Fragment.name name) body) := by
  have trait := pathType_resolver kind plain isHost
  have self := pathType_name isName
  have refused := refuses_implementation trait.isPath (trait.taken deep)
    (self.taken (deep.mono (by decide))) refused
  rw [tokens_applied plain.isPath, tokens_pathType] at refused
  simpa [implementation, resolverTrait, Naming.pathTokens, Fragment.name, word, braces, listed]
    using refused

end Template

namespace Generator

variable {generator : Generator} {context : GenerationContext} {model : TypeModel}
    {unit : GeneratedUnit} {names : List Identifier}

/-- The code that puts or gets an unnamed field is no file. -/
theorem file_eq_error {text : String} (offered : generator.backend ∈ Backend.all)
    (runtime : Reader.path text = .ok context.runtime) (plain : IsPlain context.runtime)
    (fields : ∀ column ∈ model.columns, column.field.InField)
    (generated : generator.generate context model = .ok unit)
    (used : unit.kind = .put ∨ unit.kind = .get)
    (one : ∃ column ∈ model.columns, column.field = .plain "_") :
    ∃ fault, Reader.file unit.code = .error fault := by
  have named : ∀ column ∈ model.columns, column.field.isName = true ∨ column.field = .plain "_" :=
    fun column inside => (fields column inside).named
  obtain ⟨found, read, alike, unmarked⟩ := read_code offered (Reader.path_tidy runtime)
    (fun column inside => (fields column inside).legal) generated
  obtain ⟨tokens, written, rfl⟩ := generate_eq_ok.mp generated
  obtain ⟨names, identifier, items, hosted, known, itemized, rfl⟩ := tokens_eq_ok.mp written
  have isName := UnitNaming.isName_of_unitIdentifier known
  have isHost := Naming.isPlain_hostNames hosted
  rw [← tokens_pathType names] at itemized
  have refused : items ≠ [] ∧ ∀ {g : Grammar}, g.Deep 24 → Refuses g.oneItem items := by
    cases itemized with
    | put same =>
        refine ⟨nofun, fun {g} deep => ?_⟩
        have shallow : g.Deep 13 := deep.mono (by decide)
        exact Template.refuses_resolver _ plain isHost isName shallow
          (Template.refuses_put offered plain isHost named one shallow)
    | get same =>
        refine ⟨nofun, fun {g} deep => ?_⟩
        have shallow : g.Deep 13 := deep.mono (by decide)
        exact Template.refuses_resolver _ plain isHost isName shallow
          (Template.refuses_get plain isHost named one shallow)
    | delete same => simp [same] at used
    | mapping same => simp [same] at used
  exact Reader.file_eq_error (Template.begins_definition isName) refused.1 refused.2 read alike
    unmarked

end Generator

end StorageMapping
