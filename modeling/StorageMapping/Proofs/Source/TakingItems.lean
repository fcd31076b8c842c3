import StorageMapping.Proofs.Source.TakingStatements

namespace StorageMapping.Source

open StorageMapping.Source.Parser

namespace Grammar

variable {g : Grammar} {tokens middle rest inner result body : Tokens} {name : Identifier}
    {position : Position} {type : TypeExpr} {isFirst : Bool}

/-! # Items are taken

An empty struct and implementations of traits whose members are functions. -/

/-! ## Arguments of functions -/

theorem takes_receiver :
    Takes (g.functionArgument true) (Token.ofOperator "&" ++ Token.ofWord "self" :: rest) rest
      (· = false) := by
  have received : Passes g.receiver (Token.ofOperator "&" ++ Token.ofWord "self" :: rest) rest := by
    refine .bind .acceptOperator fun accepted holds => .ahead fun found alike => ?_
    subst holds
    refine .second ?_ (.bind (.declineWord rfl) fun _ _ => .seq .word fun _ => .result trivial)
    have other : found.atLifetime = false := alike.looks.2.2.2.2.1
    simp [other]
  refine .bind (.declineOperator rfl) fun accepted absent => .second (by simp [absent]) ?_
  refine .bind (.attempt received) fun found some => .first ?_ (.first rfl (.result rfl))
  obtain ⟨value, rfl, _⟩ := some
  rfl

/-- An argument with a name or a blank in place of a pattern. -/
theorem takes_argument (mutable : name.isWord "mut" = false) (receiver : name.isWord "self" = false)
    (bound : Passes g.pattern
      (Token.word name position :: (Token.ofOperator ":" ++ (tokens ++ rest)))
      (Token.ofOperator ":" ++ (tokens ++ rest)))
    (dots : Tokens.atOperator "..." (tokens ++ rest) = false)
    (taken : Passes (g.type true) (tokens ++ rest) rest) :
    Takes (g.functionArgument isFirst)
      (Token.word name position :: (Token.ofOperator ":" ++ (tokens ++ rest))) rest
      (· = false) := by
  have refused : Refuses g.receiver
      (Token.word name position :: (Token.ofOperator ":" ++ (tokens ++ rest))) := by
    refine .bind (.declineOperator rfl) fun accepted absent => .ahead fun found alike => ?_
    subst absent
    refine .bind (.declineWord mutable) fun _ _ => .first (.word receiver)
  refine .bind (.declineOperator rfl) fun accepted absent => .second (by simp [absent]) ?_
  refine .bind (.attempt_refused refused) fun found absent => .second (by simp [absent]) ?_
  refine .ahead fun found alike => .second ?_ (.seq bound fun _ => .seq .operator fun _ => ?_)
  · have angle : (found.skip 1).atOperator "<" = false := (alike.skip 1).looks.2.2.2.2.2.2.1 _
    simp [angle]
  · refine .bind (.declineOperator dots) fun accepted absent => .second (by simp [absent]) ?_
    exact .seq taken fun _ => .result rfl

/-- The arguments between the parentheses of a function. -/
def TakesParameters (g : Grammar) (inner : Tokens) : Prop :=
  Passes (do g.functionArgumentsWithin true ((← ahead).length + 1)) inner []

theorem passes_noArguments : ∀ fuel, Passes (g.functionArgumentsWithin isFirst fuel) [] []
  | 0 => .result trivial
  | _ + 1 => .bind .atEnd_nil fun _ ended => .first ended (.result trivial)

section Arguments

variable {fuel : Nat} (unmarked : Tokens.Clear ['#'] tokens) (present : tokens ≠ [])

include unmarked present

/-- One step of the loop over arguments. -/
theorem passes_argumentsWithin
    (taken : Takes (g.functionArgument isFirst) tokens middle (· = false))
    (behind : Passes (do
      if ← atEnd then return
      operator ","
      g.functionArgumentsWithin false fuel) middle []) :
    Passes (g.functionArgumentsWithin isFirst (fuel + 1)) tokens [] := by
  obtain ⟨token, more, rfl⟩ := List.exists_cons_of_ne_nil present
  have attributes : Passes g.outerAttributes (token :: more) (token :: more) :=
    (Takes.manyWhile (.stop fun _ alike => (unmarked.alike alike).atOperator (by decide))).passes
  refine .bind .atEnd fun _ goes => .second (by simp [goes]) (.seq attributes fun _ => ?_)
  refine .bind taken fun isVariadic single => ?_
  subst single
  exact behind

theorem passes_lastArgument
    (taken : Takes (g.functionArgument isFirst) tokens [] (· = false)) :
    Passes (g.functionArgumentsWithin isFirst (fuel + 1)) tokens [] :=
  passes_argumentsWithin unmarked present taken <|
    .bind .atEnd_nil fun _ ended => .first ended (.result trivial)

theorem passes_moreArguments
    (taken : Takes (g.functionArgument isFirst) tokens (Token.ofOperator "," ++ middle)
      (· = false))
    (others : Passes (g.functionArgumentsWithin false fuel) middle []) :
    Passes (g.functionArgumentsWithin isFirst (fuel + 1)) tokens [] :=
  passes_argumentsWithin unmarked present taken <|
    .bind .atEnd fun _ goes => .second (by simp [goes]) (.seq .operator fun _ => others)

end Arguments

theorem TakesParameters.none : g.TakesParameters [] :=
  .ahead fun found _ => passes_noArguments (found.length + 1)

theorem TakesParameters.one (unmarked : Tokens.Clear ['#'] inner) (present : inner ≠ [])
    (taken : Takes (g.functionArgument true) inner [] (· = false)) : g.TakesParameters inner :=
  .ahead fun _ _ => passes_lastArgument unmarked present taken

/-- A receiver and one more argument, perhaps with a comma behind it. -/
theorem TakesParameters.borrowed (unmarked : Tokens.Clear ['#'] tokens) (present : tokens ≠ [])
    (taken : Takes (g.functionArgument false) tokens middle (· = false))
    (ends : middle = [] ∨ middle = Token.ofOperator ",") :
    g.TakesParameters (Token.ofOperator "&" ++ Token.ofWord "self" ::
      (Token.ofOperator "," ++ tokens)) := by
  refine .ahead fun found alike => ?_
  obtain ⟨fuel, long⟩ : ∃ fuel, found.length = fuel + 1 := ⟨tokens.length + 2, alike.length⟩
  rw [long]
  refine passes_moreArguments (.mark (by decide)) nofun takes_receiver ?_
  rcases ends with rfl | rfl
  · exact passes_lastArgument unmarked present taken
  · exact passes_moreArguments unmarked present taken (passes_noArguments fuel)

/-! ## Functions -/

/-- A type that is taken in front of a block. -/
def TakesResult (g : Grammar) (result : Tokens) : Prop :=
  ∀ inner rest, Passes (g.type true) (result ++ Token.enclosed .brace inner :: rest)
    (Token.enclosed .brace inner :: rest)

theorem passes_parameters (plain : tokens.atOperator "<" = false) :
    Takes g.parameters tokens tokens (· = 0) := by
  refine .ahead fun found alike => .second ?_ (.result rfl)
  simp [alike.looks, plain]

theorem passes_whereClause (absent : tokens.atWord "where" = false) :
    Passes g.whereClause tokens tokens :=
  .bind (.declineWord absent) fun _ absent => .second (by simp [absent]) (.result trivial)

theorem passes_returnType (taken : g.TakesResult result) :
    Passes (g.returnType true) (Token.ofOperator "->" ++
      (result ++ Token.enclosed .brace body :: rest)) (Token.enclosed .brace body :: rest) :=
  .bind .acceptOperator fun _ holds => .first holds (.bind (taken _ _) fun _ _ => .result trivial)

theorem passes_functionBody (block : g.TakesBlock body) :
    Passes g.functionBody (Token.enclosed .brace body :: rest) rest :=
  .bind (.declineOperator rfl) fun _ absent =>
    .second (by simp [absent]) (.bind (block _) fun _ _ => .result trivial)

theorem takes_private (absent : tokens.atWord "pub" = false) :
    Takes visibility tokens tokens (· = false) :=
  .bind (.declineWord absent) fun _ absent => .second (by simp [absent]) (.result rfl)

theorem passes_signature {called : String} (isName : (Identifier.plain called).isName = true)
    (arguments : g.TakesParameters inner) (taken : g.TakesResult result) :
    Passes (g.signature false) (Token.ofWord "fn" :: Token.ofWord called ::
      Token.enclosed .parenthesis inner :: (Token.ofOperator "->" ++
        (result ++ Token.enclosed .brace body :: rest))) (Token.enclosed .brace body :: rest) := by
  refine .bind (.declineWord rfl) fun _ _ => .bind (.declineWord rfl) fun _ _ => ?_
  refine .ahead fun _ _ => .second nofun (.bind (.declineWord rfl) fun _ _ => ?_)
  refine .bind (.declineWord rfl) fun _ absent => .second (by simp [absent]) ?_
  refine .seq .word fun _ => .bind (.name isName) fun _ _ => ?_
  refine .bind (passes_parameters rfl) fun _ _ => ?_
  refine .bind (.group arguments) fun _ _ => .seq (passes_returnType taken) fun _ => ?_
  exact .seq (passes_whereClause rfl) fun _ => .result trivial

theorem atFunction_fn {found : Tokens} (alike : Tokens.Alike found (Token.ofWord "fn" :: tokens)) :
    atFunction false found = true := by
  obtain ⟨place, tail, rfl, _⟩ := alike.word
  rfl

/-- A function with its arguments, its result and its body. -/
theorem takes_function {called : String} (isName : (Identifier.plain called).isName = true)
    (arguments : g.TakesParameters inner) (taken : g.TakesResult result)
    (block : g.TakesBlock body) :
    Passes g.implementationMember (Token.ofWord "fn" :: Token.ofWord called ::
      Token.enclosed .parenthesis inner :: (Token.ofOperator "->" ++
        (result ++ Token.enclosed .brace body :: rest))) rest := by
  refine .bind (.manyWhile (.stop fun _ alike => alike.looks.2.2.2.2.2.2.1 _)) fun _ _ => ?_
  refine .bind (takes_private rfl) fun _ _ => ?_
  refine .ahead fun found alike => .second ?_ (.ahead fun found alike => ?_)
  · have other : found.atWord "default" = false := alike.looks.1 _
    simp [other]
  refine .first (atFunction_fn alike) (.seq (passes_signature isName arguments taken) fun _ => ?_)
  exact .seq (passes_functionBody block) fun _ => .result trivial

/-! ## Implementations -/

/-- The tokens are a member of an implementation. -/
structure TakesMember (g : Grammar) (tokens : Tokens) : Prop where
  begins : ∀ rest, Tokens.Clear ['#'] (tokens ++ rest)
  present : tokens ≠ []
  taken : ∀ rest, Passes g.implementationMember (tokens ++ rest) rest

theorem passes_members {members : List Tokens} (each : ∀ tokens ∈ members, g.TakesMember tokens) :
    Passes (g.members g.implementationMember)
      (Token.enclosed .brace members.flatten :: rest) rest := by
  have unmarked : Tokens.Clear ['#'] members.flatten := by
    cases members with
    | nil => nofun
    | cons first others => exact (each first List.mem_cons_self).begins _
  have whiles : Whiles (!·.isEmpty) g.implementationMember (members.map fun _ _ => True)
      members.flatten [] := by
    clear unmarked
    induction members with
    | nil => exact .stop fun found alike => by simp [alike.looks]
    | cons member others ih =>
        obtain ⟨first, behind⟩ := List.forall_mem_cons.mp each
        have width := List.length_pos_of_ne_nil first.present
        refine .more (fun found alike => ?_) (first.taken _) ?_ (ih behind)
        · simp [alike.looks, first.present]
        · simp only [List.flatten_cons, List.length_append]
          omega
  refine .group (.bind (.manyWhile (.stop fun found alike => ?_)) fun _ _ => ?_)
  · have sign : found.atOperator "#" = false := (unmarked.alike alike).atOperator (by decide)
    simp [sign]
  · exact .bind (.manyWhile whiles) fun _ _ => .result trivial

theorem path_of_unplaced {found : TypeExpr} (isPath : IsPath type)
    (same : found.unplaced = type.unplaced) : ∃ rooted segments, found = .path rooted segments := by
  cases type with
  | path =>
      cases found with
      | path => exact ⟨_, _, rfl⟩
      | _ => cases same
  | _ => exact isPath.elim

theorem IsPath.unangled (isPath : IsPath type) :
    Tokens.atOperator "<" (type.tokens ++ rest) = false := by
  cases type with
  | path => exact tokens_unangled isPath.1
  | _ => exact isPath.elim

/-- No constant implementation begins where a path does. -/
theorem BeginsPath.unconstant (begins : BeginsPath tokens) :
    (tokens.atWord "const" || (tokens.atOperator "?" && (tokens.skip 1).atWord "const")) =
      false := by
  have question : tokens.atOperator "?" = false := begins.operator (by decide)
  simp [begins.word "const" (by decide), question]

/-- An implementation of a trait, where the trait and the type are paths. -/
theorem takes_implementation {trait : TypeExpr} {members : List Tokens} (isTrait : IsPath trait)
    (first : g.TakesType trait) (second : g.TakesType type)
    (each : ∀ tokens ∈ members, g.TakesMember tokens) :
    Takes (g.implementation false) (Token.ofWord "impl" :: (trait.tokens ++ Token.ofWord "for" ::
      (type.tokens ++ Token.enclosed .brace members.flatten :: rest))) rest
      fun item => ∃ found associated, item = .implementation found associated ∧
        found.unplaced = type.unplaced := by
  have begins := isTrait.begins (Token.ofWord "for" ::
      (type.tokens ++ Token.enclosed .brace members.flatten :: rest))
  refine .bind (.declineWord rfl) fun _ _ => .bind (.declineWord rfl) fun _ _ => ?_
  refine .seq .word fun _ => ?_
  refine .ahead fun found alike => .second ?_ (.ahead fun found alike => ?_)
  · simp [atParameters, alike.looks, isTrait.unangled]
  rw [(begins.alike alike).unconstant]
  refine .second nofun (.ahead fun found alike => .second ?_ ?_)
  · have bang : found.atOperator "!" = false := (begins.alike alike).operator (by decide)
    simp [bang]
  refine .bind (first true _ .word) fun found same => ?_
  refine .bind .acceptWord fun isOfTrait holds => .second (by simp [holds]) ?_
  subst holds
  refine .bind (second true _ nofun) fun found unplaced => ?_
  refine .seq (passes_whereClause rfl) fun _ => ?_
  refine .bind (passes_members each) fun members _ => .result ?_
  obtain ⟨rooted, segments, rfl⟩ := path_of_unplaced isTrait same
  exact ⟨found, members.2, rfl, unplaced⟩

/-! ## Attributes and empty structs -/

variable {word : String}

theorem passes_attributePath (isName : (Identifier.plain word).isName = true)
    (ends : rest.atOperator "::" = false) :
    Passes attributePath (Token.ofWord word :: rest) rest := by
  have plain : IsPlain (.path false [.mk (.plain word) .start none]) :=
    ⟨nofun, fun segment member => ⟨_, _, List.mem_singleton.mp member, .inl isName⟩⟩
  refine .ahead fun found alike => .second ?_ (plain.passes_plainPath ends)
  have checked : found.atWord "unsafe" = false :=
    (alike.looks.1 _).trans (Identifier.isWord_of_isName isName (by decide))
  simp [checked]

/-- An attribute that has a text as its value. -/
theorem passes_textAttribute {text : String} (isName : (Identifier.plain word).isName = true) :
    Passes g.deepen.deepen.outerAttribute (Token.ofOperator "#" ++
      Token.enclosed .bracket (Token.ofWord word :: (Token.ofOperator "=" ++
        [Token.ofText text])) :: rest) rest := by
  have ends : EndsExpression true [] := .nil
  have value : Passes (g.deepen.deepen.expression true) [Token.ofText text] [] :=
    (takes_expression (takes_literalOperand (.none ends.toEndsOperand))
      (takes_operators ends)).passes
  have input : Passes g.deepen.deepen.attributeInput
      (Token.ofOperator "=" ++ [Token.ofText text]) [] := by
    refine .ahead fun found alike => ?_
    obtain ⟨place, tail, rfl, _⟩ := alike.punctuation
    refine .seq .operator fun _ => .ahead fun found alike => .second ?_ ?_
    · have sign : found.atOperator "#" = false := alike.looks.2.2.2.2.2.2.1 _
      simp [sign]
    · exact .bind value fun _ _ => .result trivial
  exact .seq .operator fun _ => .group (.bind (passes_attributePath isName rfl) fun _ _ =>
    .bind input fun _ _ => .result trivial)

/-- An attribute with a list in parentheses. -/
theorem passes_listAttribute (isName : (Identifier.plain word).isName = true) :
    Passes g.outerAttribute (Token.ofOperator "#" ++
      Token.enclosed .bracket [Token.ofWord word, Token.enclosed .parenthesis inner] :: rest)
      rest := by
  have input : Passes g.attributeInput [Token.enclosed .parenthesis inner] [] := by
    refine .ahead fun found alike => ?_
    obtain ⟨inside, opening, closing, tail, rfl, _, _⟩ := alike.group
    exact .seq .take fun _ => .result trivial
  exact .seq .operator fun _ => .group (.bind (passes_attributePath isName rfl) fun _ _ =>
    .bind input fun _ _ => .result trivial)

/-- The attributes in front of a definition. -/
def TakesAttributes (g : Grammar) (attributes : List Tokens) : Prop :=
  ∀ written ∈ attributes, ∃ inner, written = Token.ofOperator "#" ++ [inner] ∧
    ∀ rest, Passes g.outerAttribute (Token.ofOperator "#" ++ inner :: rest) rest

theorem passes_outerAttributes {attributes : List Tokens} (each : g.TakesAttributes attributes)
    (ends : Tokens.Clear ['#'] rest) :
    Passes g.outerAttributes (attributes.flatten ++ rest) rest := by
  have whiles : Whiles (·.atOperator "#") g.outerAttribute (attributes.map fun _ _ => True)
      (attributes.flatten ++ rest) rest := by
    induction attributes with
    | nil => exact .stop fun found alike => (ends.alike alike).atOperator (by decide)
    | cons written others ih =>
        obtain ⟨⟨inner, rfl, taken⟩, behind⟩ := List.forall_mem_cons.mp each
        change Whiles _ _ (_ :: others.map _)
          (Token.ofOperator "#" ++ inner :: (others.flatten ++ rest)) rest
        refine .more (fun found alike => alike.looks.2.2.2.2.2.2.1 _) (taken _) ?_ (ih behind)
        simp
        omega
  exact (Takes.manyWhile whiles).passes

theorem takes_public (other : rest.atGroup .parenthesis = false) :
    Takes visibility (Token.ofWord "pub" :: rest) rest (· = true) := by
  refine .bind .acceptWord fun _ holds => .first holds (.ahead fun found alike => ?_)
  split
  · have shown := alike.looks.2.2.2.2.2.1 .parenthesis
    rw [other] at shown
    cases shown
  · exact .result rfl

/-- An empty struct behind its attributes and its visibility. -/
theorem takes_emptyStruct {attributes : List Attribute} (isName : name.isName = true) :
    Takes (g.definition attributes) (Token.ofWord "struct" :: Token.ofIdentifier name ::
      (Token.ofOperator ";" ++ rest)) rest
      fun data => ∃ position, data = ⟨.struct, attributes, name, position, 0, []⟩ := by
  have fields : Takes g.structFields (Token.ofOperator ";" ++ rest) rest (· = .unit) := by
    refine .ahead fun found alike => .second ?_ (.seq (passes_whereClause rfl) fun _ => ?_)
    · have other : found.atGroup .parenthesis = false := alike.looks.2.2.2.2.2.1 _
      simp [other]
    refine .ahead fun found alike => .second ?_ (.seq .operator fun _ => .result rfl)
    have other : found.atGroup .brace = false := alike.looks.2.2.2.2.2.1 _
    simp [other]
  have body : Takes (return .struct (← g.structFields) : Parser Data) (Token.ofOperator ";" ++ rest)
      rest (· = .struct .unit) := .bind fields fun _ none => .result (congrArg Data.struct none)
  have input : Takes (g.deriveInput attributes) (Token.ofWord "struct" :: Token.ofIdentifier name ::
      (Token.ofOperator ";" ++ rest)) rest
      fun input => ∃ position, input = ⟨attributes, name, position, 0, .struct .unit⟩ := by
    refine .bind .acceptWord fun accepted holds => ?_
    subst holds
    refine .bind (.result (Eq.refl _)) fun parser same => ?_
    subst same
    refine .bind (.name isName) fun found same => .bind (passes_parameters rfl) fun _ count => ?_
    refine .bind body fun _ empty => .result ⟨found.2, ?_⟩
    rw [same, count, empty]
  refine .bind input fun _ known => .result ?_
  obtain ⟨position, rfl⟩ := known
  exact ⟨position, rfl⟩

/-! ## All items -/

theorem takes_structItem {attributes : List Tokens} (each : g.TakesAttributes attributes)
    (isName : name.isName = true) :
    Takes g.oneItem (attributes.flatten ++ Token.ofWord "pub" :: Token.ofWord "struct" ::
      Token.ofIdentifier name :: (Token.ofOperator ";" ++ rest)) rest
      fun item => ∃ attributes position,
        item = .data ⟨.struct, attributes, name, position, 0, []⟩ := by
  refine .bind (passes_outerAttributes each .word) fun found _ => ?_
  refine .bind (takes_public rfl) fun _ _ => ?_
  refine .ahead fun tokens alike => ?_
  obtain ⟨place, tail, rfl, _⟩ := alike.word
  refine .bind (takes_emptyStruct isName) fun data same => .result ?_
  obtain ⟨position, rfl⟩ := same
  exact ⟨found, position, rfl⟩

theorem takes_implementationItem {claim : Item → Prop}
    (taken : Takes (g.implementation false) (Token.ofWord "impl" :: tokens) rest claim) :
    Takes g.oneItem (Token.ofWord "impl" :: tokens) rest claim := by
  refine .bind (.manyWhile (.stop fun _ alike => alike.looks.2.2.2.2.2.2.1 _)) fun _ _ => ?_
  refine .bind (takes_private rfl) fun isPublic absent => .ahead fun found alike => ?_
  subst absent
  obtain ⟨place, tail, rfl, _⟩ := alike.word
  exact taken

end Grammar

end StorageMapping.Source
