import StorageMapping.Proofs.Source.Outline

namespace StorageMapping.Source

open StorageMapping.Source.Parser

/-! # Refusals

A text is refused where one of its parts is: what stands in front of that part is taken, and then
nothing goes on. -/

namespace Parser

variable {α β : Type} {tokens middle rest inner : Tokens} {parser : Parser α}

namespace Refuses

theorem pos {condition : Prop} [Decidable condition] {other : Parser α} (holds : condition)
    (refused : Refuses parser tokens) : Refuses (if condition then parser else other) tokens := by
  rwa [if_pos holds]

theorem neg {condition : Prop} [Decidable condition] {other : Parser α} (fails : ¬ condition)
    (refused : Refuses parser tokens) : Refuses (if condition then other else parser) tokens := by
  rwa [if_neg fails]

theorem of_ne_ok (never : ∀ state, Tokens.Alike state.rest tokens →
    ∀ value next, parser state ≠ .ok (value, next)) : Refuses parser tokens := by
  intro state alike
  cases parsed : parser state with
  | error fault => exact ⟨fault, rfl⟩
  | ok result => exact absurd parsed (never state alike _ _)

/-- A group is refused with what it holds. -/
theorem group {delimiter : Delimiter} {opening closing : Position}
    (refused : Refuses parser inner) :
    Refuses (Parser.group delimiter parser) (.group delimiter inner opening closing :: rest) := by
  refine of_ne_ok fun state alike value next parsed => ?_
  obtain ⟨inside, first, last, left, held, completed⟩ := group_eq_ok parsed
  rw [held] at alike
  obtain ⟨found, _, _, _, same, within, _⟩ := alike.group
  obtain ⟨fault, failed⟩ := refused ⟨inside, [], state.remaining⟩ (by cases same; exact within)
  cases completed.symm.trans failed

end Refuses

/-! ## Repetition -/

/-- A step is taken some times and refused then. -/
inductive Stumbles (step : Parser (Option α)) : Tokens → Prop
  | here {tokens : Tokens} (refused : Refuses step tokens) : Stumbles step tokens
  | later {tokens middle : Tokens} (one : Takes step tokens middle (·.isSome = true))
      (nearer : middle.length < tokens.length) (others : Stumbles step middle) :
      Stumbles step tokens

namespace Refuses

theorem manyWithin {step : Parser (Option α)} {fuel : Nat} (enough : tokens.length < fuel)
    (stumbles : Stumbles step tokens) : Refuses (Parser.manyWithin step fuel) tokens := by
  induction stumbles generalizing fuel with
  | here refused =>
      obtain ⟨fuel, rfl⟩ := Nat.exists_eq_add_of_lt enough
      exact refused.first
  | later one nearer _ ih =>
      cases fuel with
      | zero => contradiction
      | succ fuel =>
          refine .bind one fun found some => ?_
          obtain ⟨value, rfl⟩ := Option.isSome_iff_exists.mp some
          exact (ih (by omega)).first

theorem many {step : Parser (Option α)} (stumbles : Stumbles step tokens) :
    Refuses (Parser.many step) tokens := by
  refine ahead fun found alike => manyWithin ?_ stumbles
  rw [alike.length]
  exact Nat.lt_succ_self _

end Refuses

/-- One round of a parser that is repeated while a condition holds. -/
def roundWhile (condition : Tokens → Bool) (parser : Parser α) : Parser (Option α) := do
  if condition (← ahead) then return some (← parser) else return none

theorem Stumbles.now {condition : Tokens → Bool} (continues : Tells condition tokens true)
    (refused : Refuses parser tokens) : Stumbles (roundWhile condition parser) tokens :=
  .here (.ahead fun found alike => .pos (continues found alike) refused.first)

theorem Stumbles.next {condition : Tokens → Bool} (continues : Tells condition tokens true)
    (one : Passes parser tokens middle) (nearer : middle.length < tokens.length)
    (others : Stumbles (roundWhile condition parser) middle) :
    Stumbles (roundWhile condition parser) tokens :=
  .later (.ahead fun found alike => .first (continues found alike) <|
    .bind one fun _ _ => .result rfl) nearer others

theorem Refuses.manyWhile {condition : Tokens → Bool}
    (stumbles : Stumbles (roundWhile condition parser) tokens) :
    Refuses (Parser.manyWhile condition parser) tokens :=
  many stumbles

/-- Some elements between separators are taken, and one is refused. -/
inductive Falters (separator : String) (stop : Tokens → Bool) (element : Parser α) : Tokens → Prop
  | here {tokens : Tokens} (starts : Tells stop tokens false) (refused : Refuses element tokens) :
      Falters separator stop element tokens
  | later {tokens middle : Tokens} (starts : Tells stop tokens false)
      (one : Passes element tokens (Token.ofOperator separator ++ middle))
      (divides : Tells stop (Token.ofOperator separator ++ middle) false)
      (nearer : middle.length < tokens.length)
      (others : Falters separator stop element middle) : Falters separator stop element tokens

namespace Refuses

variable {separator : String} {stop : Tokens → Bool}

theorem separatedWithin {fuel : Nat} (enough : tokens.length < fuel)
    (falters : Falters separator stop parser tokens) :
    Refuses (Parser.separatedWithin separator stop parser fuel) tokens := by
  induction falters generalizing fuel with
  | here starts refused =>
      obtain ⟨fuel, rfl⟩ := Nat.exists_eq_add_of_lt enough
      exact ahead fun found alike => neg (by simp [starts found alike]) refused.first
  | later starts one divides nearer _ ih =>
      cases fuel with
      | zero => contradiction
      | succ fuel =>
          refine ahead fun found alike => neg (by simp [starts found alike]) ?_
          refine .bind one fun _ _ => ahead fun found alike => ?_
          refine neg (by simp [divides found alike]) ?_
          exact .bind .operator fun _ _ => (ih (by omega)).first

theorem commaSeparated (falters : Falters "," List.isEmpty parser tokens) :
    Refuses (Parser.commaSeparated parser) tokens := by
  refine first (ahead fun found alike => first (separatedWithin ?_ falters))
  rw [alike.length]
  exact Nat.lt_succ_self _

end Refuses

end Parser

namespace Grammar

variable {g : Grammar} {tokens middle rest inner : Tokens} {allowStruct : Bool} {type : TypeExpr}
    {form : ExpressionForm}

/-! ## Expressions are refused -/

/-- What selects a field without a name. -/
theorem refuses_selection :
    Refuses (g.accesses .plain) (Token.ofOperator "." ++ Token.ofWord "_" :: rest) := by
  have unnamed : Refuses memberName (Token.ofWord "_" :: rest) := by
    refine .ahead fun found alike => ?_
    obtain ⟨place, tail, rfl, _⟩ := alike.word
    exact .neg Bool.false_ne_true .failWanting
  have pointed : Refuses g.pointAccess (Token.ofOperator "." ++ Token.ofWord "_" :: rest) := by
    refine .bind .operator fun _ _ => .ahead fun found alike => ?_
    obtain ⟨place, tail, rfl, _⟩ := alike.word
    exact .bind (.declineWord rfl) fun _ absent => .pos (by simp [absent]) unnamed.first
  refine .first (.many (.here (.ahead fun found alike => ?_)))
  have point : atPoint found = true := by
    simp only [atPoint, alike.looks]
    rfl
  simp only [alike.looks, point]
  exact pointed.first

/-- Arguments are refused with the first of them that is. -/
theorem refuses_call (refused : Refuses g.expressions inner) :
    Refuses (g.accesses .plain) (Token.enclosed .parenthesis inner :: rest) := by
  refine .first (.many (.here (.ahead fun found alike => ?_)))
  simp only [alike.looks]
  exact refused.group.first

theorem refuses_method {called : String} (isName : (Identifier.plain called).isName = true)
    (refused : Refuses g.expressions inner) :
    Refuses (g.accesses .plain) (Token.ofOperator "." ++ Token.ofWord called ::
      Token.enclosed .parenthesis inner :: rest) := by
  have waits : (Identifier.plain called).isWord "await" = false :=
    Identifier.isWord_of_isName isName (by decide)
  have named : Refuses g.namedAccess (Token.ofWord called ::
      Token.enclosed .parenthesis inner :: rest) := by
    refine .bind (.declineWord waits) fun _ absent => .pos (by simp [absent]) ?_
    refine .bind (takes_memberName isName) fun _ _ => .ahead fun found alike => ?_
    simp only [alike.looks]
    exact refused.group
  have pointed : Refuses g.pointAccess (Token.ofOperator "." ++ Token.ofWord called ::
      Token.enclosed .parenthesis inner :: rest) := by
    refine .bind .operator fun _ _ => .ahead fun found alike => ?_
    obtain ⟨place, tail, rfl, _⟩ := alike.word
    exact named
  refine .first (.many (.here (.ahead fun found alike => ?_)))
  have point : atPoint found = true := by
    simp only [atPoint, alike.looks]
    rfl
  simp only [alike.looks, point]
  exact pointed.first

/-- An operand is refused with what is done to its path. -/
theorem refuses_operand (plain : IsPlain type) (ends : EndsAtom allowStruct middle)
    (refused : Refuses (g.accesses .plain) middle) :
    Refuses (g.deepen.operand allowStruct) (type.tokens ++ middle) := by
  have begins : BeginsPath (type.tokens ++ middle) := plain.isPath.begins middle
  have path : Takes (g.pathExpression allowStruct) (type.tokens ++ middle) middle (· = .plain) :=
    takes_pathExpression (plain.takesPath ⟨ends.clear.atOperator (by decide), nofun⟩) ends
  refine .bind begins.outerAttributes fun _ _ => .ahead fun found alike => ?_
  have clear := (begins.alike alike).clear
  have ampersand : found.atOperator "&" = false := clear.atOperator (by decide)
  have signs : ["*", "!", "-"].find? found.atOperator = none := by
    have star : found.atOperator "*" = false := clear.atOperator (by decide)
    have bang : found.atOperator "!" = false := clear.atOperator (by decide)
    have minus : found.atOperator "-" = false := clear.atOperator (by decide)
    simp [star, bang, minus]
  refine .neg (by simp [ampersand]) ?_
  rw [signs]
  exact .bind (takes_pathAtom begins path) fun _ same => by
    subst same
    exact refused

theorem refuses_reference (refused : Refuses (g.operand allowStruct) tokens)
    (begins : BeginsPath tokens) (safe : (tokens.skip 1).atAnyWord = false) :
    Refuses (g.deepen.operand allowStruct) (Token.ofOperator "&" ++ tokens) := by
  have ahead : Passes g.outerAttributes (Token.ofOperator "&" ++ tokens)
      (Token.ofOperator "&" ++ tokens) :=
    (Takes.manyWhile (.stop fun found alike => (alike.looks.2.2.2.2.2.2.1 _).trans rfl)).passes
  refine .bind ahead fun _ _ => .ahead fun found alike => .pos ?_ ?_
  · exact (alike.looks.2.2.2.2.2.2.1 _).trans rfl
  refine .bind .operator fun _ _ => .ahead fun found alike => .neg ?_ ?_
  · simp [(alike.skip 1).looks, Tokens.looks_wordless safe]
  · exact .bind (.declineWord (begins.word "mut" (by decide))) fun _ _ => refused.first

theorem refuses_expression (refused : Refuses (g.operand allowStruct) tokens) :
    Refuses (g.deepen.expression allowStruct) tokens := refused.first

theorem refuses_arguments (falters : Falters "," List.isEmpty (g.expression true) tokens) :
    Refuses g.expressions tokens :=
  .first (.commaSeparated falters)

/-! ## Conditions are refused -/

theorem refuses_let {pattern value : Tokens} (bound : g.deepen.TakesPattern pattern)
    (unbarred : ∀ rest, Tokens.Clear ['|'] (pattern ++ rest))
    (refused : Refuses (g.deepen.operand false) value) :
    Refuses (g.deepen.deepen.deepen.expression false)
      (Token.ofWord "let" :: (pattern ++ (Token.ofOperator "=" ++ value))) := by
  have wrapped : Refuses g.deepen.letExpression
      (Token.ofWord "let" :: (pattern ++ (Token.ofOperator "=" ++ value))) := by
    have bounds := passes_alternatives (unbarred _) (bound value) (.mark (by decide))
    refine .bind .word fun _ _ => .bind bounds fun _ _ => ?_
    exact .bind .operator fun _ _ => refused.first
  have atom : Refuses (g.deepen.atom false)
      (Token.ofWord "let" :: (pattern ++ (Token.ofOperator "=" ++ value))) := by
    refine .ahead fun found alike => ?_
    simp only [alike.looks, blockExpression?_let alike, atClosure_let alike, atPathStart]
    exact wrapped.first
  have attributes : Passes g.deepen.outerAttributes
      (Token.ofWord "let" :: (pattern ++ (Token.ofOperator "=" ++ value)))
      (Token.ofWord "let" :: (pattern ++ (Token.ofOperator "=" ++ value))) :=
    (Takes.manyWhile (.stop fun _ alike => alike.looks.2.2.2.2.2.2.1 _)).passes
  refine refuses_expression (.bind attributes fun _ _ => .ahead fun found alike => ?_)
  have ampersand : found.atOperator "&" = false := alike.looks.2.2.2.2.2.2.1 _
  have signs : ["*", "!", "-"].find? found.atOperator = none := by
    simp only [alike.looks]
    rfl
  refine .neg (by simp [ampersand]) ?_
  rw [signs]
  exact atom.first

theorem refuses_if (refused : Refuses (g.expression false) tokens) :
    Refuses g.ifExpression (Token.ofWord "if" :: tokens) :=
  .first (.bind .word fun _ _ => refused.first)

/-! ## Statements are refused -/

theorem refuses_pathBody (begins : BeginsPath tokens) (refused : Refuses (g.operand true) tokens) :
    Refuses g.deepen.body tokens := by
  refine .bind begins.outerAttributes fun _ _ => .ahead fun found alike => ?_
  simp only [(begins.alike alike).blockExpression?]
  exact refused.first

theorem refuses_blockBody {parser : Parser Unit} (unmarked : Tokens.Clear ['#'] tokens)
    (block : ∀ found, Tokens.Alike found tokens → g.blockExpression? found = some parser)
    (refused : Refuses parser tokens) : Refuses g.deepen.body tokens := by
  have attributes : Passes g.outerAttributes tokens tokens :=
    (Takes.manyWhile (.stop fun _ alike => (unmarked.alike alike).atOperator (by decide))).passes
  refine .bind attributes fun _ _ => .ahead fun found alike => ?_
  simp only [block found alike]
  exact refused.first

theorem refuses_statement (begins : BeginsBody tokens) (refused : Refuses g.body tokens) :
    Refuses g.statement tokens := by
  have attributes : Passes g.outerAttributes tokens tokens :=
    (Takes.manyWhile (.stop fun _ alike =>
      (begins.unmarked.alike alike).atOperator (by decide))).passes
  refine .bind attributes fun _ _ => .ahead fun found alike => ?_
  refine .neg ?_ (.neg ?_ (.neg ?_ refused.first))
  · simp [begins.macro_ found alike]
  · simp [alike.looks, begins.binding]
  · simp [begins.item found alike]

/-- A block is refused with a statement behind others that are taken. -/
theorem refuses_block {closed : List Tokens} (each : ∀ tokens ∈ closed, g.TakesStatement tokens)
    (begins : EndsBlock tokens) (present : tokens ≠ []) (refused : Refuses g.statement tokens) :
    Refuses g.deepen.block (Token.enclosed .brace (closed.flatten ++ tokens) :: rest) := by
  have stumbles : Stumbles g.statementRound (closed.flatten ++ tokens) := by
    induction closed with
    | nil =>
        refine .here (.bind begins.unseparated fun _ _ => ?_)
        refine .bind (takes_goesOn present) fun _ goes => ?_
        exact .neg (by simp [goes]) refused.first
    | cons first closed ih =>
        obtain ⟨one, others⟩ := List.forall_mem_cons.mp each
        have round := one.takesRound (endsBlock_flatten others begins) (by simp [present])
        rw [List.flatten_cons, List.append_assoc]
        refine .later (round.imp fun _ same => by rw [same]; rfl) ?_ (ih others)
        have width := List.length_pos_of_ne_nil one.present
        simp only [List.length_append]
        omega
  have clear : Tokens.Clear ['#'] (closed.flatten ++ tokens) :=
    (endsBlock_flatten each begins).clear.fewer (by decide)
  refine .group (.bind (.manyWhile (.stop fun found alike => ?_)) fun _ _ => ?_)
  · have sign : found.atOperator "#" = false := (clear.alike alike).atOperator (by decide)
    simp [sign]
  · exact .first (.first (.many stumbles))

/-! ## Items are refused -/

/-- A function is refused with its body. -/
theorem refuses_function {called : String} {result body : Tokens}
    (isName : (Identifier.plain called).isName = true)
    (arguments : g.TakesParameters inner) (taken : g.TakesResult result)
    (refused : Refuses g.block (Token.enclosed .brace body :: rest)) :
    Refuses g.implementationMember (Token.ofWord "fn" :: Token.ofWord called ::
      Token.enclosed .parenthesis inner :: (Token.ofOperator "->" ++
        (result ++ Token.enclosed .brace body :: rest))) := by
  refine .bind (.manyWhile (.stop fun _ alike => alike.looks.2.2.2.2.2.2.1 _)) fun _ _ => ?_
  refine .bind (takes_private rfl) fun _ _ => ?_
  refine .ahead fun found alike => .neg ?_ (.ahead fun found alike => ?_)
  · have other : found.atWord "default" = false := alike.looks.1 _
    simp [other]
  refine .pos (atFunction_fn alike) (.bind (passes_signature isName arguments taken) fun _ _ => ?_)
  exact .first (.bind (.declineOperator rfl) fun _ absent => .neg (by simp [absent]) refused.first)

/-- Members are refused with one behind others that are taken. -/
theorem refuses_members {members : List Tokens} (each : ∀ tokens ∈ members, g.TakesMember tokens)
    (unmarked : Tokens.Clear ['#'] tokens) (present : tokens ≠ [])
    (refused : Refuses g.implementationMember tokens) :
    Refuses (g.members g.implementationMember)
      (Token.enclosed .brace (members.flatten ++ tokens) :: rest) := by
  have clear : Tokens.Clear ['#'] (members.flatten ++ tokens) := by
    cases members with
    | nil => exact unmarked
    | cons first others =>
        rw [List.flatten_cons, List.append_assoc]
        exact (each first List.mem_cons_self).begins _
  have stumbles : Stumbles (roundWhile (!·.isEmpty) g.implementationMember)
      (members.flatten ++ tokens) := by
    clear clear
    induction members with
    | nil => exact .now (fun found alike => by simp [alike.looks, present]) refused
    | cons member others ih =>
        obtain ⟨first, behind⟩ := List.forall_mem_cons.mp each
        have width := List.length_pos_of_ne_nil first.present
        rw [List.flatten_cons, List.append_assoc]
        refine .next (fun found alike => ?_) (first.taken _) ?_ (ih behind)
        · simp [alike.looks, present]
        · simp only [List.length_append]
          omega
  refine .group (.bind (.manyWhile (.stop fun found alike => ?_)) fun _ _ => ?_)
  · have sign : found.atOperator "#" = false := (clear.alike alike).atOperator (by decide)
    simp [sign]
  · exact .first (.manyWhile stumbles)

/-- An implementation is refused with its members. -/
theorem refuses_implementation {trait : TypeExpr} {body : Tokens} (isTrait : IsPath trait)
    (first : g.TakesType trait) (second : g.TakesType type)
    (refused : Refuses (g.members g.implementationMember) (Token.enclosed .brace body :: rest)) :
    Refuses g.oneItem (Token.ofWord "impl" :: (trait.tokens ++ Token.ofWord "for" ::
      (type.tokens ++ Token.enclosed .brace body :: rest))) := by
  have begins := isTrait.begins (Token.ofWord "for" ::
      (type.tokens ++ Token.enclosed .brace body :: rest))
  have implementation : Refuses (g.implementation false) (Token.ofWord "impl" ::
      (trait.tokens ++ Token.ofWord "for" ::
        (type.tokens ++ Token.enclosed .brace body :: rest))) := by
    refine .bind (.declineWord rfl) fun _ _ => .bind (.declineWord rfl) fun _ _ => ?_
    refine .bind .word fun _ _ => .ahead fun found alike => .neg ?_ (.ahead fun found alike => ?_)
    · simp [atParameters, alike.looks, isTrait.unangled]
    rw [(begins.alike alike).unconstant]
    refine .neg Bool.false_ne_true (.ahead fun found alike => .neg ?_ ?_)
    · have bang : found.atOperator "!" = false := (begins.alike alike).operator (by decide)
      simp [bang]
    refine .bind (first true _ .word) fun _ _ => .bind .acceptWord fun _ holds => ?_
    subst holds
    refine .neg (by simp) (.bind (second true _ .group) fun _ _ => ?_)
    exact .bind (passes_whereClause rfl) fun _ _ => refused.first
  refine .bind (.manyWhile (.stop fun _ alike => alike.looks.2.2.2.2.2.2.1 _)) fun _ _ => ?_
  refine .bind (takes_private rfl) fun isPublic absent => .ahead fun found alike => ?_
  subst absent
  obtain ⟨place, tail, rfl, _⟩ := alike.word
  exact implementation

end Grammar

/-! ## Files are refused -/

theorem Parser.runAll_eq_error {α : Type} {parser : Parser α} {tokens view : Tokens}
    (refused : Refuses parser view) (alike : Tokens.Alike tokens view) :
    ∃ fault, runAll parser tokens = .error fault := by
  obtain ⟨fault, failed⟩ := refused ⟨tokens, [], none⟩ alike
  exact ⟨fault, by rw [runAll, StateT.run, failed]⟩

namespace Reader

variable {headline : Headline} {piece more tokens : Tokens}

/-- Tokens are refused behind an item, where they are no item. -/
theorem items_eq_error (first : headline.Begins piece) (present : more ≠ [])
    (refused : ∀ {g : Grammar}, g.Deep 24 → Refuses g.oneItem more)
    (alike : Tokens.Alike tokens (piece ++ more)) : ∃ fault, items tokens = .error fault := by
  have deep : (Grammar.ofDepth (8 * Token.countList tokens + 24)).Deep 24 :=
    (Grammar.Deep.ofDepth _).mono (Nat.le_add_left _ _)
  have one : Passes (Grammar.ofDepth (8 * Token.countList tokens + 24)).oneItem
      (piece ++ more) more := by
    rw [← Grammar.item_outlined, map_eq_pure_bind]
    exact .bind (first.taken deep more) fun _ _ => .result trivial
  have width := List.length_pos_of_ne_nil first.present
  refine runAll_eq_error (.bind (.manyWhile (.stop (first.outer more))) fun _ _ => .manyWhile ?_)
    alike
  refine .next (fun found alike => ?_) one ?_ (.now (fun found alike => ?_) (refused deep))
  · simp [alike.looks, present]
  · simp only [List.length_append]
    omega
  · simp [alike.looks, present]

/-- The text of such tokens is no file. -/
theorem file_eq_error {text : String} (first : headline.Begins piece) (present : more ≠ [])
    (refused : ∀ {g : Grammar}, g.Deep 24 → Refuses g.oneItem more)
    (read : tokenize text.toList = some tokens) (alike : Tokens.Alike tokens (piece ++ more))
    (unmarked : text.toList.head? ≠ some Lexer.byteOrderMark) :
    ∃ fault, file text = .error fault := by
  have outer : tokens.opensInner = false := first.outer more tokens alike
  rw [file_eq_parseAll unmarked (dropInterpreter_eq_self read outer), parseAll, read]
  exact items_eq_error first present refused alike

end Reader

end StorageMapping.Source
