import StorageMapping.Proofs.Source.Tidying
import StorageMapping.Source.Reader

namespace StorageMapping.Source

open Lexer StorageMapping.Source.Parser

/-! # The grammar keeps tokens tidy

Types and paths are printed anew from their structure, so what is known of the tokens of a text is
carried through the structure of the types. -/

set_option synthInstance.maxSize 1000

namespace Token

/-- Characters that make an operator: none of them begins a comment with the next one. -/
def operates : List Char → Bool
  | [] => true
  | c :: rest =>
      decide (c ∈ punctuationMarks ∧ c ≠ apostrophe)
        && rest.head?.all (fun d => !(c == '/' && (d == '/' || d == '*'))) && operates rest

theorem tidy_operates {text : List Char} (operates : operates text = true) (position : Position) :
    Tidy (operator position text) := by
  induction text with
  | nil => exact .nil
  | cons c rest ih =>
      simp only [Token.operates, Bool.and_eq_true, decide_eq_true_eq] at operates
      obtain ⟨⟨⟨mark, other⟩, apart⟩, operates⟩ := operates
      cases rest with
      | nil => exact .single (.punctuation mark other) rfl
      | cons d rest =>
          have following := ih operates
          obtain ⟨joint, behind, head⟩ := head_operator position d rest
          refine ⟨List.forall_mem_cons.mpr ⟨.punctuation mark other, following.readable⟩, ?_⟩
          refine ⟨⟨.punctuation d joint position, by rw [head]; rfl, ?_⟩, following.spaced⟩
          simpa [Continues, imp_iff_not_or] using apart

theorem tidy_ofOperator {text : String} (operates : operates text.toList = true) :
    Tidy (ofOperator text) :=
  tidy_operates operates .start

end Token

/-! ## Printed types -/

/-- A type whose tokens are tidy. -/
def TypeExpr.Tidy (type : TypeExpr) : Prop := Source.Tidy type.tokens

def PathSegment.Tidy (segment : PathSegment) : Prop := Source.Tidy segment.tokens

def PathArguments.Tidy (arguments : PathArguments) : Prop := Source.Tidy arguments.tokens

def PathArgument.Tidy (argument : PathArgument) : Prop := Source.Tidy argument.tokens

theorem tidy_segmentsTokens {segments : List PathSegment}
    (each : ∀ segment ∈ segments, segment.Tidy) : Tidy (segmentsTokens segments) := by
  induction segments with
  | nil => exact .nil
  | cons segment rest ih =>
      obtain ⟨first, others⟩ := List.forall_mem_cons.mp each
      cases rest with
      | nil => rwa [segmentsTokens]
      | cons next rest =>
          rw [segmentsTokens]
          exact (first.append (Token.tidy_ofOperator (by decide))).append (ih others)

theorem tidy_path {rooted : Bool} {segments : List PathSegment}
    (each : ∀ segment ∈ segments, segment.Tidy) : (TypeExpr.path rooted segments).Tidy := by
  rw [TypeExpr.Tidy, TypeExpr.tokens]
  refine .append ?_ (tidy_segmentsTokens each)
  split
  · exact Token.tidy_ofOperator (by decide)
  · exact .nil

theorem tidy_argumentTokens {arguments : List (Bool × List Token × Bool)}
    (each : ∀ argument ∈ arguments, Tidy argument.2.1) : Tidy (argumentTokens arguments) := by
  have comma : Tidy (Token.ofOperator ",") := Token.tidy_ofOperator (by decide)
  have written : ∀ argument ∈ arguments,
      Tidy (argument.2.1 ++ if argument.2.2 then Token.ofOperator "," else []) := by
    intro argument member
    refine (each argument member).append ?_
    split
    · exact comma
    · exact .nil
  rw [argumentTokens]
  refine .append (.append ?_ ?_) ?_
  · exact .flatMap fun argument member => written argument (List.mem_filter.mp member).1
  · split
    · exact .nil
    · exact comma
  · exact .flatMap fun argument member => written argument (List.mem_filter.mp member).1

theorem tidy_argumentsWritten {trailing : Bool} {arguments : List PathArgument}
    (each : ∀ argument ∈ arguments, argument.Tidy) :
    ∀ written ∈ argumentsWritten trailing arguments, Tidy written.2.1 := by
  induction arguments with
  | nil => simp [argumentsWritten]
  | cons argument rest ih =>
      obtain ⟨first, others⟩ := List.forall_mem_cons.mp each
      cases rest with
      | nil => exact List.forall_mem_singleton.mpr first
      | cons next rest =>
          rw [argumentsWritten]
          exact List.forall_mem_cons.mpr ⟨first, ih others⟩

theorem tidy_arguments {colons trailing : Bool} {arguments : List PathArgument}
    (each : ∀ argument ∈ arguments, argument.Tidy) :
    (PathArguments.mk colons arguments trailing).Tidy := by
  rw [PathArguments.Tidy, PathArguments.tokens]
  refine .append (.append (.append ?_ ?_) ?_) ?_
  · split
    · exact Token.tidy_ofOperator (by decide)
    · exact .nil
  · exact Token.tidy_ofOperator (by decide)
  · exact tidy_argumentTokens (tidy_argumentsWritten each)
  · exact Token.tidy_ofOperator (by decide)

theorem tidy_segment {name : Identifier} {position : Position} {arguments : Option PathArguments}
    (legal : name.Legal) (each : ∀ found ∈ arguments, found.Tidy) :
    (PathSegment.mk name position arguments).Tidy := by
  have word : Tidy [.word name position] := .single (.word legal) rfl
  cases arguments with
  | none => exact word
  | some arguments => exact word.append (each arguments rfl)

theorem tidy_paren {inner : TypeExpr} (tidy : inner.Tidy) : (TypeExpr.paren inner).Tidy :=
  Tidy.group tidy

theorem tidy_lifetime {name : Identifier} (legal : name.Legal) :
    (PathArgument.lifetime name).Tidy :=
  Tidy.single (.lifetime legal) rfl

theorem tidy_ofTokens {tokens : Tokens} (tidy : Tidy tokens) : (TypeExpr.other tokens).Tidy := by
  rwa [TypeExpr.Tidy, TypeExpr.tokens]

theorem mem_splitOn {all part : List Char} {mark c : Char} (member : part ∈ all.splitOn mark)
    (inside : c ∈ part) : c ∈ all ∧ c ≠ mark := by
  induction all generalizing part with
  | nil =>
      obtain rfl : part = [] := by simpa using member
      contradiction
  | cons d rest ih =>
      rw [List.splitOn_cons_eq_if_modifyHead] at member
      split at member
      · rcases List.mem_cons.mp member with rfl | later
        · contradiction
        · exact (ih later inside).imp_left (List.mem_cons_of_mem d)
      · rename_i other
        cases held : rest.splitOn mark with
        | nil => exact absurd held (List.splitOn_ne_nil mark rest)
        | cons first others =>
            rw [held, List.modifyHead_cons] at member
            rw [held] at ih
            rcases List.mem_cons.mp member with rfl | later
            · rcases List.mem_cons.mp inside with rfl | deeper
              · exact ⟨List.mem_cons_self, by simpa using other⟩
              · exact (ih List.mem_cons_self deeper).imp_left (List.mem_cons_of_mem d)
            · exact (ih (List.mem_cons_of_mem first later) inside).imp_left (List.mem_cons_of_mem d)

/-! ## The grammar -/

/-- A grammar whose nested parsers keep tokens tidy. -/
class Grammar.KeepsTidy (g : Grammar) : Prop where
  type : ∀ allowPlus, Keeps TypeExpr.Tidy (g.type allowPlus)
  bound : ∀ allowCaptures allowConstant, Tidies (g.bound allowCaptures allowConstant)
  expression : ∀ allowStruct, Tidies (g.expression allowStruct)
  operand : ∀ allowStruct, Tidies (g.operand allowStruct)
  operators : ∀ allowStruct base form, Tidies (g.operators allowStruct base form)
  body : Tidies g.body
  pattern : Tidies g.pattern
  statements : Tidies g.statements
  item : Tidies g.item
  fields : Tidies g.fields
  useTree : ∀ allowRoot, Tidies (g.useTree allowRoot)

attribute [instance] Grammar.KeepsTidy.bound Grammar.KeepsTidy.expression
  Grammar.KeepsTidy.operand Grammar.KeepsTidy.operators Grammar.KeepsTidy.body
  Grammar.KeepsTidy.pattern Grammar.KeepsTidy.statements Grammar.KeepsTidy.item
  Grammar.KeepsTidy.fields Grammar.KeepsTidy.useTree

instance : Tidies plainSegment := by unfold plainSegment; infer_instance

instance : Tidies plainPath := by unfold plainPath; infer_instance

instance : Tidies attributePath := by unfold attributePath; infer_instance

instance : Tidies macroCall := by unfold macroCall; infer_instance

theorem unjoint_of_atString {tokens : Tokens} (found : tokens.atString = true) :
    ∀ token ∈ tokens.head?, token.isJoint = false := by
  unfold Tokens.atString at found
  split at found
  · simp [Token.isJoint]
  · contradiction

theorem unjoint_of_atGroup {delimiter : Delimiter} {tokens : Tokens}
    (found : tokens.atGroup delimiter = true) : ∀ token ∈ tokens.head?, token.isJoint = false := by
  unfold Tokens.atGroup at found
  split at found
  · simp [Token.isJoint]
  · contradiction

theorem unjoint_of_atName {tokens : Tokens} (found : tokens.atName = true) :
    ∀ token ∈ tokens.head?, token.isJoint = false := by
  unfold Tokens.atName at found
  split at found
  · simp [Token.isJoint]
  · contradiction

namespace Grammar

variable (g : Grammar) [tidy : g.KeepsTidy]

instance (allowPlus : Bool) : Tidies (g.type allowPlus) := (KeepsTidy.type allowPlus).tidies

instance : Tidies g.attributeInput where
  keeps := by
    refine KeepsAt.look fun tokens _ => ?_
    split
    · exact (KeepsAt.take (by simp [Token.isJoint])).bind fun _ _ => .result trivial
    · exact .of_keeps Tidies.keeps
    · exact .of_keeps (.result trivial)

instance (isInner : Bool) : Tidies (g.attributeBody isInner) := by
  unfold attributeBody; infer_instance

instance : Tidies g.outerAttribute := by unfold outerAttribute; infer_instance

instance : Tidies g.outerAttributes := by unfold outerAttributes; infer_instance

instance : Tidies g.innerAttributes := by unfold innerAttributes; infer_instance

instance : Tidies g.block := by unfold block; infer_instance

/-! ## Paths, types and bounds -/

instance : Tidies g.constantArgument := by unfold constantArgument; infer_instance

instance (stop : Tokens → Bool) : Tidies (g.boundsUntil stop) := by
  unfold boundsUntil; infer_instance

theorem keeps_argumentForm : Keeps PathArgument.Tidy g.argumentForm := by
  have joined : ∀ {type : TypeExpr} {mark : String} {tokens : Tokens}, type.Tidy →
      Token.operates mark.toList = true → Tidy tokens →
        (PathArgument.other (type.tokens ++ Token.ofOperator mark ++ tokens)).Tidy :=
    fun first operates second => (Tidy.append first (Token.tidy_ofOperator operates)).append second
  unfold argumentForm
  refine .step fun tokens => .choice (keeps_lifetime.bind fun _ legal =>
    .result (tidy_lifetime legal)) (.choice ?_ ?_)
  · exact (keeps_captured .of_tidies).bind fun found captured => .result captured.2
  · refine (KeepsTidy.type true).bind fun type tidyType => ?_
    split
    · rename_i segment
      refine .step fun _ => .choice ?_ (.step fun _ => .choice ?_ (.result tidyType))
      · refine .step fun _ => (keeps_captured .of_tidies).bind fun value captured => .result ?_
        exact joined tidyType (by decide) captured.2
      · refine (keeps_captured .of_tidies).bind fun bounds captured => .result ?_
        exact joined tidyType (by decide) captured.2
    · exact .result tidyType

theorem keeps_argumentsForm : Keeps PathArguments.Tidy g.argumentsForm := by
  unfold argumentsForm
  refine .step fun colons => .step fun _ => ?_
  exact (keeps_separated g.keeps_argumentForm).bind fun _ each => .step fun _ =>
    .result (tidy_arguments each)

instance : Tidies g.argumentsForm := g.keeps_argumentsForm.tidies

theorem keeps_segmentForm (inExpression : Bool) :
    Keeps PathSegment.Tidy (g.segmentForm inExpression) := by
  unfold segmentForm
  refine .step fun tokens => .choice ?_ ?_
  · exact keeps_anyWord.bind fun _ legal => .result (tidy_segment legal (by simp))
  · refine .choice (keeps_anyWord.bind ?_) (keeps_name.bind ?_)
    all_goals
      intro found legal
      refine .step fun _ => .choice ?_ (.result (tidy_segment legal (by simp)))
      exact g.keeps_argumentsForm.bind fun arguments tidyArguments =>
        .result (tidy_segment legal (by simpa using tidyArguments))

theorem keeps_segmentsForm (inExpression : Bool) :
    Keeps (fun segments => ∀ segment ∈ segments, segment.Tidy) (g.segmentsForm inExpression) := by
  unfold segmentsForm
  refine (g.keeps_segmentForm inExpression).bind fun first tidyFirst => ?_
  refine (keeps_manyWhile (.step fun _ => g.keeps_segmentForm inExpression)).bind
    fun more others => ?_
  exact .result (List.forall_mem_cons.mpr ⟨tidyFirst, others⟩)

theorem keeps_pathForm (inExpression : Bool) :
    Keeps TypeExpr.Tidy (g.pathForm inExpression) := by
  unfold pathForm
  exact .step fun _ => (g.keeps_segmentsForm inExpression).bind fun _ each =>
    .result (tidy_path each)

/-- Whatever is printed is written in tidy tokens. -/
theorem keeps_printed {form : Parser TypeExpr} (keeps : Keeps TypeExpr.Tidy form) :
    Keeps TypeExpr.Tidy (printed form) :=
  (keeps_quiet keeps).bind fun _ tidyType => (keeps_write tidyType).bind fun _ _ =>
    .result tidyType

theorem keeps_path (inExpression : Bool) : Keeps TypeExpr.Tidy (g.path inExpression) :=
  keeps_printed (g.keeps_pathForm inExpression)

instance (inExpression : Bool) : Tidies (g.path inExpression) :=
  (g.keeps_path inExpression).tidies

theorem keeps_qualifiedPathForm (inExpression : Bool) :
    Keeps TypeExpr.Tidy (g.qualifiedPathForm inExpression) := by
  unfold qualifiedPathForm
  refine .step fun _ => .choice ?_ (g.keeps_pathForm inExpression)
  refine (keeps_captured .of_tidies).bind fun head captured => .step fun _ => ?_
  refine (g.keeps_segmentForm inExpression).bind fun first tidyFirst => ?_
  refine (keeps_manyWhile (.step fun _ => g.keeps_segmentForm inExpression)).bind
    fun more others => ?_
  refine .result ?_
  rw [TypeExpr.Tidy, TypeExpr.tokens]
  exact (captured.2.append (Token.tidy_ofOperator (by decide))).append
    (tidy_segmentsTokens (List.forall_mem_cons.mpr ⟨tidyFirst, others⟩))

instance (allowPlus : Bool) : Tidies (g.returnType allowPlus) := by
  unfold returnType; infer_instance

instance : Tidies g.parameter := by
  unfold parameter
  repeat' first | infer_instance | refine .step fun _ => ?_

instance : Tidies g.someParameters := by unfold someParameters; infer_instance

instance : Tidies g.parameters := by unfold parameters; infer_instance

instance : Tidies g.binder := by unfold binder; infer_instance

instance : Tidies g.optionalBinder := by unfold optionalBinder; infer_instance

instance (allowConstant : Bool) : Tidies (constantMark allowConstant) := by
  unfold constantMark; infer_instance

instance (allowConstant : Bool) : Tidies (g.traitBound allowConstant) := by
  unfold traitBound; infer_instance

instance : Tidies captures := by unfold captures; infer_instance

instance (allowCaptures allowConstant : Bool) :
    Tidies (g.oneBound allowCaptures allowConstant) := by
  unfold oneBound; infer_instance

instance (allowPlus allowCaptures allowConstant : Bool) (wanting : String) :
    Tidies (g.traitBounds allowPlus allowCaptures allowConstant wanting) := by
  unfold traitBounds; infer_instance

instance (allowPlus : Bool) : Tidies (g.objectBounds allowPlus) := by
  unfold objectBounds; infer_instance

instance : Tidies g.moreBounds := by unfold moreBounds; infer_instance

instance : Tidies g.whereClause := by
  unfold whereClause
  repeat' first | infer_instance | refine .step fun _ => ?_

theorem keeps_keepTokens {parser : Parser Unit} [Tidies parser] :
    Keeps TypeExpr.Tidy (keepTokens parser) :=
  (keeps_captured .of_tidies).bind fun _ captured => .result (tidy_ofTokens captured.2)

instance (parser : Parser Unit) [Tidies parser] : Tidies (keepTokens parser) :=
  keeps_keepTokens.tidies

instance (isFirst : Bool) : Tidies (g.functionTypeArgument isFirst) := by
  unfold functionTypeArgument; infer_instance

instance (isFirst : Bool) (fuel : Nat) : Tidies (g.functionTypeArgumentsWithin isFirst fuel) := by
  induction fuel generalizing isFirst with
  | zero => unfold functionTypeArgumentsWithin; infer_instance
  | succ fuel ih =>
      unfold functionTypeArgumentsWithin; infer_instance

instance : Tidies g.functionType := by
  unfold functionType
  refine .step fun _ => .step fun _ => .choice ?_ inferInstance
  exact .takeWhere _ fun _ => unjoint_of_atString

/-- What stands in parentheses has tidy tokens where it keeps some. -/
def Parenthesized.Tidy : Parenthesized → Prop
  | .lifetimes bounds => Source.Tidy bounds
  | .single type => type.Tidy
  | _ => True

theorem keeps_parenthesized : Keeps Parenthesized.Tidy g.parenthesized := by
  unfold parenthesized
  refine keeps_group (.step fun tokens => .choice (.result trivial) (.choice ?_ (.choice ?_ ?_)))
  · exact (keeps_captured .of_tidies).bind fun _ captured => .result captured.2
  · exact .step fun _ => .result trivial
  · refine (KeepsTidy.type true).bind fun first tidyFirst => .step fun _ => ?_
    exact .choice (.step fun _ => .result trivial) (.result tidyFirst)

theorem keeps_parenthesizedForm (allowPlus : Bool) :
    Keeps TypeExpr.Tidy (g.parenthesizedForm allowPlus) := by
  have more : ∀ {tokens : Tokens}, Tidy tokens →
      Keeps TypeExpr.Tidy
        (captured g.moreBounds >>= fun more => pure (.other (tokens ++ more.2))) :=
    fun tidyTokens => (keeps_captured .of_tidies).bind fun _ captured =>
      .result (tidy_ofTokens (tidyTokens.append captured.2))
  unfold parenthesizedForm
  refine (keeps_captured g.keeps_parenthesized).bind ?_
  rintro ⟨contents, tokens⟩ ⟨tidyContents, tidyTokens⟩
  cases contents with
  | tuple => exact .result (tidy_ofTokens tidyTokens)
  | lifetimes bounds => exact .result (tidy_paren (tidy_ofTokens tidyContents))
  | relaxed => exact more tidyTokens
  | single type =>
      cases type with
      | path =>
          exact .step fun _ => .choice (more tidyTokens) (.result (tidy_paren tidyContents))
      | _ => exact .result (tidy_paren tidyContents)

theorem keeps_pathTypeForm (allowPlus bound : Bool) :
    Keeps TypeExpr.Tidy (g.pathTypeForm allowPlus bound) := by
  unfold pathTypeForm
  refine (g.keeps_qualifiedPathForm false).bind fun type tidyType => ?_
  split
  · refine .step fun tokens => .choice ?_ (.choice ?_ (.result tidyType))
    · exact (keeps_captured .of_tidies).bind fun _ captured =>
        .result (tidy_ofTokens (Tidy.append tidyType captured.2))
    · exact (keeps_captured .of_tidies).bind fun _ captured =>
        .result (tidy_ofTokens (Tidy.append tidyType captured.2))
  · exact .result tidyType

theorem keeps_typeForm (allowPlus : Bool) : Keeps TypeExpr.Tidy (g.typeForm allowPlus) := by
  unfold typeForm
  refine .step fun tokens => .choice ?_ (.choice (g.keeps_parenthesizedForm allowPlus) ?_)
  · refine (keeps_captured .of_tidies).bind fun binder captured => .step fun _ => .choice ?_ ?_
    · exact (keeps_captured .of_tidies).bind fun _ function =>
        .result (tidy_ofTokens (captured.2.append function.2))
    · refine .choice ?_ (.failWanting _)
      exact (g.keeps_pathTypeForm allowPlus true).bind fun _ tidyType =>
        .result (tidy_ofTokens (captured.2.append tidyType))
  · refine .choice keeps_keepTokens (.choice (g.keeps_pathTypeForm allowPlus false) ?_)
    exact .choice keeps_keepTokens (.choice keeps_keepTokens (.choice keeps_keepTokens
      (.choice keeps_keepTokens (.choice keeps_keepTokens (.choice keeps_keepTokens
        (.choice keeps_keepTokens (.choice keeps_keepTokens (.failWanting _))))))))

theorem keeps_oneType (allowPlus : Bool) : Keeps TypeExpr.Tidy (g.oneType allowPlus) :=
  keeps_printed (g.keeps_typeForm allowPlus)

/-! ## Patterns -/

instance : Tidies g.alternatives := by unfold alternatives; infer_instance

instance : Tidies memberName where
  keeps := by
    refine KeepsAt.look fun tokens _ => ?_
    split
    · refine .choice (fun _ => ?_) (.failWanting _)
      exact (KeepsAt.take (by simp [Token.isJoint])).bind fun _ _ => .result trivial
    · refine .choice (fun named => ?_) (.failWanting _)
      exact (KeepsAt.take (unjoint_of_atName named)).bind fun _ _ => .result trivial

instance : Tidies g.expressionPath := (keeps_printed (g.keeps_qualifiedPathForm true)).tidies

instance : Tidies g.constantBlock := by unfold constantBlock; infer_instance

instance : Tidies g.rangeBound := by unfold rangeBound; infer_instance

instance : Tidies g.rangeTail := by unfold rangeTail; infer_instance

instance : Tidies g.fieldPattern := by unfold fieldPattern; infer_instance

instance : Tidies g.structPattern := by unfold structPattern; infer_instance

instance : Tidies g.pathPattern := by unfold pathPattern; infer_instance

instance : Tidies g.onePattern := by unfold onePattern; infer_instance

/-! ## Expressions -/

instance (allowStruct : Bool) (precedence fuel : Nat) (form : ExpressionForm) :
    Tidies (g.rightOperandWithin allowStruct precedence fuel form) := by
  induction fuel generalizing form with
  | zero =>
      unfold rightOperandWithin
      infer_instance
  | succ fuel ih =>
      unfold rightOperandWithin
      infer_instance

instance (allowStruct : Bool) (precedence : Nat) :
    Tidies (g.rightOperand allowStruct precedence) := by
  unfold rightOperand; infer_instance

instance (allowStruct : Bool) : Tidies (g.rangeOperator allowStruct) := by
  unfold rangeOperator; infer_instance

instance : Tidies checkCast := by unfold checkCast; infer_instance

instance (allowStruct : Bool) (base fuel : Nat) (form : ExpressionForm) :
    Tidies (g.operatorsWithin allowStruct base fuel form) := by
  induction fuel generalizing form with
  | zero =>
      unfold operatorsWithin
      infer_instance
  | succ fuel ih =>
      unfold operatorsWithin
      repeat' first | infer_instance | refine .step fun _ => ?_ | refine .choice ?_ ?_ | split

instance (allowStruct : Bool) (base : Nat) (form : ExpressionForm) :
    Tidies (g.someOperators allowStruct base form) := by
  unfold someOperators; infer_instance

instance (allowStruct : Bool) : Tidies (g.oneExpression allowStruct) := by
  unfold oneExpression; infer_instance

instance : Tidies g.expressions := by unfold expressions; infer_instance

instance : Tidies g.fieldValue := by unfold fieldValue; infer_instance

instance : Tidies g.structLiteral := by unfold structLiteral; infer_instance

instance (allowStruct : Bool) : Tidies (g.pathExpression allowStruct) := by
  unfold pathExpression; infer_instance

instance : Tidies g.closureArgument := by unfold closureArgument; infer_instance

instance (allowStruct : Bool) : Tidies (g.closure allowStruct) := by
  unfold closure
  repeat' first | infer_instance | refine .step fun _ => ?_

instance : Tidies g.arrayExpression := by unfold arrayExpression; infer_instance

instance : Tidies label := by unfold label; infer_instance

instance (allowStruct : Bool) : Tidies (g.breakExpression allowStruct) := by
  unfold breakExpression; infer_instance

instance : Tidies g.optionalExpression := by unfold optionalExpression; infer_instance

instance : Tidies g.letExpression := by unfold letExpression; infer_instance

instance : Tidies g.ifExpression := by unfold ifExpression; infer_instance

instance : Tidies g.whileExpression := by unfold whileExpression; infer_instance

instance : Tidies g.forExpression := by unfold forExpression; infer_instance

instance : Tidies g.loopExpression := by unfold loopExpression; infer_instance

instance : Tidies g.labelledExpression := by unfold labelledExpression; infer_instance

instance : Tidies g.matchArm := by unfold matchArm; infer_instance

instance : Tidies g.matchExpression := by unfold matchExpression; infer_instance

instance (keyword : String) : Tidies (g.wordBlock keyword) := by unfold wordBlock; infer_instance

instance : Tidies g.asyncBlock := by unfold asyncBlock; infer_instance

theorem tidies_blockExpression? (tokens : Tokens) :
    ∀ parser ∈ g.blockExpression? tokens, Tidies parser := by
  unfold blockExpression?
  dsimp only
  repeat' split
  all_goals intro parser member
  all_goals cases member
  all_goals infer_instance

instance (allowStruct : Bool) : Tidies (g.atom allowStruct) := by
  unfold atom
  refine .step fun tokens => ?_
  refine .choice inferInstance (.choice inferInstance ?_)
  split
  · rename_i parser found
    have := g.tidies_blockExpression? tokens parser found
    infer_instance
  · infer_instance

/-- Field numbers are digits alone. -/
theorem digits_of_fieldNumbers? {text : String} {numbers : List String}
    (found : fieldNumbers? text = some numbers) :
    ∀ number ∈ numbers, ∀ c ∈ number.toList, Text.isDigit c = true := by
  rw [fieldNumbers?] at found
  split at found
  · rename_i counted
    simp only [Bool.and_eq_true, List.all_eq_true, Bool.or_eq_true, beq_iff_eq] at counted
    cases found
    intro number member c inside
    obtain ⟨part, partMember, rfl⟩ := List.mem_map.mp member
    rw [String.toList_ofList] at inside
    obtain ⟨present, other⟩ := mem_splitOn partMember inside
    exact (counted.2 c present).resolve_right other
  · contradiction

theorem tidy_numbers {numbers : List String} {position : Position}
    (each : ∀ number ∈ numbers, number ≠ "" ∧ ∀ c ∈ number.toList, Text.isDigit c = true) :
    Tidy ((numbers.map fun number => [Token.literal number position]).intersperse
      (Token.ofOperator ".")).flatten := by
  have literal : ∀ number ∈ numbers, Tidy [Token.literal number position] := fun number member =>
    .single (.literal (Literal.readable_digits (each number member).1 (each number member).2)) rfl
  clear each
  induction numbers with
  | nil => exact .nil
  | cons number rest ih =>
      obtain ⟨first, others⟩ := List.forall_mem_cons.mp literal
      cases rest with
      | nil => exact first
      | cons next rest =>
          exact first.append ((Token.tidy_ofOperator (by decide)).append (ih others))

instance : Tidies g.namedAccess where
  keeps := by
    unfold namedAccess
    refine .step fun _ => .choice ?_ (.result trivial)
    refine .step fun _ => .step fun tokens => .choice ?_ Tidies.keeps
    exact (keeps_quiet g.keeps_argumentsForm).bind fun _ tidyArguments =>
      (keeps_write tidyArguments).bind fun _ _ => Tidies.keeps

instance : Tidies g.pointAccess where
  keeps := by
    unfold pointAccess
    refine .step fun _ => KeepsAt.look fun tokens _ => ?_
    split
    · rename_i text position rest _
      cases found : fieldNumbers? text with
      | none => exact .of_keeps (.failWanting _)
      | some numbers =>
          have each : ∀ number ∈ numbers.filter (!·.isEmpty), number ≠ "" ∧
              ∀ c ∈ number.toList, Text.isDigit c = true := by
            intro number member
            obtain ⟨member, filled⟩ := List.mem_filter.mp member
            exact ⟨by simpa using filled, digits_of_fieldNumbers? found number member⟩
          have taken : KeepsAt (.literal text position :: rest) (fun _ => True) take :=
            .take (by simp [Token.isJoint])
          refine taken.quiet.bind fun _ _ => (keeps_write (tidy_numbers each)).bind fun _ _ => ?_
          refine .choice ?_ (.result trivial)
          exact (keeps_write (Token.tidy_ofOperator (by decide))).bind fun _ _ => Tidies.keeps
    · exact .of_keeps Tidies.keeps

instance (form : ExpressionForm) : Tidies (g.accesses form) := by unfold accesses; infer_instance

instance (allowStruct : Bool) : Tidies (g.oneOperand allowStruct) := by
  unfold oneOperand
  repeat' first | infer_instance | refine .step fun _ => ?_ | refine .choice ?_ ?_ | split

instance : Tidies g.oneBody := by
  unfold oneBody
  refine .step fun _ => .step fun tokens => ?_
  split
  · rename_i parser found
    have := g.tidies_blockExpression? tokens parser found
    infer_instance
  · infer_instance

/-! ## Statements -/

instance : Tidies g.letStatement := by
  unfold letStatement
  repeat' first | infer_instance | refine .step fun _ => ?_

instance : Tidies g.statement := by unfold statement; infer_instance

instance : Tidies g.someStatements := by unfold someStatements; infer_instance

/-! ## Items -/

instance : Tidies here := by unfold here; infer_instance

instance : Tidies visibility where
  keeps := by
    unfold visibility
    refine .step fun _ => .choice (KeepsAt.look fun tokens _ => ?_) (.result trivial)
    split
    · refine .choice (fun _ => ?_) Tidies.keeps
      exact (KeepsAt.take (by simp [Token.isJoint])).bind fun _ _ => .result trivial
    · exact .of_keeps (.result trivial)

instance : Tidies g.namedField := by unfold namedField; infer_instance

instance : Tidies g.unnamedField := by unfold unnamedField; infer_instance

instance : Tidies g.namedFields := by unfold namedFields; infer_instance

instance : Tidies g.unnamedFields := by unfold unnamedFields; infer_instance

instance : Tidies g.structFields := by unfold structFields; infer_instance

instance : Tidies g.variant := by
  unfold variant
  repeat' first | infer_instance | refine .step fun _ => ?_

instance : Tidies g.variants := by unfold variants; infer_instance

instance : Tidies g.unionFields := by unfold unionFields; infer_instance

instance (attributes : List Attribute) : Tidies (g.deriveInput attributes) := by
  unfold deriveInput
  simp only [pure_bind]
  infer_instance

instance (attributes : List Attribute) : Tidies (g.definition attributes) := by
  unfold definition
  infer_instance

instance : Tidies g.receiver := by unfold receiver; infer_instance

instance (isFirst : Bool) : Tidies (g.functionArgument isFirst) := by
  unfold functionArgument
  repeat' first | infer_instance | refine .step fun _ => ?_

instance (isFirst : Bool) (fuel : Nat) : Tidies (g.functionArgumentsWithin isFirst fuel) := by
  induction fuel generalizing isFirst with
  | zero => unfold functionArgumentsWithin; infer_instance
  | succ fuel ih => unfold functionArgumentsWithin; infer_instance

instance (allowSafe : Bool) : Tidies (g.signature allowSafe) := by
  unfold signature
  refine .step fun _ => .step fun _ => .step fun _ =>
    .choice (.step fun _ => ?_) (.step fun _ => ?_)
  all_goals
    refine .step fun _ => .choice ?_ inferInstance
    exact .takeWhere _ fun _ => unjoint_of_atString

instance : Tidies g.functionBody := by unfold functionBody; infer_instance

instance : Tidies g.initialValue := by unfold initialValue; infer_instance

instance : Tidies g.constantForm := by unfold constantForm; infer_instance

instance (stop : Tokens → Bool) : Tidies (g.optionalBounds stop) := by
  unfold optionalBounds; infer_instance

instance (before behind : Bool) : Tidies (g.typeAlias before behind) := by
  unfold typeAlias
  repeat' first | infer_instance | refine .step fun _ => ?_

instance (delimiter : Delimiter) : Tidies (macroEnd delimiter) := by
  unfold macroEnd; infer_instance

instance : Tidies memberMacro := by unfold memberMacro; infer_instance

instance : Tidies itemMacro := by unfold itemMacro; infer_instance

instance : Tidies macroDefinition where
  keeps := by
    unfold macroDefinition
    have body : Keeps (fun _ => True) (ahead >>= fun tokens =>
        if tokens.atGroup .brace then take else failWanting "curly braces") :=
      KeepsAt.look fun tokens _ => .choice (fun braced => KeepsAt.take (unjoint_of_atGroup braced))
        (.failWanting _)
    refine .step fun _ => .step fun _ =>
      KeepsAt.look fun tokens _ => .choice (fun listed => ?_) body
    exact (KeepsAt.take (unjoint_of_atGroup listed)).bind fun _ _ => body

instance : Tidies g.traitMember := by
  unfold traitMember
  infer_instance

instance : Tidies g.implementationMember := by
  unfold implementationMember
  infer_instance

instance (member : Parser (Option AssociatedItem)) [Tidies member] : Tidies (g.members member) := by
  unfold members; infer_instance

instance (attributes : List Attribute) : Tidies (g.traitItem attributes) := by
  unfold traitItem
  repeat' first | infer_instance | refine .step fun _ => ?_

instance (isPublic : Bool) : Tidies (g.implementation isPublic) := by
  unfold implementation
  repeat' first | infer_instance | refine .step fun _ => ?_ | refine .choice ?_ ?_

instance : Tidies g.moduleItem := by unfold moduleItem; infer_instance

instance : Tidies rename := by unfold rename; infer_instance

instance (allowRoot : Bool) : Tidies (g.oneUseTree allowRoot) := by
  unfold oneUseTree; infer_instance

instance : Tidies g.useItem := by unfold useItem; infer_instance

instance : Tidies externCrate := by unfold externCrate; infer_instance

instance : Tidies g.foreignItem := by
  unfold foreignItem
  repeat' first | infer_instance | refine .step fun _ => ?_

instance : Tidies g.foreignModule := by
  unfold foreignModule
  refine .step fun _ => .step fun _ => ?_
  exact .takeWhere _ fun _ => unjoint_of_atString

instance : Tidies g.staticItem := by unfold staticItem; infer_instance

instance (parser : Parser Unit) [Tidies parser] : Tidies (skipped parser) := by
  unfold skipped; infer_instance

instance : Tidies g.oneItem := by unfold oneItem; infer_instance

instance : Grammar.empty.KeepsTidy where
  type _ := .failWanting _
  bound _ _ := inferInstanceAs (Tidies (failWanting _))
  expression _ := inferInstanceAs (Tidies (failWanting _))
  operand _ := inferInstanceAs (Tidies (failWanting _))
  operators _ _ _ := inferInstanceAs (Tidies (failWanting _))
  body := inferInstanceAs (Tidies (failWanting _))
  pattern := inferInstanceAs (Tidies (failWanting _))
  statements := inferInstanceAs (Tidies (failWanting _))
  item := inferInstanceAs (Tidies (failWanting _))
  fields := inferInstanceAs (Tidies (failWanting _))
  useTree _ := inferInstanceAs (Tidies (failWanting _))

instance deepen_keepsTidy : g.deepen.KeepsTidy where
  type := g.keeps_oneType
  bound _ _ := inferInstanceAs (Tidies (g.oneBound _ _))
  expression _ := inferInstanceAs (Tidies (g.oneExpression _))
  operand _ := inferInstanceAs (Tidies (g.oneOperand _))
  operators _ _ _ := inferInstanceAs (Tidies (g.someOperators _ _ _))
  body := inferInstanceAs (Tidies g.oneBody)
  pattern := inferInstanceAs (Tidies g.onePattern)
  statements := inferInstanceAs (Tidies g.someStatements)
  item := inferInstanceAs (Tidies g.oneItem)
  fields := inferInstanceAs (Tidies g.namedFields)
  useTree _ := inferInstanceAs (Tidies (g.oneUseTree _))

instance ofDepth_keepsTidy (depth : Nat) : (ofDepth depth).KeepsTidy := by
  induction depth with
  | zero => exact inferInstanceAs (Grammar.empty.KeepsTidy)
  | succ depth ih => exact deepen_keepsTidy (ofDepth depth)

end Grammar

/-- The tokens of a path that was read are tidy. -/
theorem Reader.path_tidy {text : String} {path : TypeExpr} (read : Reader.path text = .ok path) :
    Tidy path.tokens := by
  rw [Reader.path, parseAll] at read
  split at read
  · contradiction
  · rename_i tokens found
    obtain ⟨written, parsed⟩ := runAll_eq_ok.mp read
    have tidied : Tidied ⟨tokens, [], none⟩ := ⟨tokenize_tidy found, .nil⟩
    exact ((Grammar.keeps_path _ false).kept tidied parsed).2

end StorageMapping.Source
