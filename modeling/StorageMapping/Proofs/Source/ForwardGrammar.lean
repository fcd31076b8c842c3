import StorageMapping.Proofs.Source.Forward
import StorageMapping.Source.Reader

namespace StorageMapping.Source

open StorageMapping.Source.Parser

/-! # The grammar goes forward

Every part of the grammar goes forward if the nested ones do, so the grammar of any depth does.
What stands only inside groups is not listed: a group is passed over whatever it holds. -/

set_option synthInstance.maxSize 1000

/-- A grammar whose nested parsers go forward. -/
class Grammar.GoesForward (g : Grammar) : Prop where
  type : ∀ allowPlus, Forward (g.type allowPlus)
  bound : ∀ allowCaptures allowConstant, Forward (g.bound allowCaptures allowConstant)
  expression : ∀ allowStruct, Forward (g.expression allowStruct)
  operand : ∀ allowStruct, Forward (g.operand allowStruct)
  operators : ∀ allowStruct base form, Forward (g.operators allowStruct base form)
  pattern : Forward g.pattern
  item : Forward g.item
  fields : Forward g.fields
  useTree : ∀ allowRoot, Forward (g.useTree allowRoot)

attribute [instance] Grammar.GoesForward.type Grammar.GoesForward.bound
  Grammar.GoesForward.expression Grammar.GoesForward.operand Grammar.GoesForward.operators
  Grammar.GoesForward.pattern Grammar.GoesForward.item Grammar.GoesForward.fields
  Grammar.GoesForward.useTree

instance : Forward plainSegment := by unfold plainSegment; infer_instance

instance : Forward plainPath := by unfold plainPath; infer_instance

instance : Forward macroCall := by unfold macroCall; infer_instance

namespace Grammar

variable (g : Grammar) [g.GoesForward]

instance (isInner : Bool) : Forward (g.attributeBody isInner) := by
  unfold attributeBody; infer_instance

instance : Forward g.outerAttribute := by unfold outerAttribute; infer_instance

instance : Forward g.outerAttributes := by unfold outerAttributes; infer_instance

instance : Forward g.innerAttributes := by unfold innerAttributes; infer_instance

instance : Forward g.block := by unfold block; infer_instance

/-! ## Paths, types and bounds -/

instance : Forward g.constantArgument := by unfold constantArgument; infer_instance

instance (stop : Tokens → Bool) : Forward (g.boundsUntil stop) := by
  unfold boundsUntil; infer_instance

instance : Forward g.argumentForm := by
  unfold argumentForm
  repeat' first | infer_instance | refine .step fun _ => ?_ | refine .choice ?_ ?_ | split

instance : Forward g.argumentsForm := by unfold argumentsForm; infer_instance

instance (inExpression : Bool) : Forward (g.segmentForm inExpression) := by
  unfold segmentForm; infer_instance

instance (inExpression : Bool) : Forward (g.segmentsForm inExpression) := by
  unfold segmentsForm; infer_instance

instance (inExpression : Bool) : Forward (g.pathForm inExpression) := by
  unfold pathForm; infer_instance

instance (form : Parser TypeExpr) [Forward form] : Forward (printed form) := by
  unfold printed; infer_instance

instance (inExpression : Bool) : Forward (g.path inExpression) := by unfold path; infer_instance

instance (inExpression : Bool) : Forward (g.qualifiedPathForm inExpression) := by
  unfold qualifiedPathForm; infer_instance

instance (allowPlus : Bool) : Forward (g.returnType allowPlus) := by
  unfold returnType; infer_instance

instance : Forward g.parameter := by
  unfold parameter
  repeat' first | infer_instance | refine .step fun _ => ?_

instance : Forward g.someParameters := by unfold someParameters; infer_instance

instance : Forward g.parameters := by unfold parameters; infer_instance

instance : Forward g.binder := by unfold binder; infer_instance

instance : Forward g.optionalBinder := by unfold optionalBinder; infer_instance

instance (allowConstant : Bool) : Forward (constantMark allowConstant) := by
  unfold constantMark; infer_instance

instance (allowConstant : Bool) : Forward (g.traitBound allowConstant) := by
  unfold traitBound; infer_instance

instance : Forward captures := by unfold captures; infer_instance

instance (allowCaptures allowConstant : Bool) :
    Forward (g.oneBound allowCaptures allowConstant) := by
  unfold oneBound; infer_instance

instance (allowPlus allowCaptures allowConstant : Bool) (wanting : String) :
    Forward (g.traitBounds allowPlus allowCaptures allowConstant wanting) := by
  unfold traitBounds; infer_instance

instance (allowPlus : Bool) : Forward (g.objectBounds allowPlus) := by
  unfold objectBounds; infer_instance

instance : Forward g.moreBounds := by unfold moreBounds; infer_instance

instance : Forward g.whereClause := by
  unfold whereClause
  repeat' first | infer_instance | refine .step fun _ => ?_

instance (parser : Parser Unit) [Forward parser] : Forward (keepTokens parser) := by
  unfold keepTokens; infer_instance

instance : Forward g.functionType := by unfold functionType; infer_instance

instance : Forward g.parenthesized := by unfold parenthesized; infer_instance

instance (allowPlus : Bool) : Forward (g.parenthesizedForm allowPlus) := by
  unfold parenthesizedForm
  repeat' first | infer_instance | refine .step fun _ => ?_ | refine .choice ?_ ?_ | split

instance (allowPlus bound : Bool) : Forward (g.pathTypeForm allowPlus bound) := by
  unfold pathTypeForm
  repeat' first | infer_instance | refine .step fun _ => ?_ | refine .choice ?_ ?_ | split

instance (allowPlus : Bool) : Forward (g.typeForm allowPlus) := by unfold typeForm; infer_instance

instance (allowPlus : Bool) : Forward (g.oneType allowPlus) := by unfold oneType; infer_instance

/-! ## Patterns -/

instance : Forward g.alternatives := by unfold alternatives; infer_instance

instance : Forward memberName := by
  unfold memberName
  repeat' first | infer_instance | refine .step fun _ => ?_ | refine .choice ?_ ?_ | split

instance : Forward g.expressionPath := by unfold expressionPath; infer_instance

instance : Forward g.constantBlock := by unfold constantBlock; infer_instance

instance : Forward g.rangeBound := by unfold rangeBound; infer_instance

instance : Forward g.rangeTail := by unfold rangeTail; infer_instance

instance : Forward g.structPattern := by unfold structPattern; infer_instance

instance : Forward g.pathPattern := by unfold pathPattern; infer_instance

instance : Forward g.onePattern := by unfold onePattern; infer_instance

/-! ## Expressions -/

instance (allowStruct : Bool) (precedence fuel : Nat) (form : ExpressionForm) :
    Forward (g.rightOperandWithin allowStruct precedence fuel form) := by
  induction fuel generalizing form with
  | zero =>
      unfold rightOperandWithin
      infer_instance
  | succ fuel ih =>
      unfold rightOperandWithin
      infer_instance

instance (allowStruct : Bool) (precedence : Nat) :
    Forward (g.rightOperand allowStruct precedence) := by
  unfold rightOperand; infer_instance

instance (allowStruct : Bool) : Forward (g.rangeOperator allowStruct) := by
  unfold rangeOperator; infer_instance

instance : Forward checkCast := by unfold checkCast; infer_instance

instance (allowStruct : Bool) (base fuel : Nat) (form : ExpressionForm) :
    Forward (g.operatorsWithin allowStruct base fuel form) := by
  induction fuel generalizing form with
  | zero =>
      unfold operatorsWithin
      infer_instance
  | succ fuel ih =>
      unfold operatorsWithin
      repeat' first | infer_instance | refine .step fun _ => ?_ | refine .choice ?_ ?_ | split

instance (allowStruct : Bool) (base : Nat) (form : ExpressionForm) :
    Forward (g.someOperators allowStruct base form) := by
  unfold someOperators; infer_instance

instance (allowStruct : Bool) : Forward (g.oneExpression allowStruct) := by
  unfold oneExpression; infer_instance

instance : Forward g.expressions := by unfold expressions; infer_instance

instance : Forward g.structLiteral := by unfold structLiteral; infer_instance

instance (allowStruct : Bool) : Forward (g.pathExpression allowStruct) := by
  unfold pathExpression; infer_instance

instance : Forward g.closureArgument := by unfold closureArgument; infer_instance

instance (allowStruct : Bool) : Forward (g.closure allowStruct) := by
  unfold closure
  repeat' first | infer_instance | refine .step fun _ => ?_

instance : Forward g.arrayExpression := by unfold arrayExpression; infer_instance

instance : Forward label := by unfold label; infer_instance

instance (allowStruct : Bool) : Forward (g.breakExpression allowStruct) := by
  unfold breakExpression; infer_instance

instance : Forward g.optionalExpression := by unfold optionalExpression; infer_instance

instance : Forward g.letExpression := by unfold letExpression; infer_instance

instance : Forward g.ifExpression := by unfold ifExpression; infer_instance

instance : Forward g.whileExpression := by unfold whileExpression; infer_instance

instance : Forward g.forExpression := by unfold forExpression; infer_instance

instance : Forward g.loopExpression := by unfold loopExpression; infer_instance

instance : Forward g.labelledExpression := by unfold labelledExpression; infer_instance

instance : Forward g.matchExpression := by unfold matchExpression; infer_instance

instance (keyword : String) : Forward (g.wordBlock keyword) := by unfold wordBlock; infer_instance

instance : Forward g.asyncBlock := by unfold asyncBlock; infer_instance

theorem forward_blockExpression? (tokens : Tokens) :
    ∀ parser ∈ g.blockExpression? tokens, Forward parser := by
  unfold blockExpression?
  dsimp only
  repeat' split
  all_goals intro parser member
  all_goals cases member
  all_goals infer_instance

instance (allowStruct : Bool) : Forward (g.atom allowStruct) := by
  unfold atom
  refine .step fun tokens => ?_
  refine .choice inferInstance (.choice inferInstance ?_)
  split
  · rename_i parser found
    have := g.forward_blockExpression? tokens parser found
    infer_instance
  · infer_instance

instance : Forward g.namedAccess := by unfold namedAccess; infer_instance

instance : Forward g.pointAccess := by
  unfold pointAccess
  repeat' first | infer_instance | refine .step fun _ => ?_ | refine .choice ?_ ?_ | split

instance (form : ExpressionForm) : Forward (g.accesses form) := by unfold accesses; infer_instance

instance (allowStruct : Bool) : Forward (g.oneOperand allowStruct) := by
  unfold oneOperand
  repeat' first | infer_instance | refine .step fun _ => ?_ | refine .choice ?_ ?_ | split

/-! ## Items -/

instance : Forward here := by unfold here; infer_instance

instance : Forward visibility := by
  unfold visibility
  repeat' first | infer_instance | refine .step fun _ => ?_ | refine .choice ?_ ?_ | split

instance : Forward g.namedField := by unfold namedField; infer_instance

instance : Forward g.unnamedField := by unfold unnamedField; infer_instance

instance : Forward g.namedFields := by unfold namedFields; infer_instance

instance : Forward g.unnamedFields := by unfold unnamedFields; infer_instance

instance : Forward g.variant := by
  unfold variant
  repeat' first | infer_instance | refine .step fun _ => ?_

instance : Forward g.structFields := by unfold structFields; infer_instance

instance : Forward g.variants := by unfold variants; infer_instance

instance : Forward g.unionFields := by unfold unionFields; infer_instance

instance (attributes : List Attribute) : Forward (g.deriveInput attributes) := by
  unfold deriveInput
  simp only [pure_bind]
  infer_instance

instance (attributes : List Attribute) : Forward (g.definition attributes) := by
  unfold definition
  infer_instance

instance (allowSafe : Bool) : Forward (g.signature allowSafe) := by
  unfold signature
  repeat' first | infer_instance | refine .step fun _ => ?_ | refine .choice ?_ ?_

instance : Forward g.functionBody := by unfold functionBody; infer_instance

instance : Forward g.initialValue := by unfold initialValue; infer_instance

instance : Forward g.constantForm := by
  unfold constantForm
  infer_instance

instance (stop : Tokens → Bool) : Forward (g.optionalBounds stop) := by
  unfold optionalBounds; infer_instance

instance (before behind : Bool) : Forward (g.typeAlias before behind) := by
  unfold typeAlias
  repeat' first | infer_instance | refine .step fun _ => ?_

instance (delimiter : Delimiter) : Forward (macroEnd delimiter) := by
  unfold macroEnd; infer_instance

instance : Forward memberMacro := by unfold memberMacro; infer_instance

instance : Forward itemMacro := by unfold itemMacro; infer_instance

instance : Forward macroDefinition := by unfold macroDefinition; infer_instance

instance (member : Parser (Option AssociatedItem)) : Forward (g.members member) := by
  unfold members
  infer_instance

instance (attributes : List Attribute) : Forward (g.traitItem attributes) := by
  unfold traitItem
  repeat' first | infer_instance | refine .step fun _ => ?_

instance (isPublic : Bool) : Forward (g.implementation isPublic) := by
  unfold implementation
  repeat' first | infer_instance | refine .step fun _ => ?_ | refine .choice ?_ ?_

instance : Forward g.moduleItem := by unfold moduleItem; infer_instance

instance : Forward rename := by unfold rename; infer_instance

instance (allowRoot : Bool) : Forward (g.oneUseTree allowRoot) := by
  unfold oneUseTree; infer_instance

instance : Forward g.useItem := by unfold useItem; infer_instance

instance : Forward externCrate := by unfold externCrate; infer_instance

instance : Forward g.foreignModule := by unfold foreignModule; infer_instance

instance : Forward g.staticItem := by unfold staticItem; infer_instance

instance (parser : Parser Unit) [Forward parser] : Forward (skipped parser) := by
  unfold skipped; infer_instance

instance : Forward g.oneItem := by unfold oneItem; infer_instance

instance : Grammar.empty.GoesForward := by
  constructor <;> intros <;> exact inferInstanceAs (Forward (failWanting _))

instance deepen_goesForward : g.deepen.GoesForward where
  type _ := inferInstanceAs (Forward (g.oneType _))
  bound _ _ := inferInstanceAs (Forward (g.oneBound _ _))
  expression _ := inferInstanceAs (Forward (g.oneExpression _))
  operand _ := inferInstanceAs (Forward (g.oneOperand _))
  operators _ _ _ := inferInstanceAs (Forward (g.someOperators _ _ _))
  pattern := inferInstanceAs (Forward g.onePattern)
  item := inferInstanceAs (Forward g.oneItem)
  fields := inferInstanceAs (Forward g.namedFields)
  useTree _ := inferInstanceAs (Forward (g.oneUseTree _))

instance ofDepth_goesForward (depth : Nat) : (ofDepth depth).GoesForward := by
  induction depth with
  | zero => exact inferInstanceAs (Grammar.empty.GoesForward)
  | succ depth ih => exact deepen_goesForward (ofDepth depth)

end Grammar

end StorageMapping.Source
