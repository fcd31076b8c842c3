import StorageMapping.Source.Grammar.Patterns

namespace StorageMapping.Source

open StorageMapping.Source.Parser

/-! Expressions. Only what decides whether a text parses is kept of them. -/

namespace Grammar

/-! The precedence of binary operators, loosest first. -/

namespace Precedence

def lowest : Nat := 0
def assignment : Nat := 1
def range : Nat := 2
def disjunction : Nat := 3
def conjunction : Nat := 4
def comparison : Nat := 6
def cast : Nat := 13

end Precedence

/-- Binary operators, longer ones before those they begin with. -/
def binaryOperators : List (String × Nat) :=
  [("+=", 1), ("-=", 1), ("*=", 1), ("/=", 1), ("%=", 1), ("^=", 1), ("&=", 1), ("|=", 1),
    ("<<=", 1), (">>=", 1), ("&&", 4), ("||", 3), ("<<", 10), (">>", 10), ("==", 6), ("<=", 6),
    ("!=", 6), (">=", 6), ("+", 11), ("-", 11), ("*", 12), ("/", 12), ("%", 12), ("^", 8),
    ("&", 9), ("|", 7), ("<", 6), (">", 6)]

def binaryOperator? (tokens : Tokens) : Option (String × Nat) :=
  binaryOperators.find? fun (symbol, _) => tokens.atOperator symbol

def atAssignment (tokens : Tokens) : Bool :=
  tokens.atOperator "=" && !tokens.atOperator "=>"

/-- A point that is no range. -/
def atPoint (tokens : Tokens) : Bool := tokens.atOperator "." && !tokens.atOperator ".."

/-- The precedence of the operator at the front. -/
def nextPrecedence (tokens : Tokens) : Nat :=
  match binaryOperator? tokens with
  | some (_, precedence) => precedence
  | none =>
      if atAssignment tokens then Precedence.assignment
      else if tokens.atOperator ".." then Precedence.range
      else if tokens.atWord "as" then Precedence.cast
      else Precedence.lowest

variable (g : Grammar)

/-! Operators. -/

def rightOperandWithin (allowStruct : Bool) (precedence : Nat) :
    Nat → ExpressionForm → Parser Unit
  | 0, _ => return
  | fuel + 1, form => do
      let before ← ahead
      let next := nextPrecedence before
      if next > precedence
          || (next == precedence && precedence == Precedence.assignment) then
        let form ← g.operators allowStruct next form
        if (← ahead).length < before.length then
          rightOperandWithin allowStruct precedence fuel form

/-- The right operand of an operator, with the tighter operators behind it. -/
def rightOperand (allowStruct : Bool) (precedence : Nat) : Parser Unit := do
  let form ← g.operand allowStruct
  g.rightOperandWithin allowStruct precedence ((← ahead).length + 1) form

/-- The upper end of a half-open range is missing where one of these follows. -/
def endsHalfOpen (allowStruct : Bool) (tokens : Tokens) : Bool :=
  tokens.isEmpty || tokens.atOperator "," || tokens.atOperator ";" || atPoint tokens
    || tokens.atOperator "?" || tokens.atOperator "=>" || tokens.atOperator "="
    || tokens.atOperator "+" || tokens.atOperator "/" || tokens.atOperator "%"
    || tokens.atOperator "^" || tokens.atOperator ">" || tokens.atOperator "<="
    || tokens.atOperator "!=" || tokens.atOperator "-=" || tokens.atOperator "*="
    || tokens.atOperator "&=" || tokens.atOperator "|=" || tokens.atOperator "<<="
    || tokens.atWord "as" || (!allowStruct && tokens.atGroup .brace)

def rangeOperator (allowStruct : Bool) : Parser Unit := do
  if ← acceptOperator "..=" then g.rightOperand allowStruct Precedence.range
  else if (← ahead).atOperator "..." then fail (.unexpected "`..` or `..=`")
  else
    operator ".."
    if !endsHalfOpen allowStruct (← ahead) then g.rightOperand allowStruct Precedence.range

/-- A cast may not be followed by what would bind to the type. -/
def checkCast : Parser Unit := do
  let tokens ← ahead
  if atPoint tokens || tokens.atOperator "?" || tokens.atGroup .bracket
      || tokens.atGroup .parenthesis then
    fail (.forbidden "casts cannot be followed by other accesses")

def operatorsWithin (allowStruct : Bool) (base : Nat) :
    Nat → ExpressionForm → Parser ExpressionForm
  | 0, form => return form
  | fuel + 1, form => do
      let tokens ← ahead
      if form = .range then return form
      match binaryOperator? tokens with
      | some (symbol, precedence) =>
          if precedence < base then return form
          if precedence = Precedence.comparison && form = .comparison then
            fail (.forbidden "comparison operators cannot be chained")
          operator symbol
          g.rightOperand allowStruct precedence
          operatorsWithin allowStruct base fuel
            (if precedence = Precedence.comparison then .comparison else .plain)
      | none =>
          if base ≤ Precedence.assignment && atAssignment tokens then
            operator "="
            g.rightOperand allowStruct Precedence.assignment
            operatorsWithin allowStruct base fuel .plain
          else if base ≤ Precedence.range && tokens.atOperator ".." then
            g.rangeOperator allowStruct
            operatorsWithin allowStruct base fuel .range
          else if base ≤ Precedence.cast && tokens.atWord "as" then
            word "as"
            let _ ← g.type false
            checkCast
            operatorsWithin allowStruct base fuel .plain
          else return form

def someOperators (allowStruct : Bool) (base : Nat) (form : ExpressionForm) :
    Parser ExpressionForm := do
  g.operatorsWithin allowStruct base ((← ahead).length + 1) form

def oneExpression (allowStruct : Bool) : Parser ExpressionForm := do
  let form ← g.operand allowStruct
  g.operators allowStruct Precedence.lowest form

/-! Atoms. -/

def expressions : Parser Unit := do
  let _ ← commaSeparated (g.expression true)

/-- Can an expression begin here? -/
def atExpression (tokens : Tokens) : Bool :=
  (tokens.atAnyWord && !tokens.atWord "as") || tokens.atGroup .parenthesis
    || tokens.atGroup .bracket || tokens.atGroup .brace || tokens.atLiteral
    || (tokens.atOperator "!" && !tokens.atOperator "!=")
    || (tokens.atOperator "-" && !tokens.atOperator "-=" && !tokens.atOperator "->")
    || (tokens.atOperator "*" && !tokens.atOperator "*=")
    || (tokens.atOperator "|" && !tokens.atOperator "|=")
    || (tokens.atOperator "&" && !tokens.atOperator "&=") || tokens.atOperator ".."
    || (tokens.atOperator "<" && !tokens.atOperator "<=" && !tokens.atOperator "<<=")
    || tokens.atOperator "::" || tokens.atLifetime || tokens.atOperator "#"

def fieldValue : Parser Unit := do
  let _ ← g.outerAttributes
  let named ← memberName
  if !named || (← ahead).atOperator ":" then
    operator ":"
    let _ ← g.expression true

def structLiteral : Parser Unit :=
  group .brace do
    let _ ← many do
      if ← atEnd then return none
      if ← acceptOperator ".." then
        if !(← atEnd) then
          let _ ← g.expression true
        return none
      g.fieldValue
      if ← atEnd then return none
      operator ","
      return some ()

/-- A path, a macro call or a struct literal. -/
def pathExpression (allowStruct : Bool) : Parser ExpressionForm := do
  let path ← g.expressionPath
  let tokens ← ahead
  let plain := match path with
    | .path _ segments => segments.all (·.arguments.isNone)
    | _ => false
  if plain && tokens.atOperator "!" && !tokens.atOperator "!=" then
    let delimiter ← macroCall
    return if delimiter = .brace then .bracedCall else .plain
  if allowStruct && tokens.atGroup .brace then g.structLiteral
  return .plain

def closureArgument : Parser Unit := do
  let _ ← g.outerAttributes
  g.pattern
  if ← acceptOperator ":" then
    let _ ← g.type true

def closure (allowStruct : Bool) : Parser Unit := do
  let _ ← g.optionalBinder
  let _ ← acceptWord "const"
  let _ ← acceptWord "static"
  let _ ← acceptWord "async"
  let _ ← acceptWord "move"
  operator "|"
  let _ ← separated "," (·.atOperator "|") g.closureArgument
  operator "|"
  if (← ahead).atOperator "->" then
    g.returnType true
    let _ ← g.block
  else
    let _ ← g.expression allowStruct

def arrayExpression : Parser Unit :=
  group .bracket do
    if !(← atEnd) then
      let _ ← g.expression true
      if ← acceptOperator ";" then
        let _ ← g.expression true
      else if ← acceptOperator "," then g.expressions
      else if !(← atEnd) then failWanting "`,` or `;`"

def label : Parser Unit := do
  if (← ahead).atLifetime then
    let _ ← lifetime
    operator ":"

def breakExpression (allowStruct : Bool) : Parser Unit := do
  word "break"
  if (← ahead).atLifetime then
    if ((← ahead).skip 1).atOperator ":" then fail (.forbidden "parentheses required")
    let _ ← lifetime
  let tokens ← ahead
  if atExpression tokens && (allowStruct || !tokens.atGroup .brace) then
    let _ ← g.expression true

def optionalExpression : Parser Unit := do
  if atExpression (← ahead) then
    let _ ← g.expression true

/-- A condition that binds a pattern. -/
def letExpression : Parser Unit := do
  word "let"
  g.alternatives
  operator "="
  let form ← g.operand false
  let _ ← g.operators false Precedence.comparison form

/-- A condition and its block, and further ones behind `else`. -/
def ifExpression : Parser Unit := do
  let branch : Parser Unit := do
    word "if"
    let _ ← g.expression false
    let _ ← g.block
  branch
  let _ ← many do
    if ← acceptWord "else" then
      if (← ahead).atWord "if" then
        branch
        return some ()
      else if (← ahead).atGroup .brace then
        let _ ← g.block
        return none
      else failWanting "`if` or curly braces"
    else return none

def whileExpression : Parser Unit := do
  label
  word "while"
  let _ ← g.expression false
  let _ ← g.block

def forExpression : Parser Unit := do
  label
  word "for"
  g.alternatives
  word "in"
  let _ ← g.expression false
  let _ ← g.block

def loopExpression : Parser Unit := do
  label
  word "loop"
  let _ ← g.block

def labelledExpression : Parser Unit := do
  let body := (← ahead).skip 2
  if body.atWord "while" then g.whileExpression
  else if body.atWord "for" then g.forExpression
  else if body.atWord "loop" then g.loopExpression
  else if body.atGroup .brace then
    label
    let _ ← g.block
  else failWanting "loop or block expression"

def matchArm : Parser Unit := do
  let _ ← g.outerAttributes
  g.alternatives
  if ← acceptWord "if" then
    let _ ← g.expression true
  operator "=>"
  let form ← g.body
  if form = .block || (← atEnd) then
    let _ ← acceptOperator ","
  else operator ","

def matchExpression : Parser Unit := do
  word "match"
  let _ ← g.expression false
  group .brace do
    let _ ← g.innerAttributes
    let _ ← manyWhile (!·.isEmpty) g.matchArm

/-- A block behind a keyword. -/
def wordBlock (keyword : String) : Parser Unit := do
  word keyword
  let _ ← g.block

def asyncBlock : Parser Unit := do
  word "async"
  let _ ← acceptWord "move"
  let _ ← g.block

/-- `for` with parameters in angle brackets, which begins a closure and no loop. -/
def atClosureBinder (tokens : Tokens) : Bool :=
  tokens.atWord "for" && atParameters (tokens.skip 1)

/-- Expressions that end in a block of their own. -/
def blockExpression? (tokens : Tokens) : Option (Parser Unit) :=
  let second := tokens.skip 1
  if tokens.atWord "if" then some g.ifExpression
  else if tokens.atWord "while" then some g.whileExpression
  else if tokens.atWord "for" && !atClosureBinder tokens then some g.forExpression
  else if tokens.atWord "loop" then some g.loopExpression
  else if tokens.atWord "match" then some g.matchExpression
  else if tokens.atOneOf ["try", "unsafe", "const"] && second.atGroup .brace then
    some do
      let _ ← anyWord
      let _ ← g.block
  else if tokens.atGroup .brace then
    some do
      let _ ← g.block
  else if tokens.atLifetime then some g.labelledExpression
  else none

def atClosure (tokens : Tokens) : Bool :=
  let second := tokens.skip 1
  tokens.atOperator "|" || tokens.atOneOf ["move", "static"] || atClosureBinder tokens
    || tokens.atWord "const"
    || (tokens.atWord "async" && (second.atOperator "|" || second.atWord "move"))

/-- An expression without signs in front and accesses behind. -/
def atom (allowStruct : Bool) : Parser ExpressionForm := do
  let tokens ← ahead
  let second := tokens.skip 1
  if tokens.atLiteral then
    literal
    return .plain
  if tokens.atWord "async" && (second.atGroup .brace
      || (second.atWord "move" && (tokens.skip 2).atGroup .brace)) then
    g.asyncBlock
    return .plain
  match g.blockExpression? tokens with
  | some parser =>
      parser
      return .block
  | none =>
      if atClosure tokens then
        g.closure allowStruct
        return .plain
      if atPathStart tokens
          || (tokens.atWord "try" && (second.atOperator "!" || second.atOperator "::")) then
        return ← g.pathExpression allowStruct
      if tokens.atGroup .parenthesis then group .parenthesis g.expressions
      else if tokens.atWord "break" then g.breakExpression allowStruct
      else if tokens.atWord "continue" then
        word "continue"
        if (← ahead).atLifetime then
          let _ ← lifetime
      else if tokens.atOneOf ["return", "yield"] then
        let _ ← anyWord
        g.optionalExpression
      else if tokens.atWord "become" then
        word "become"
        let _ ← g.expression true
      else if tokens.atGroup .bracket then g.arrayExpression
      else if tokens.atWord "let" then g.letExpression
      else if tokens.atOperator ".." then
        g.rangeOperator allowStruct
        return .range
      else if tokens.atWord "_" then word "_"
      else failWanting "an expression"
      return .plain

/-! Accesses and signs. -/

/-- The field numbers in a literal. What looks like a decimal number holds two of them, and the
last one is empty where the literal ends in a point. -/
def fieldNumbers? (text : String) : Option (List String) :=
  if Literal.isNumber text && text.toList.all fun c => Text.isDigit c || c == '.' then
    some ((text.toList.splitOn '.').map String.ofList)
  else none

/-- A field, a method call or the end of a wait, behind its point. -/
def namedAccess : Parser Unit := do
  if !(← acceptWord "await") then
    let _ ← memberName
    let tokens ← ahead
    if tokens.atOperator "::" then
      let arguments ← quiet g.argumentsForm
      write arguments.tokens
      group .parenthesis g.expressions
    else if tokens.atGroup .parenthesis then group .parenthesis g.expressions

/-- What stands behind a point. -/
def pointAccess : Parser Unit := do
  operator "."
  match ← ahead with
  | .literal text position :: _ =>
      match fieldNumbers? text with
      | none => failWanting "identifier or integer"
      | some numbers =>
          let _ ← quiet take
          let written := numbers.filter (!·.isEmpty)
          write ((written.map fun number => [Token.literal number position]).intersperse
            (Token.ofOperator ".")).flatten
          if written.length < numbers.length then
            write (Token.ofOperator ".")
            g.namedAccess
  | _ => g.namedAccess

/-- Calls, accesses, indices and question marks behind an atom. -/
def accesses (form : ExpressionForm) : Parser ExpressionForm := do
  let found ← many do
    let tokens ← ahead
    if tokens.atGroup .parenthesis then
      group .parenthesis g.expressions
      return some ()
    else if atPoint tokens && form ≠ .range then
      g.pointAccess
      return some ()
    else if tokens.atGroup .bracket then
      group .bracket do
        let _ ← g.expression true
      return some ()
    else if tokens.atOperator "?" then
      operator "?"
      return some ()
    else return none
  return if found.isEmpty then form else .plain

def oneOperand (allowStruct : Bool) : Parser ExpressionForm := do
  let _ ← g.outerAttributes
  let tokens ← ahead
  if tokens.atOperator "&" then
    operator "&"
    let inner ← ahead
    if inner.atWord "raw" && (inner.skip 1).atOneOf ["mut", "const"] then
      word "raw"
      let _ ← anyWord
    else
      let _ ← acceptWord "mut"
    let _ ← g.operand allowStruct
    return .plain
  match ["*", "!", "-"].find? tokens.atOperator with
  | some sign =>
      operator sign
      let _ ← g.operand allowStruct
      return .plain
  | none => g.accesses (← g.atom allowStruct)

/-- An expression where a block at its front is the whole of it, unless a point or a question mark
follows. -/
def oneBody : Parser ExpressionForm := do
  let _ ← g.outerAttributes
  match g.blockExpression? (← ahead) with
  | some parser =>
      parser
      let tokens ← ahead
      if atPoint tokens || tokens.atOperator "?" then
        let form ← g.accesses .block
        g.operators true Precedence.lowest form
      else return .block
  | none =>
      let form ← g.operand true
      g.operators true Precedence.lowest form

end Grammar

end StorageMapping.Source
