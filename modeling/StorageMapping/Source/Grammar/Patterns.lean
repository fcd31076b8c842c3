import StorageMapping.Source.Grammar.Types

namespace StorageMapping.Source

open StorageMapping.Source.Parser

/-! Patterns. -/

namespace Grammar

variable (g : Grammar)

/-- A single vertical bar, which separates alternatives. -/
def atBar (tokens : Tokens) : Bool :=
  tokens.atOperator "|" && !tokens.atOperator "||" && !tokens.atOperator "|="

/-- A pattern with alternatives, perhaps behind a leading bar. -/
def alternatives : Parser Unit := do
  let _ ← acceptOperator "|"
  g.pattern
  let _ ← manyWhile atBar do
    operator "|"
    g.pattern

/-- The name or the number of a field. -/
def memberName : Parser Bool := do
  match ← ahead with
  | .literal text _ :: _ =>
      if text.toList.all Text.isDigit then
        take
        return false
      else failWanting "identifier or integer"
  | tokens =>
      if tokens.atName then
        take
        return true
      else failWanting "identifier or integer"

def atPathStart (tokens : Tokens) : Bool :=
  tokens.atName || tokens.atOperator "::" || tokens.atOperator "<" || tokens.atOneOf pathStarts

/-- A path as expressions and patterns write it. -/
def expressionPath : Parser TypeExpr := printed (g.qualifiedPathForm true)

def constantBlock : Parser Unit := do
  word "const"
  let _ ← g.block

def endsRange (tokens : Tokens) : Bool :=
  tokens.isEmpty || tokens.atOperator "|" || tokens.atOperator "="
    || (tokens.atOperator ":" && !tokens.atOperator "::") || tokens.atOperator ","
    || tokens.atOperator ";" || tokens.atWord "if"

/-- One end of a range of values; the answer tells whether there is one. -/
def rangeBound : Parser Bool := do
  let tokens ← ahead
  if endsRange tokens then return false
  if tokens.atLiteral then literal
  else if atPathStart tokens then
    let _ ← g.expressionPath
  else if tokens.atWord "const" then g.constantBlock
  else failWanting "range bound"
  return true

/-- The dots of a range and its upper end; only two dots may stand without one. -/
def rangeTail : Parser Unit := do
  let closed ← do
    if ← acceptOperator "..=" then pure true else acceptOperator "..."
  if !closed then operator ".."
  let bounded ← g.rangeBound
  if closed && !bounded then failWanting "range upper bound"

def fieldPattern : Parser Unit := do
  let boxed ← acceptWord "box"
  let byReference ← acceptWord "ref"
  let mutable ← acceptWord "mut"
  if boxed || byReference || mutable then
    let _ ← name
  else
    let named ← memberName
    if !named || (← ahead).atOperator ":" then
      operator ":"
      g.alternatives

def structPattern : Parser Unit :=
  group .brace do
    let _ ← many do
      if ← atEnd then return none
      let _ ← g.outerAttributes
      if ← acceptOperator ".." then return none
      g.fieldPattern
      if ← atEnd then return none
      operator ","
      return some ()

/-- A pattern that begins with a path. -/
def pathPattern : Parser Unit := do
  let _ ← g.expressionPath
  let tokens ← ahead
  if tokens.atOperator "!" && !tokens.atOperator "!=" then
    let _ ← macroCall
  else if tokens.atGroup .brace then g.structPattern
  else if tokens.atGroup .parenthesis then
    let _ ← group .parenthesis (commaSeparated g.alternatives)
  else if tokens.atOperator ".." then g.rangeTail

def onePattern : Parser Unit := do
  let tokens ← ahead
  let second := tokens.skip 1
  if (tokens.atName
        && (second.atOperator "::" || second.atOperator "!" || second.atGroup .brace
          || second.atGroup .parenthesis || second.atOperator ".."))
      || (tokens.atWord "self" && second.atOperator "::")
      || tokens.atOperator "::" || tokens.atOperator "<"
      || tokens.atOneOf ["Self", "super", "crate"] then
    g.pathPattern
  else if tokens.atWord "_" then word "_"
  else if tokens.atWord "box" then
    word "box"
    g.pattern
  else if tokens.atOperator "-" || tokens.atLiteral || tokens.atWord "const" then
    let _ ← g.rangeBound
    if (← ahead).atOperator ".." then g.rangeTail
  else if tokens.atOneOf ["ref", "mut", "self"] || tokens.atName then
    let _ ← acceptWord "ref"
    let _ ← acceptWord "mut"
    if !(← acceptWord "self") then
      let _ ← name
    if ← acceptOperator "@" then g.pattern
  else if tokens.atOperator "&" then
    operator "&"
    let _ ← acceptWord "mut"
    g.pattern
  else if tokens.atGroup .parenthesis then
    let _ ← group .parenthesis (commaSeparated g.alternatives)
  else if tokens.atGroup .bracket then
    let _ ← group .bracket (commaSeparated g.alternatives)
  else if tokens.atOperator ".." && !tokens.atOperator "..." then g.rangeTail
  else failWanting "pattern"

end Grammar

end StorageMapping.Source
