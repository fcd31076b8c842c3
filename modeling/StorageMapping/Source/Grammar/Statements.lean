import StorageMapping.Source.Grammar.Expressions

namespace StorageMapping.Source

open StorageMapping.Source.Parser

/-! Statements. -/

namespace Grammar

variable (g : Grammar)

/-- The tokens behind the path at the front. -/
def afterPath? (tokens : Tokens) : Option Tokens :=
  match plainPath.run ⟨tokens, [], none⟩ with
  | .ok (_, state) => some state.rest
  | .error _ => none

/-- A macro call that defines something by name. -/
def atNamedMacro (tokens : Tokens) : Bool :=
  (afterPath? tokens).any fun rest =>
    rest.atOperator "!" && ((rest.skip 1).atName || (rest.skip 1).atWord "try")

/-- A macro call in braces that is a statement of its own: no access follows it. -/
def atBracedMacro (tokens : Tokens) : Bool :=
  (afterPath? tokens).any fun rest =>
    let behind := rest.skip 2
    rest.atOperator "!" && (rest.skip 1).atGroup .brace
      && !(behind.atOperator "." && !behind.atOperator "..") && !behind.atOperator "?"

/-- Words that begin an item and nothing else. -/
def itemWords : List String :=
  ["pub", "extern", "use", "fn", "mod", "type", "struct", "enum", "trait", "impl", "macro"]

/-- Does a constant item begin here, and neither a block nor a closure? -/
def atConstant (tokens : Tokens) : Bool :=
  let second := tokens.skip 1
  let third := tokens.skip 2
  tokens.atWord "const"
    && !(second.atGroup .brace || second.atOneOf ["static", "move"] || second.atOperator "|"
      || (second.atWord "async" && !third.atOneOf ["unsafe", "extern", "fn"]))

/-- Does an item begin here? -/
def atItem (tokens : Tokens) : Bool :=
  let second := tokens.skip 1
  tokens.atOneOf itemWords || atConstant tokens || atNamedMacro tokens
    || (tokens.atWord "crate" && !second.atOperator "::")
    || (tokens.atWord "static" && (second.atWord "mut" || second.atName))
    || (tokens.atWord "unsafe" && !second.atGroup .brace)
    || (tokens.atWord "async" && second.atOneOf ["unsafe", "extern", "fn"])
    || (tokens.atWord "union" && second.atName)
    || (tokens.atWord "auto" && second.atWord "trait")
    || (tokens.atWord "default" && second.atOneOf ["unsafe", "impl"])

/-- A new name and its value. An alternative block cannot follow a value that ends in a brace. -/
def letStatement : Parser Unit := do
  word "let"
  g.pattern
  if ← acceptOperator ":" then
    let _ ← g.type true
  if ← acceptOperator "=" then
    let _ ← g.expression true
    let endsInBrace := (← get).written.atGroup .brace
    if !endsInBrace && (← ahead).atWord "else" then
      word "else"
      let _ ← g.block
  operator ";"

/-- One statement; the answer tells whether a semicolon has to follow unless the block ends. -/
def statement : Parser Bool := do
  let _ ← g.outerAttributes
  let tokens ← ahead
  if atBracedMacro tokens then
    let _ ← plainPath
    let _ ← macroCall
    let _ ← acceptOperator ";"
    return false
  if tokens.atWord "let" then
    g.letStatement
    return false
  if atItem tokens then
    let _ ← g.item
    return false
  let form ← g.body
  if ← acceptOperator ";" then return false
  return form ≠ .block && form ≠ .bracedCall

def someStatements : Parser Unit := do
  let _ ← many do
    let _ ← manyWhile (·.atOperator ";") (operator ";")
    if ← atEnd then return none
    let isOpen ← g.statement
    if ← atEnd then return none
    if isOpen then failWanting "`;`"
    return some ()

end Grammar

end StorageMapping.Source
