import StorageMapping.Source.Grammar.Basic

namespace StorageMapping.Source

open StorageMapping.Source.Parser

/-! Paths, types, bounds and generic parameters.

Parsers whose names end in `Form` answer with a structure that has a printing order of its own;
they are run quietly, and the structure is written instead of what they took. -/

namespace Grammar

variable (g : Grammar)

/-! Paths. -/

/-- A constant among generic arguments: a literal or a block. -/
def constantArgument : Parser Unit := do
  let tokens ← ahead
  if tokens.atLiteral then literal
  else if tokens.atGroup .brace then
    let _ ← g.block
  else failWanting "constant"

/-- Bounds joined by plus signs, where the list may be empty or end in a plus sign. -/
def boundsUntil (stop : Tokens → Bool) : Parser Unit := do
  let _ ← many do
    if stop (← ahead) then return none
    let _ ← g.bound false true
    if ← acceptOperator "+" then return some () else return none

/-- A generic argument: a lifetime, a constant, a type, an associated item or a constraint. -/
def argumentForm : Parser PathArgument := do
  let tokens ← ahead
  if tokens.atLifetime && !(tokens.skip 1).atOperator "+" then return .lifetime (← lifetime)
  if tokens.atLiteral || tokens.atGroup .brace then
    return .other (← captured g.constantArgument).2
  let type ← g.type true
  match type with
  | .path false [segment] =>
      if ← acceptOperator "=" then
        let tokens ← ahead
        let value ← captured do
          if tokens.atLiteral || tokens.atGroup .brace then g.constantArgument
          else
            let _ ← g.type true
        return .other (segment.tokens ++ Token.ofOperator "=" ++ value.2)
      else if ← acceptOperator ":" then
        let bounds ← captured
          (g.boundsUntil fun tokens => tokens.atOperator "," || tokens.atOperator ">")
        return .other (segment.tokens ++ Token.ofOperator ":" ++ bounds.2)
      else return .type type
  | _ => return .type type

/-- Generic arguments in angle brackets, with or without colons in front. -/
def argumentsForm : Parser PathArguments := do
  let colons ← acceptOperator "::"
  operator "<"
  let (arguments, trailing) ← separated "," (·.atOperator ">") g.argumentForm
  operator ">"
  return .mk colons arguments trailing

/-- A segment of a path. In an expression, arguments need colons in front. -/
def segmentForm (inExpression : Bool) : Parser PathSegment := do
  let tokens ← ahead
  if tokens.atOneOf ["super", "self", "crate", "try"] then
    let (keyword, position) ← anyWord
    return .mk keyword position none
  let (segment, position) ← if tokens.atWord "Self" then anyWord else name
  let tokens ← ahead
  if (!inExpression && tokens.atOperator "<" && !tokens.atOperator "<=")
      || (tokens.atOperator "::" && (tokens.skip 2).atOperator "<") then
    return .mk segment position (some (← g.argumentsForm))
  else return .mk segment position none

/-- Segments with double colons between them. -/
def segmentsForm (inExpression : Bool) : Parser (List PathSegment) := do
  let first ← g.segmentForm inExpression
  let more ← manyWhile
    (fun tokens => tokens.atOperator "::" && !(tokens.skip 2).atGroup .parenthesis) do
      operator "::"
      g.segmentForm inExpression
  return first :: more

/-- A path without a self type. -/
def pathForm (inExpression : Bool) : Parser TypeExpr := do
  let rooted ← acceptOperator "::"
  return .path rooted (← g.segmentsForm inExpression)

/-- Parses quietly and writes the result in printing order. -/
def printed (form : Parser TypeExpr) : Parser TypeExpr := do
  let type ← quiet form
  write type.tokens
  return type

def path (inExpression : Bool) : Parser TypeExpr := printed (g.pathForm inExpression)

/-- A path that may begin with a self type in angle brackets. -/
def qualifiedPathForm (inExpression : Bool) : Parser TypeExpr := do
  if (← ahead).atOperator "<" then
    let head ← captured do
      operator "<"
      let _ ← g.type true
      if ← acceptWord "as" then
        let _ ← g.path false
      operator ">"
    operator "::"
    let first ← g.segmentForm inExpression
    let more ← manyWhile (·.atOperator "::") do
      operator "::"
      g.segmentForm inExpression
    return .qualified head.2 (first :: more)
  else g.pathForm inExpression

/-! Bounds. -/

def returnType (allowPlus : Bool) : Parser Unit := do
  if ← acceptOperator "->" then
    let _ ← g.type allowPlus

/-- A generic parameter with its bounds and its default. -/
def parameter : Parser Unit := do
  let _ ← g.outerAttributes
  let tokens ← ahead
  if tokens.atLifetime then
    let _ ← lifetime
    if ← acceptOperator ":" then
      let _ ← many do
        let tokens ← ahead
        if tokens.atOperator "," || tokens.atOperator ">" then return none
        let _ ← lifetime
        if ← acceptOperator "+" then return some () else return none
  else if tokens.atWord "_" then word "_"
  else if tokens.atName then
    let _ ← name
    if ← acceptOperator ":" then
      g.boundsUntil fun tokens =>
        tokens.atOperator "," || tokens.atOperator ">" || tokens.atOperator "="
    if ← acceptOperator "=" then
      let _ ← g.type true
  else if tokens.atWord "const" then
    word "const"
    let _ ← name
    operator ":"
    let _ ← g.type true
    if ← acceptOperator "=" then
      let tokens ← ahead
      if tokens.atName then
        let _ ← name
      else g.constantArgument
  else failWanting "one of: identifier, lifetime, `const`"

/-- Parameters in angle brackets; the answer is their number. -/
def someParameters : Parser Nat := do
  operator "<"
  let (found, _) ← separated "," (·.atOperator ">") g.parameter
  operator ">"
  return found.length

def parameters : Parser Nat := do
  if (← ahead).atOperator "<" then g.someParameters else return 0

/-- Do the angle brackets ahead hold parameters, and not a self type? -/
def atParameters (tokens : Tokens) : Bool :=
  let second := tokens.skip 1
  let third := tokens.skip (if second.atLifetime || second.atName then 2 else 1)
  tokens.atOperator "<"
    && (second.atOperator ">" || second.atOperator "#"
      || ((second.atLifetime || second.atName)
        && (third.atOperator ">" || third.atOperator ","
          || (third.atOperator ":" && !third.atOperator "::") || third.atOperator "="))
      || second.atWord "const")

def binder : Parser Unit := do
  word "for"
  let _ ← g.someParameters

/-- A binder where one is written; the answer tells whether it is. -/
def optionalBinder : Parser Bool := do
  if (← ahead).atWord "for" then
    g.binder
    return true
  else return false

/-- The mark of a constant trait, with or without brackets. -/
def constantMark (allowConstant : Bool) : Parser Unit := do
  let tokens ← ahead
  if tokens.atGroup .bracket then
    group .bracket (word "const")
    if !allowConstant then fail (.forbidden "`[const]` is not allowed here")
  else if ← acceptWord "const" then
    if !allowConstant then fail (.forbidden "`const` is not allowed here")

/-- A trait with its modifiers and arguments. -/
def traitBound (allowConstant : Bool) : Parser Unit := do
  let isBoundBefore ← g.optionalBinder
  constantMark allowConstant
  let isRelaxed ← acceptOperator "?"
  let isBoundBehind ← if isRelaxed && !isBoundBefore then g.optionalBinder else pure false
  let path ← g.path false
  let plain := (path.lastSegment?.bind (·.arguments)).isNone
  let tokens ← ahead
  if plain && (tokens.atGroup .parenthesis
      || (tokens.atOperator "::" && (tokens.skip 2).atGroup .parenthesis)) then
    let _ ← acceptOperator "::"
    let _ ← group .parenthesis (commaSeparated (g.type true))
    g.returnType false
  if isRelaxed && (isBoundBefore || isBoundBehind) then
    fail (.forbidden "`for<...>` binder not allowed with `?` trait polarity modifier")

/-- The parameters that a hidden type captures. -/
def captures : Parser Unit := do
  word "use"
  operator "<"
  let _ ← separated "," (·.atOperator ">") do
    let tokens ← ahead
    if tokens.atLifetime then
      let _ ← lifetime
    else if tokens.atWord "Self" then word "Self"
    else
      let _ ← name
  operator ">"

def oneBound (allowCaptures allowConstant : Bool) : Parser BoundForm := do
  let tokens ← ahead
  if tokens.atLifetime then
    let _ ← lifetime
    return .lifetime
  if tokens.atWord "use" then
    captures
    if allowCaptures then return .captures
    else fail (.forbidden "`use<...>` precise capturing syntax is not allowed here")
  if tokens.atGroup .parenthesis then group .parenthesis (g.traitBound allowConstant)
  else g.traitBound allowConstant
  return .trait

/-- Can another bound begin here? -/
def atBound (allowConstant : Bool) (tokens : Tokens) : Bool :=
  tokens.atAnyWord || tokens.atOperator "::" || tokens.atOperator "?" || tokens.atLifetime
    || tokens.atGroup .parenthesis || (allowConstant && tokens.atGroup .bracket)

/-- One bound or more, at least one of which is a trait. -/
def traitBounds (allowPlus allowCaptures allowConstant : Bool) (wanting : String) :
    Parser Unit := do
  let bound := g.bound allowCaptures allowConstant
  let bounds ←
    if allowPlus then chain (atBound allowConstant) "+" bound else List.singleton <$> bound
  if !bounds.contains .trait then fail (.forbidden wanting)

/-- The bounds of an object type: traits and lifetimes only. -/
def objectBounds (allowPlus : Bool) : Parser Unit :=
  g.traitBounds allowPlus false false "at least one trait is required for an object type"

/-- Further bounds, each behind a plus sign. -/
def moreBounds : Parser Unit := do
  let _ ← manyWhile (·.atOperator "+") do
    operator "+"
    g.bound false false

def boundTerminator (tokens : Tokens) : Bool :=
  tokens.isEmpty || tokens.atGroup .brace || tokens.atOperator "," || tokens.atOperator ";"
    || (tokens.atOperator ":" && !tokens.atOperator "::") || tokens.atOperator "="

def whereClause : Parser Unit := do
  if ← acceptWord "where" then
    let _ ← many do
      let tokens ← ahead
      if boundTerminator tokens then return none
      if tokens.atLifetime && (tokens.skip 1).atOperator ":" then
        let _ ← lifetime
        operator ":"
        let _ ← many do
          if boundTerminator (← ahead) then return none
          let _ ← lifetime
          if ← acceptOperator "+" then return some () else return none
      else
        let _ ← g.optionalBinder
        let _ ← g.type true
        operator ":"
        g.boundsUntil boundTerminator
      if ← acceptOperator "," then return some () else return none

/-! Types. -/

/-- A form that is kept as its tokens. -/
def keepTokens (parser : Parser Unit) : Parser TypeExpr := return .other (← captured parser).2

/-- An argument of a function type, perhaps with a name. The first one may be a receiver. -/
def functionTypeArgument (isFirst : Bool) : Parser Unit := do
  let tokens ← ahead
  let isMutable := isFirst && tokens.atWord "mut" && (tokens.skip 1).atWord "self"
  if isMutable then word "mut"
  let tokens ← ahead
  if (tokens.atName || tokens.atWord "_" || (isFirst && tokens.atWord "self"))
      && (tokens.skip 1).atOperator ":" && !(tokens.skip 1).atOperator "::" then
    let _ ← anyWord
    operator ":"
    let _ ← g.type true
  else if isMutable then word "self"
  else
    let _ ← g.type true

def functionTypeArgumentsWithin (isFirst : Bool) : Nat → Parser Unit
  | 0 => return
  | fuel + 1 => do
      if ← atEnd then return
      let _ ← g.outerAttributes
      let tokens ← ahead
      let named := (tokens.atName || tokens.atWord "_") && (tokens.skip 1).atOperator ":"
      if tokens.atOperator "..." || (named && (tokens.skip 2).atOperator "...") then
        if named then
          let _ ← anyWord
          operator ":"
        operator "..."
        let _ ← acceptOperator ","
        return
      g.functionTypeArgument isFirst
      if ← atEnd then return
      operator ","
      functionTypeArgumentsWithin false fuel

def functionType : Parser Unit := do
  let _ ← acceptWord "unsafe"
  if ← acceptWord "extern" then
    if (← ahead).atString then take
  word "fn"
  group .parenthesis do
    g.functionTypeArgumentsWithin true ((← ahead).length + 1)
  g.returnType false

/-- What stands in parentheses where a type is wanted. -/
inductive Parenthesized where
  /-- Nothing, or several types. -/
  | tuple
  | lifetimes (bounds : Tokens)
  | relaxed
  | single (type : TypeExpr)

def parenthesized : Parser Parenthesized :=
  group .parenthesis do
    let tokens ← ahead
    if tokens.isEmpty then return .tuple
    if tokens.atLifetime then
      return .lifetimes (← captured (g.objectBounds true)).2
    if tokens.atOperator "?" then
      g.traitBound false
      return .relaxed
    let first ← g.type true
    if ← acceptOperator "," then
      let _ ← commaSeparated (g.type true)
      return .tuple
    else return .single first

/-- Parentheses around a type, a tuple, or bounds whose first one stands in parentheses. -/
def parenthesizedForm (allowPlus : Bool) : Parser TypeExpr := do
  let (contents, tokens) ← captured g.parenthesized
  match contents with
  | .tuple => return .other tokens
  | .lifetimes bounds => return .paren (.other bounds)
  | .relaxed => return .other (tokens ++ (← captured g.moreBounds).2)
  | .single type =>
      match type with
      | .path _ _ =>
          if allowPlus && (← ahead).atOperator "+" then
            return .other (tokens ++ (← captured g.moreBounds).2)
          else return .paren type
      | _ => return .paren type

/-- A path, a macro call behind a path, or bounds that begin with a path. -/
def pathTypeForm (allowPlus bound : Bool) : Parser TypeExpr := do
  let type ← g.qualifiedPathForm false
  match type with
  | .path _ segments =>
      let tokens ← ahead
      if tokens.atOperator "!" && !tokens.atOperator "!="
          && segments.all (·.arguments.isNone) then
        return .other (type.tokens ++ (← captured macroCall).2)
      else if bound || (allowPlus && tokens.atOperator "+") then
        let more ← captured do
          if allowPlus then
            let _ ← many do
              if ← acceptOperator "+" then
                if atBound false (← ahead) then return some (← g.bound false false)
                else return none
              else return none
        return .other (type.tokens ++ more.2)
      else return type
  | _ => return type

/-- The beginnings of a type, as messages list them. -/
def typeStarts : String :=
  "one of: `for`, parentheses, `fn`, `unsafe`, `extern`, identifier, `::`, `<`, `dyn`, "
    ++ "square brackets, `*`, `&`, `!`, `impl`, `_`, lifetime"

/-- The beginnings of a type behind a binder. -/
def boundTypeStarts : String :=
  "one of: identifier, `fn`, `unsafe`, `extern`, `super`, `self`, `Self`, `crate`"

def functionStarts : List String := ["fn", "unsafe", "extern"]

def pathStarts : List String := ["super", "self", "Self", "crate"]

def typeForm (allowPlus : Bool) : Parser TypeExpr := do
  let tokens ← ahead
  if tokens.atWord "for" then
    let binder ← captured g.binder
    let tokens ← ahead
    if tokens.atOneOf functionStarts then
      return .other (binder.2 ++ (← captured g.functionType).2)
    else if tokens.atName || tokens.atOneOf pathStarts then
      return .other (binder.2 ++ (← g.pathTypeForm allowPlus true).tokens)
    else failWanting boundTypeStarts
  else if tokens.atGroup .parenthesis then g.parenthesizedForm allowPlus
  else if tokens.atOneOf functionStarts then keepTokens g.functionType
  else if tokens.atName || tokens.atOneOf pathStarts || tokens.atOperator "::"
      || tokens.atOperator "<" then
    g.pathTypeForm allowPlus false
  else if tokens.atWord "dyn" then
    keepTokens do
      word "dyn"
      let _ ← acceptOperator "*"
      g.objectBounds allowPlus
  else if tokens.atGroup .bracket then
    keepTokens do
      group .bracket do
        let _ ← g.type true
        if ← acceptOperator ";" then
          let _ ← g.expression true
  else if tokens.atOperator "*" then
    keepTokens do
      operator "*"
      if !(← acceptWord "const") then
        if !(← acceptWord "mut") then failWanting "`const` or `mut`"
      let _ ← g.type false
  else if tokens.atOperator "&" then
    keepTokens do
      operator "&"
      if (← ahead).atLifetime then
        let _ ← lifetime
      let _ ← acceptWord "mut"
      let _ ← g.type false
  else if tokens.atOperator "!" && !tokens.atOperator "!=" then keepTokens (operator "!")
  else if tokens.atWord "impl" then
    keepTokens do
      word "impl"
      g.traitBounds allowPlus true true "at least one trait must be specified"
  else if tokens.atWord "_" then keepTokens (word "_")
  else if tokens.atLifetime then
    keepTokens (g.objectBounds true)
  else failWanting typeStarts

/-- A type, written in printing order. -/
def oneType (allowPlus : Bool) : Parser TypeExpr := printed (g.typeForm allowPlus)

end Grammar

end StorageMapping.Source
