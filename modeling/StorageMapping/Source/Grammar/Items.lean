import StorageMapping.Source.Grammar.Patterns

namespace StorageMapping.Source

open StorageMapping.Source.Parser

/-! Items. An item that discovery cannot see, or that the language accepts only in its syntax, is
parsed and forgotten. -/

namespace Grammar

/-- The place of the token ahead. -/
def here : Parser Position := return ((← ahead).head?.map Token.position).getD .start

/-- A visibility; the answer tells whether one is written. Parentheses behind it belong to it only
where they hold nothing but a path keyword or a path behind `in`. -/
def visibility : Parser Bool := do
  if ← acceptWord "pub" then
    match ← ahead with
    | .group .parenthesis inner _ _ :: _ =>
        if inner.length = 1 && Tokens.atOneOf ["crate", "self", "super"] inner then take
        else if Tokens.atWord "in" inner then
          group .parenthesis do
            word "in"
            let _ ← plainPath
        return true
    | _ => return true
  else return false

variable (g : Grammar)

/-! Type definitions. -/

/-- A named field. A field without a name of its own may have a definition in place of a type. -/
def namedField : Parser Field := do
  let position ← here
  let attributes ← g.outerAttributes
  let isPublic ← visibility
  let isBlank := (← ahead).atWord "_"
  let fieldName ← if isBlank then anyWord else name
  operator ":"
  let tokens ← ahead
  let type ←
    if isBlank && (tokens.atWord "struct"
        || (tokens.atWord "union" && (tokens.skip 1).atGroup .brace)) then
      keepTokens do
        let _ ← anyWord
        let _ ← g.fields
    else g.type true
  return ⟨attributes, isPublic, some fieldName, type, position⟩

def unnamedField : Parser Field := do
  let position ← here
  let attributes ← g.outerAttributes
  let isPublic ← visibility
  return ⟨attributes, isPublic, none, ← g.type true, position⟩

def namedFields : Parser (List Field) := group .brace (commaSeparated g.namedField)

def unnamedFields : Parser (List Field) := group .parenthesis (commaSeparated g.unnamedField)

/-- The fields of a struct behind its parameters. -/
def structFields : Parser Fields := do
  if (← ahead).atGroup .parenthesis then
    let fields ← g.unnamedFields
    g.whereClause
    operator ";"
    return .unnamed fields
  g.whereClause
  if (← ahead).atGroup .brace then return .named (← g.namedFields)
  else
    operator ";"
    return .unit

/-- A variant of an enum and its fields. -/
def variant : Parser Fields := do
  let _ ← g.outerAttributes
  let _ ← visibility
  let _ ← name
  let tokens ← ahead
  let fields ←
    if tokens.atGroup .brace then pure (Fields.named (← g.namedFields))
    else if tokens.atGroup .parenthesis then pure (Fields.unnamed (← g.unnamedFields))
    else pure Fields.unit
  if ← acceptOperator "=" then
    let _ ← g.expression true
  return fields

def variants : Parser (List Fields) := do
  g.whereClause
  group .brace (commaSeparated g.variant)

def unionFields : Parser (List Field) := do
  g.whereClause
  g.namedFields

/-- A type definition behind its attributes and its visibility. -/
def deriveInput (attributes : List Attribute) : Parser DeriveInput := do
  let body : Parser Data ← do
    if ← acceptWord "struct" then pure (return .struct (← g.structFields))
    else if ← acceptWord "enum" then pure (return .enum (← g.variants))
    else if ← acceptWord "union" then pure (return .union (← g.unionFields))
    else failWanting "one of: `struct`, `enum`, `union`"
  let (definedName, position) ← name
  let parameters ← g.parameters
  return ⟨attributes, definedName, position, parameters, ← body⟩

/-- A type definition among other items. -/
def definition (attributes : List Attribute) : Parser DataItem :=
  return (← g.deriveInput attributes).item

/-! Functions. -/

/-- Is a function ahead? Foreign functions may be marked as safe. -/
def atFunction (allowSafe : Bool) (tokens : Tokens) : Bool :=
  let after (word : String) (tokens : Tokens) : Tokens :=
    if tokens.atWord word then tokens.skip 1 else tokens
  let unmarked := after "async" (after "const" tokens)
  let checked :=
    if allowSafe && unmarked.atWord "safe" then unmarked.skip 1 else after "unsafe" unmarked
  let named :=
    if checked.atWord "extern" then
      let linkage := checked.skip 1
      if linkage.atString then linkage.skip 1 else linkage
    else checked
  named.atWord "fn"

/-- The value on which a method is called. -/
def receiver : Parser Unit := do
  let byReference ← acceptOperator "&"
  if byReference && (← ahead).atLifetime then
    let _ ← lifetime
  let _ ← acceptWord "mut"
  word "self"
  if !byReference then
    if ← acceptOperator ":" then
      let _ ← g.type true

/-- An argument of a function; the answer tells whether it stands for any number of them. Only the
first argument may be a receiver. -/
def functionArgument (isFirst : Bool) : Parser Bool := do
  if ← acceptOperator "..." then return true
  if (← attempt g.receiver).isSome then
    if isFirst then return false else fail (.forbidden "unexpected method receiver")
  let tokens ← ahead
  if tokens.atName && (tokens.skip 1).atOperator "<" then
    let _ ← g.type true
    return false
  g.pattern
  operator ":"
  if ← acceptOperator "..." then return true
  let _ ← g.type true
  return false

def functionArgumentsWithin (isFirst : Bool) : Nat → Parser Unit
  | 0 => return
  | fuel + 1 => do
      if ← atEnd then return
      let _ ← g.outerAttributes
      let isVariadic ← g.functionArgument isFirst
      if ← atEnd then return
      operator ","
      if !isVariadic then functionArgumentsWithin false fuel

/-- A function up to its body. -/
def signature (allowSafe : Bool) : Parser (Identifier × Position) := do
  let _ ← acceptWord "const"
  let _ ← acceptWord "async"
  if allowSafe && (← ahead).atWord "safe" then word "safe"
  else
    let _ ← acceptWord "unsafe"
  if ← acceptWord "extern" then
    if (← ahead).atString then take
  word "fn"
  let functionName ← name
  let _ ← g.parameters
  group .parenthesis do
    g.functionArgumentsWithin true ((← ahead).length + 1)
  g.returnType true
  g.whereClause
  return functionName

/-- The inner attributes of a function with a body; nothing where a semicolon replaces it. -/
def functionBody : Parser (Option (List Attribute)) := do
  if ← acceptOperator ";" then return none else return some (← g.block)

/-! Constants and types. -/

/-- A constant behind its keyword. `isPlain` tells that it has no parameters and no conditions. -/
structure ConstantForm where
  name : Identifier
  position : Position
  type : TypeExpr
  hasValue : Bool
  isPlain : Bool

def initialValue : Parser Bool := do
  if ← acceptOperator "=" then
    let _ ← g.expression true
    return true
  else return false

def constantForm : Parser ConstantForm := do
  word "const"
  let tokens ← ahead
  if !tokens.atName && !tokens.atWord "_" then failWanting "identifier or `_`"
  let (constantName, position) ← anyWord
  let hasParameters := (← ahead).atOperator "<"
  let _ ← g.parameters
  operator ":"
  let type ← g.type true
  let hasValue ← g.initialValue
  let hasConditions := (← ahead).atWord "where"
  g.whereClause
  operator ";"
  return ⟨constantName, position, type, hasValue, !hasParameters && !hasConditions⟩

/-- Bounds behind a colon. -/
def optionalBounds (stop : Tokens → Bool) : Parser Unit := do
  if ← acceptOperator ":" then g.boundsUntil stop

/-- A named type behind its keyword. Conditions stand before its definition, behind it, or in one
of the two places. -/
def typeAlias (before behind : Bool) : Parser Unit := do
  word "type"
  let _ ← name
  let _ ← g.parameters
  g.optionalBounds fun tokens =>
    tokens.atWord "where" || tokens.atOperator "=" || tokens.atOperator ";"
  let hasConditions := before && (← ahead).atWord "where"
  if before then g.whereClause
  if ← acceptOperator "=" then
    let _ ← g.type true
  if behind && !hasConditions then g.whereClause
  operator ";"

/-! Macro calls. -/

/-- Can the path of a macro call begin here? -/
def atMacroPath (tokens : Tokens) : Bool :=
  tokens.atName || tokens.atOneOf ["self", "super", "crate"] || tokens.atOperator "::"

/-- Ends a macro call: only braces need no semicolon. -/
def macroEnd (delimiter : Delimiter) : Parser Unit := do
  if delimiter ≠ .brace then operator ";"

def memberMacro : Parser Unit := do
  let _ ← plainPath
  macroEnd (← macroCall)

/-- A macro call that may define something by name. -/
def itemMacro : Parser Unit := do
  let _ ← plainPath
  operator "!"
  let tokens ← ahead
  if tokens.atName || tokens.atWord "try" then
    let _ ← anyWord
  macroEnd (← rawGroup)

def macroDefinition : Parser Unit := do
  word "macro"
  let _ ← name
  if (← ahead).atGroup .parenthesis then take
  if (← ahead).atGroup .brace then take else failWanting "curly braces"

/-! Members of traits and implementations. -/

/-- A member of a trait. One with a visibility or a default mark is accepted but counts for
nothing. -/
def traitMember : Parser (Option AssociatedItem) := do
  let attributes ← g.outerAttributes
  let isPublic ← visibility
  let isDefault ← acceptWord "default"
  let isPlain := !isPublic && !isDefault
  let tokens ← ahead
  if atFunction false tokens then
    let (methodName, position) ← g.signature false
    let inner ← g.functionBody
    let all := attributes ++ inner.getD []
    return if isPlain then some ⟨.method, all, false, methodName, position, none⟩ else none
  else if tokens.atWord "const" then
    let form ← g.constantForm
    return if isPlain && form.isPlain then
      some ⟨.constant, attributes, false, form.name, form.position, some form.type⟩ else none
  else if tokens.atWord "type" then
    g.typeAlias false true
    return none
  else if isPlain && atMacroPath tokens then
    memberMacro
    return none
  else failWanting "trait item"

/-- A member of an implementation. A function without a body, or a constant without a value or
with conditions, is accepted but counts for nothing. -/
def implementationMember : Parser (Option AssociatedItem) := do
  let attributes ← g.outerAttributes
  let isPublic ← visibility
  let tokens ← ahead
  let isDefault := tokens.atWord "default" && !(tokens.skip 1).atOperator "!"
  if isDefault then word "default"
  let tokens ← ahead
  if atFunction false tokens then
    let (methodName, position) ← g.signature false
    return (← g.functionBody).map fun inner =>
      ⟨.method, attributes ++ inner, isPublic, methodName, position, none⟩
  else if tokens.atWord "const" then
    let form ← g.constantForm
    return if form.hasValue && form.isPlain then
      some ⟨.constant, attributes, isPublic, form.name, form.position, some form.type⟩ else none
  else if tokens.atWord "type" then
    g.typeAlias false true
    return none
  else if !isPublic && !isDefault && atMacroPath tokens then
    memberMacro
    return none
  else failWanting "implementation item"

/-- Members up to the end of the braces, behind inner attributes. -/
def members (member : Parser (Option AssociatedItem)) :
    Parser (List Attribute × List AssociatedItem) :=
  group .brace do
    let attributes ← g.innerAttributes
    let found ← manyWhile (!·.isEmpty) member
    return (attributes, found.filterMap id)

/-! Traits, implementations and modules. -/

/-- A trait, or a name for bounds, which counts for nothing. -/
def traitItem (attributes : List Attribute) : Parser Item := do
  let isPlain := (← ahead).atWord "trait"
  let _ ← acceptWord "unsafe"
  let _ ← acceptWord "auto"
  word "trait"
  let (traitName, position) ← name
  let _ ← g.parameters
  if isPlain && (← ahead).atOperator "=" then
    operator "="
    g.boundsUntil fun tokens => tokens.atWord "where" || tokens.atOperator ";"
    g.whereClause
    operator ";"
    return .other
  g.optionalBounds fun tokens => tokens.atWord "where" || tokens.atGroup .brace
  g.whereClause
  let (inner, found) ← g.members g.traitMember
  return .trait (attributes ++ inner) traitName position found

/-- An implementation. One with a visibility, one that is constant and one of something that is no
trait are accepted but count for nothing. -/
def implementation (isPublic : Bool) : Parser Item := do
  let _ ← acceptWord "default"
  let _ ← acceptWord "unsafe"
  word "impl"
  if atParameters (← ahead) then
    let _ ← g.parameters
  let tokens ← ahead
  let isConstant :=
    tokens.atWord "const" || (tokens.atOperator "?" && (tokens.skip 1).atWord "const")
  if isConstant then
    let _ ← acceptOperator "?"
    word "const"
  let tokens ← ahead
  let isNegative := tokens.atOperator "!" && !(tokens.skip 1).atGroup .brace
  if isNegative then operator "!"
  let first ← g.type true
  let isOfTrait ← acceptWord "for"
  if isNegative && !isOfTrait then fail (.forbidden "inherent impls cannot be negative")
  let isPlain := !isOfTrait || match first with
    | .path _ _ => true
    | _ => false
  let selfType ← if isOfTrait then g.type true else pure first
  g.whereClause
  let (_, found) ← g.members g.implementationMember
  return if isPlain && !isPublic && !isConstant then .implementation selfType found else .other

def moduleItem : Parser Item := do
  let _ ← acceptWord "unsafe"
  word "mod"
  let (moduleName, _) ← if (← ahead).atWord "try" then anyWord else name
  if ← acceptOperator ";" then return .module moduleName none
  let contents ← group .brace do
    let _ ← g.innerAttributes
    manyWhile (!·.isEmpty) g.item
  return .module moduleName (some contents)

/-! Imports and foreign items. -/

def rename : Parser Unit := do
  word "as"
  if !(← acceptWord "_") then
    let _ ← name

def oneUseTree (allowRoot : Bool) : Parser Unit := do
  let tokens ← ahead
  if tokens.atName || tokens.atOneOf ["self", "super", "crate", "try"] then
    let _ ← anyWord
    let tokens ← ahead
    if tokens.atOperator "::" then
      operator "::"
      g.useTree false
    else if tokens.atWord "as" then rename
  else if tokens.atOperator "*" then operator "*"
  else if tokens.atGroup .brace then
    let _ ← group .brace do
      commaSeparated do
        let isRooted ← if allowRoot then acceptOperator "::" else pure false
        g.useTree (allowRoot && !isRooted)
  else failWanting "one of: identifier, `self`, `super`, `crate`, `try`, `*`, curly braces"

def useItem : Parser Unit := do
  word "use"
  let isRooted ← acceptOperator "::"
  g.useTree !isRooted
  operator ";"

def externCrate : Parser Unit := do
  word "extern"
  word "crate"
  if !(← acceptWord "self") then
    let _ ← name
  if (← ahead).atWord "as" then rename
  operator ";"

def foreignItem : Parser Unit := do
  let _ ← g.outerAttributes
  let isPublic ← visibility
  let tokens ← ahead
  if atFunction true tokens then
    let _ ← g.signature true
    let _ ← g.functionBody
  else if tokens.atWord "static"
      || (tokens.atOneOf ["unsafe", "safe"] && (tokens.skip 1).atWord "static") then
    if !tokens.atWord "static" then
      let _ ← anyWord
    word "static"
    let _ ← acceptWord "mut"
    let _ ← name
    operator ":"
    let _ ← g.type true
    let _ ← g.initialValue
    operator ";"
  else if tokens.atWord "type" then g.typeAlias true true
  else if !isPublic && atMacroPath tokens then memberMacro
  else failWanting "foreign item"

def foreignModule : Parser Unit := do
  let _ ← acceptWord "unsafe"
  word "extern"
  if (← ahead).atString then take
  group .brace do
    let _ ← g.innerAttributes
    let _ ← manyWhile (!·.isEmpty) g.foreignItem

/-! All items. -/

def staticItem : Parser Unit := do
  word "static"
  let _ ← acceptWord "mut"
  let _ ← name
  if ← acceptOperator "=" then
    let _ ← g.expression true
  else
    operator ":"
    let _ ← g.type true
    let _ ← g.initialValue
  operator ";"

/-- Parses an item that leaves no trace. -/
def skipped (parser : Parser Unit) : Parser Item := do
  parser
  return .other

def oneItem : Parser Item := do
  let attributes ← g.outerAttributes
  let isPublic ← visibility
  let tokens ← ahead
  let second := tokens.skip 1
  if atFunction false tokens then
    skipped do
      let _ ← g.signature false
      let _ ← g.functionBody
  else if tokens.atWord "extern" then
    if second.atWord "crate" then skipped externCrate
    else if isPublic then failWanting "`crate`"
    else skipped g.foreignModule
  else if tokens.atWord "use" then skipped g.useItem
  else if tokens.atWord "static" then skipped g.staticItem
  else if tokens.atWord "const" then
    skipped do
      let _ ← g.constantForm
  else if tokens.atWord "unsafe" then
    if second.atWord "trait" || (second.atWord "auto" && (second.skip 1).atWord "trait") then
      g.traitItem attributes
    else if second.atWord "impl" then g.implementation isPublic
    else if second.atWord "extern" && !isPublic then skipped g.foreignModule
    else if second.atWord "mod" then g.moduleItem
    else failWanting "item"
  else if tokens.atWord "mod" then g.moduleItem
  else if tokens.atWord "type" then skipped (g.typeAlias true false)
  else if tokens.atOneOf ["struct", "enum"] || (tokens.atWord "union" && second.atName) then
    return .data (← g.definition attributes)
  else if tokens.atWord "trait" || (tokens.atWord "auto" && second.atWord "trait") then
    g.traitItem attributes
  else if tokens.atWord "impl" || (tokens.atWord "default" && !second.atOperator "!") then
    g.implementation isPublic
  else if tokens.atWord "macro" then skipped macroDefinition
  else if !isPublic && atMacroPath tokens then skipped itemMacro
  else failWanting "item"

end Grammar

end StorageMapping.Source
