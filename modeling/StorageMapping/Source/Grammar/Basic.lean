import StorageMapping.Source.Item
import StorageMapping.Source.Parser

namespace StorageMapping.Source

/-! The grammar of the host language, in open form.

Types, expressions, patterns, statements and items contain each other. Each family is written
against a `Grammar` that parses the nested ones; `Source.Reader` closes the knot to any depth that
a text can have. -/

/-- What the parser of an expression tells about it. -/
inductive ExpressionForm where
  | comparison
  | range
  /-- Ends in a block, so that no semicolon or comma has to follow. -/
  | block
  /-- A macro call in braces: no semicolon has to follow, but a comma. -/
  | bracedCall
  | plain
deriving DecidableEq, Repr

/-- What a bound asks for. -/
inductive BoundForm where
  | lifetime
  | captures
  | trait
deriving DecidableEq, Repr

structure Grammar where
  /-- A type; the flag allows bounds joined by plus signs. -/
  type : Bool → Parser TypeExpr
  /-- A bound; the flags allow captured parameters in its place and constant traits. -/
  bound : Bool → Bool → Parser BoundForm
  /-- An expression; the flag allows a struct literal at its front. -/
  expression : Bool → Parser ExpressionForm
  /-- An operand with its signs in front. -/
  operand : Bool → Parser ExpressionForm
  /-- The operators behind an operand, from a precedence upward. -/
  operators : Bool → Nat → ExpressionForm → Parser ExpressionForm
  /-- An expression that may end with its block, as statements and match arms do. -/
  body : Parser ExpressionForm
  /-- A pattern without alternatives. -/
  pattern : Parser Unit
  /-- The statements of a block, up to its end. -/
  statements : Parser Unit
  item : Parser Item
  /-- The named fields of a struct, in braces. -/
  fields : Parser (List Field)
  /-- What an import names; the flag allows colons at its front. -/
  useTree : Bool → Parser Unit

namespace Grammar

/-- The grammar that accepts nothing. -/
def empty : Grammar where
  type _ := Parser.failWanting "type"
  bound _ _ := Parser.failWanting "bound"
  expression _ := Parser.failWanting "an expression"
  operand _ := Parser.failWanting "an expression"
  operators _ _ _ := Parser.failWanting "operator"
  body := Parser.failWanting "an expression"
  pattern := Parser.failWanting "pattern"
  statements := Parser.failWanting "statement"
  item := Parser.failWanting "item"
  fields := Parser.failWanting "curly braces"
  useTree _ := Parser.failWanting "path"

end Grammar

open StorageMapping.Source.Parser

def atPlainSegment (tokens : Tokens) : Bool :=
  tokens.atName || tokens.atOneOf ["super", "self", "Self", "crate"]

def plainSegment : Parser Identifier := do
  if !atPlainSegment (← ahead) then failWanting "path segment"
  return (← anyWord).1

/-- A path of plain segments, with or without colons in front. -/
def plainPath : Parser (Bool × List Identifier) := do
  let rooted ← acceptOperator "::"
  let first ← plainSegment
  let rest ← manyWhile (·.atOperator "::") do
    operator "::"
    plainSegment
  return (rooted, first :: rest)

/-- The path of an attribute, which may also be the word that marks unchecked ones. -/
def attributePath : Parser (Bool × List Identifier) := do
  if (← ahead).atWord "unsafe" then return (false, [(← anyWord).1]) else plainPath

/-- A macro call behind its path: an exclamation mark and a group. -/
def macroCall : Parser Delimiter := do
  operator "!"
  rawGroup

namespace Grammar

variable (g : Grammar)

def attributeInput : Parser AttributeInput := do
  let tokens ← ahead
  match tokens with
  | .group _ inner _ closing :: _ =>
      take
      return .list inner closing
  | .punctuation '=' _ position :: _ =>
      operator "="
      let tokens ← ahead
      if tokens.atOperator "#" && (tokens.skip 1).atGroup .bracket then
        fail (.forbidden "unexpected attribute inside of attribute")
      let _ ← g.expression true
      return .value position
  | _ => return .none

/-- An attribute, behind the sign and the mark of an inner one. -/
def attributeBody (isInner : Bool) : Parser Attribute :=
  group .bracket do
    let (rooted, path) ← attributePath
    return ⟨isInner, rooted, path, ← g.attributeInput⟩

def outerAttribute : Parser Attribute := do
  operator "#"
  g.attributeBody false

def outerAttributes : Parser (List Attribute) :=
  manyWhile (·.atOperator "#") g.outerAttribute

def innerAttributes : Parser (List Attribute) :=
  manyWhile (fun tokens => tokens.atOperator "#" && (tokens.skip 1).atOperator "!") do
    operator "#"
    operator "!"
    g.attributeBody true

/-- A block with its attributes. -/
def block : Parser (List Attribute) :=
  group .brace do
    let attributes ← g.innerAttributes
    g.statements
    return attributes

end Grammar

end StorageMapping.Source
