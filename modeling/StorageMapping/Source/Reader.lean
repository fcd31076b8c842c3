import StorageMapping.Source.Grammar.Items
import StorageMapping.Source.Grammar.Statements
import StorageMapping.Source.Lexer

namespace StorageMapping.Source

/-! Reading texts: whole files, single definitions, types, paths, attributes and identifiers. -/

namespace Grammar

/-- One more level of nesting. -/
def deepen (g : Grammar) : Grammar where
  type := g.oneType
  bound := g.oneBound
  expression := g.oneExpression
  operand := g.oneOperand
  operators := g.someOperators
  body := g.oneBody
  pattern := g.onePattern
  statements := g.someStatements
  item := g.oneItem
  fields := g.namedFields
  useTree := g.oneUseTree

/-- The grammar of texts that nest at most so deep. -/
def ofDepth : Nat → Grammar
  | 0 => .empty
  | depth + 1 => (ofDepth depth).deepen

end Grammar

namespace Reader

variable {α : Type}

open StorageMapping.Source.Parser

/-- Parses a whole text. A family of the grammar calls another one without taking a token only a
few times in a row, so the depth grows with the number of tokens. -/
def parseAll (parser : Grammar → Parser α) (text : String) : Except SyntaxError α :=
  match tokenize text.toList with
  | none => .error .noTokens
  | some tokens => runAll (parser (.ofDepth (8 * Token.countList tokens + 24))) tokens

/-- A first line that names an interpreter is dropped, but its end stays. An attribute may begin
with the same two characters. -/
def dropInterpreter (text : List Char) : List Char :=
  match text with
  | '#' :: '!' :: rest =>
      if (Lexer.skipBlanks rest).head? = some '[' then text else text.dropWhile (· ≠ '\n')
  | _ => text

/-- The items of a file. -/
def file (text : String) : Except SyntaxError (List Item) :=
  let content := match text.toList with
    | c :: rest => if c = Lexer.byteOrderMark then rest else c :: rest
    | [] => []
  parseAll (fun g => do
    let _ ← g.innerAttributes
    manyWhile (!·.isEmpty) g.oneItem) (String.ofList (dropInterpreter content))

/-- A single struct, enum or union. -/
def definition (text : String) : Except SyntaxError DeriveInput :=
  parseAll (fun g => do
    let attributes ← g.outerAttributes
    let _ ← Grammar.visibility
    g.deriveInput attributes) text

def type (text : String) : Except SyntaxError TypeExpr := parseAll (·.type true) text

/-- A path as types write it, without a self type in front. -/
def path (text : String) : Except SyntaxError TypeExpr := parseAll (·.path false) text

def identifier (text : String) : Except SyntaxError Identifier :=
  parseAll (fun _ => return (← name).1) text

/-- Exactly one outer attribute. -/
def outerAttribute (text : String) : Except SyntaxError Attribute :=
  parseAll (fun g => g.outerAttribute) text

end Reader

end StorageMapping.Source
