import StorageMapping.Source.Literal
import StorageMapping.Source.Token

namespace StorageMapping.Source

/-! Parsing token trees.

A parser takes tokens from the front of one group and writes down what it took, in the form in
which it is printed. What a group still holds when its parser is done is an error, but only once
everything else has been accepted. -/

inductive SyntaxError where
  /-- The text does not fall into tokens. -/
  | noTokens
  | unexpectedEnd (wanted : String)
  | unexpected (wanted : String)
  | keyword (word : String)
  /-- Tokens remain, in a group or behind everything. -/
  | remaining (enclosing : Option Delimiter)
  | forbidden (rule : String)
deriving DecidableEq, Repr

namespace SyntaxError

def closingMark : Delimiter → String
  | .parenthesis => ")"
  | .bracket => "]"
  | .brace => "\x7d"

def message : SyntaxError → String
  | .noTokens => "cannot parse string into token stream"
  | .unexpectedEnd wanted => "unexpected end of input, expected " ++ wanted
  | .unexpected wanted => "expected " ++ wanted
  | .keyword word => "expected identifier, found keyword `" ++ word ++ "`"
  | .remaining none => "unexpected token"
  | .remaining (some delimiter) =>
      "unexpected token, expected `" ++ closingMark delimiter ++ "`"
  | .forbidden rule => rule

end SyntaxError

abbrev Tokens := List Token

/-! What stands at the front of a sequence of tokens. -/

namespace Tokens

def skip (count : Nat) (tokens : Tokens) : Tokens := tokens.drop count

def atWord (word : String) : Tokens → Bool
  | .word name _ :: _ => name.isWord word
  | _ => false

def atOneOf (words : List String) (tokens : Tokens) : Bool := words.any tokens.atWord

/-- Any word, keywords included. -/
def atAnyWord : Tokens → Bool
  | .word _ _ :: _ => true
  | _ => false

def atName : Tokens → Bool
  | .word name _ :: _ => name.isName
  | _ => false

def atLifetime : Tokens → Bool
  | .lifetime _ _ :: _ => true
  | _ => false

def atGroup (delimiter : Delimiter) : Tokens → Bool
  | .group found _ _ _ :: _ => found = delimiter
  | _ => false

/-- The tokens behind an operator. All its characters but the last one are joint. -/
def afterOperator? : List Char → Tokens → Option Tokens
  | [], tokens => some tokens
  | [c], .punctuation found _ _ :: rest => if found = c then some rest else none
  | c :: more, .punctuation found joint _ :: rest =>
      if found = c && joint then afterOperator? more rest else none
  | _ :: _, _ => none

def atOperator (operator : String) (tokens : Tokens) : Bool :=
  (afterOperator? operator.toList tokens).isSome

/-- A literal; the truth values are literals, and a number may be negative. -/
def atLiteral : Tokens → Bool
  | .literal _ _ :: _ => true
  | .word name _ :: _ => name.isWord "true" || name.isWord "false"
  | .punctuation '-' _ _ :: .literal text _ :: _ => Literal.isNumber text
  | _ => false

def atString : Tokens → Bool
  | .literal text _ :: _ => (Literal.stringValue? text).isSome
  | _ => false

end Tokens

/-- The tokens left, those written down (last one first), and the first group in which tokens
remained. -/
structure ParserState where
  rest : Tokens
  written : Tokens
  remaining : Option Delimiter

abbrev Parser := StateT ParserState (Except SyntaxError)

namespace Parser

variable {α β : Type}

def fail (error : SyntaxError) : Parser α := throw error

/-- Fails for want of something at the front. -/
def failWanting (wanted : String) : Parser α := do
  if (← get).rest.isEmpty then fail (.unexpectedEnd wanted) else fail (.unexpected wanted)

/-- The tokens left in this group. -/
def ahead : Parser Tokens := return (← get).rest

def atEnd : Parser Bool := return (← get).rest.isEmpty

def write (tokens : Tokens) : Parser Unit :=
  modify fun state => { state with written := tokens.reverse ++ state.written }

/-- Takes one token and writes it down. -/
def take : Parser Unit :=
  modify fun state =>
    match state.rest with
    | [] => state
    | token :: rest => { state with rest := rest, written := token :: state.written }

/-- Runs a parser and answers with what it wrote, which is not written here. -/
def captured (parser : Parser α) : Parser (α × Tokens) := do
  let outer := (← get).written
  modify fun state => { state with written := [] }
  let result ← parser
  let inner := (← get).written
  modify fun state => { state with written := outer }
  return (result, inner.reverse)

/-- Runs a parser and drops what it wrote. -/
def quiet (parser : Parser α) : Parser α := return (← captured parser).1

/-- Tries a parser; if it fails nothing was taken. -/
def attempt (parser : Parser α) : Parser (Option α) := fun state =>
  match parser.run state with
  | .ok (result, next) => .ok (some result, next)
  | .error _ => .ok (none, state)

def acceptWord (word : String) : Parser Bool := do
  if (← ahead).atWord word then
    take
    return true
  else return false

def word (word : String) : Parser Unit := do
  if !(← acceptWord word) then failWanting ("`" ++ word ++ "`")

def acceptOperator (operator : String) : Parser Bool := do
  let state ← get
  match Tokens.afterOperator? operator.toList state.rest with
  | some rest =>
      let position := (state.rest.head?.map Token.position).getD .start
      set { state with rest := rest }
      write (Token.operator position operator.toList)
      return true
  | none => return false

def operator (operator : String) : Parser Unit := do
  if !(← acceptOperator operator) then fail (.unexpected ("`" ++ operator ++ "`"))

/-- A word of any kind, keywords included. -/
def anyWord : Parser (Identifier × Position) := do
  match ← ahead with
  | .word name position :: _ =>
      take
      return (name, position)
  | _ => failWanting "ident"

def name : Parser (Identifier × Position) := do
  match ← ahead with
  | .word name position :: _ =>
      if name.isName then
        take
        return (name, position)
      else fail (.keyword name.text)
  | _ => failWanting "identifier"

def lifetime : Parser Identifier := do
  match ← ahead with
  | .lifetime name _ :: _ =>
      take
      return name
  | _ => failWanting "lifetime"

/-- A literal. The sign of a negative number stands apart from it. -/
def literal : Parser Unit := do
  let tokens ← ahead
  if !tokens.atLiteral then failWanting "literal"
  else if ← acceptOperator "-" then take
  else take

def delimiterName : Delimiter → String
  | .parenthesis => "parentheses"
  | .bracket => "square brackets"
  | .brace => "curly braces"

/-- Parses the contents of a group. -/
def group (delimiter : Delimiter) (contents : Parser α) : Parser α := do
  let state ← get
  match state.rest with
  | .group found inner opening closing :: rest =>
      if found = delimiter then
        set { state with rest := inner, written := [] }
        let result ← contents
        let inside ← get
        let remaining := inside.remaining <|> (if inside.rest.isEmpty then none else some delimiter)
        let token := Token.group delimiter inside.written.reverse opening closing
        set (⟨rest, token :: state.written, remaining⟩ : ParserState)
        return result
      else failWanting (delimiterName delimiter)
  | _ => failWanting (delimiterName delimiter)

/-- A group whose contents are kept as they are. -/
def rawGroup : Parser Delimiter := do
  match ← ahead with
  | .group delimiter _ _ _ :: _ =>
      take
      return delimiter
  | _ => failWanting "delimiter"

/-! Repetition. Every round takes a token, so the number of tokens left bounds the rounds. -/

def manyWithin (step : Parser (Option α)) : Nat → Parser (List α)
  | 0 => return []
  | fuel + 1 => do
      match ← step with
      | some result => return result :: (← manyWithin step fuel)
      | none => return []

/-- Repeats a step until it answers with nothing. -/
def many (step : Parser (Option α)) : Parser (List α) := do
  manyWithin step ((← ahead).length + 1)

/-- Repeats a parser while a condition holds of the tokens left. -/
def manyWhile (condition : Tokens → Bool) (parser : Parser α) : Parser (List α) :=
  many do
    if condition (← ahead) then return some (← parser) else return none

def separatedWithin (separator : String) (stop : Tokens → Bool) (element : Parser α) :
    Nat → Parser (List α × Bool)
  | 0 => return ([], false)
  | fuel + 1 => do
      if stop (← ahead) then return ([], true)
      let first ← element
      if stop (← ahead) then return ([first], false)
      operator separator
      let (rest, trailing) ← separatedWithin separator stop element fuel
      return (first :: rest, trailing)

/-- Elements up to a stop, with a separator between any two and perhaps behind the last one. The
answer tells whether it stood there. -/
def separated (separator : String) (stop : Tokens → Bool) (element : Parser α) :
    Parser (List α × Bool) := do
  let (elements, trailing) ← separatedWithin separator stop element ((← ahead).length + 1)
  return (elements, trailing && !elements.isEmpty)

/-- Comma-separated elements up to the end of the group. -/
def commaSeparated (element : Parser α) : Parser (List α) :=
  return (← separated "," List.isEmpty element).1

def chainWithin (continues : Tokens → Bool) (separator : String) (element : Parser α) :
    Nat → Parser (List α)
  | 0 => return []
  | fuel + 1 => do
      let first ← element
      if (← ahead).atOperator separator then
        operator separator
        if continues (← ahead) then
          return first :: (← chainWithin continues separator element fuel)
        else return [first]
      else return [first]

/-- One element or more with a separator between any two. Behind a separator the chain goes on
where the tokens look like another element. -/
def chain (continues : Tokens → Bool) (separator : String) (element : Parser α) :
    Parser (List α) := do
  chainWithin continues separator element ((← ahead).length + 1)

/-- Runs a parser on all tokens of a text. -/
def runAll (parser : Parser α) (tokens : Tokens) : Except SyntaxError α :=
  match parser.run ⟨tokens, [], none⟩ with
  | .error error => .error error
  | .ok (result, state) =>
      match state.remaining with
      | some delimiter => .error (.remaining (some delimiter))
      | none => if state.rest.isEmpty then .ok result else .error (.remaining none)

end Parser

end StorageMapping.Source
