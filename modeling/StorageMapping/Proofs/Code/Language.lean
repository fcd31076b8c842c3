import StorageMapping.Source.Literal
import StorageMapping.Source.Token

namespace StorageMapping.Code

/-! # The language of generated statements

The part of the language in which generated statements are written, and its reader. Brackets are
balanced in tokens, so a fragment is read from its front, and what stands in brackets is read by
itself. Tokens of any other form have no meaning. -/

open Source

inductive Expression where
  | variable (name : String)
  | number (digits : String)
  | text (value : String)
  | constant (path : List String)
  | call (path : List String) (argument : Expression)
  | field (holder : String) (name : Identifier)
  /-- A field that is looked at and stays where it is. -/
  | borrowed (holder : String) (name : Identifier)
  | method (receiver called : String) (argument : Expression)
  /-- The value of a success. A failure ends the run. -/
  | attempt (inner : Expression)
  | equal (left right : Expression)
  | choice (condition accepted refused : Expression)
deriving Repr

/-- What ends with a semicolon. -/
inductive Step where
  /-- A method that is called for its effect. -/
  | perform (receiver called : String) (arguments : List Expression)
  | bind (name : String) (value : Expression)
  | assign (holder : String) (field : Identifier) (value : Expression)
deriving Repr

inductive Statement where
  | single (step : Step)
  | block (steps : List Step)
  /-- Steps that see the value inside an optional one, where it is present. -/
  | ifPresent (name : String) (tested : Expression) (steps : List Step)
deriving Repr

/-! ## Reading -/

def isMark (mark : Char) : Token → Bool
  | .punctuation char _ _ => char == mark
  | _ => false

def isBraced : Token → Bool
  | .group .brace _ _ _ => true
  | _ => false

/-- The segments of a path with double colons in front of each, and what follows. -/
def readPath : List Token → List String × List Token
  | .punctuation ':' true _ :: .punctuation ':' false _ :: .word name _ :: rest =>
      let (segments, following) := readPath rest
      (name.written :: segments, following)
  | tokens => ([], tokens)

variable (inner : List Token → Option Expression)

def readChoice (tokens : List Token) : Option (Expression × List Token) :=
  match tokens.span (!isBraced ·) with
  | (condition, .group _ accepted _ _ :: .word between _ :: .group .brace refused _ _ :: rest) => do
      if !between.isWord "else" then none
      some (.choice (← inner condition) (← inner accepted) (← inner refused), rest)
  | _ => none

/-- What lies at a path or is made by a function that lies there. -/
def readPlaced (tokens : List Token) : Option (Expression × List Token) :=
  match readPath tokens with
  | ([], _) => none
  | (path, .group .parenthesis argument _ _ :: rest) => do
      some (.call path (← inner argument), rest)
  | (path, rest) => some (.constant path, rest)

/-- The expression at the front, without operators behind it. -/
def readOperand (tokens : List Token) : Option (Expression × List Token) :=
  match tokens with
  | .literal text _ :: rest =>
      match Literal.stringValue? text with
      | some value => some (.text value, rest)
      | none => some (.number text, rest)
  | [.punctuation '&' _ _, .word holder _, .punctuation '.' _ _, .word name _] =>
      some (.borrowed holder.written name, [])
  | .word receiver _ :: .punctuation '.' _ _ :: .word called _
      :: .group .parenthesis argument _ _ :: rest => do
        some (.method receiver.written called.written (← inner argument), rest)
  | .word holder _ :: .punctuation '.' _ _ :: .word name _ :: rest =>
      some (.field holder.written name, rest)
  | .word name _ :: rest =>
      if name.isWord "if" then readChoice inner rest else some (.variable name.written, rest)
  | tokens => readPlaced inner tokens

/-- The operators behind an expression, up to the end. -/
def readOperators (operand : Expression) : List Token → Option Expression
  | [] => some operand
  | .punctuation '?' _ _ :: rest => readOperators (.attempt operand) rest
  | .punctuation '=' true _ :: .punctuation '=' false _ :: rest => do
      some (.equal operand (← inner rest))
  | _ => none

variable {inner}

/-- An expression that takes up all the tokens, down to a depth. -/
def readWithin : Nat → List Token → Option Expression
  | 0, _ => none
  | depth + 1, tokens => do
      let (operand, rest) ← readOperand (readWithin depth) tokens
      readOperators (readWithin depth) operand rest

/-- No expression is deeper than it is long. -/
def readExpression (tokens : List Token) : Option Expression :=
  readWithin (Token.countList tokens) tokens

/-- A step without its semicolon. -/
def readStep : List Token → Option Step
  | [.word receiver _, .punctuation '.' _ _, .word called _,
      .group .parenthesis arguments _ _] => do
        some (.perform receiver.written called.written
          (← (arguments.splitOnP (isMark ',')).mapM readExpression))
  | .word holder _ :: .punctuation '.' _ _ :: .word name _ :: .punctuation '=' false _
      :: value => do
        some (.assign holder.written name (← readExpression value))
  | .word keyword _ :: .word name _ :: .punctuation '=' false _ :: value =>
      if keyword.isWord "let" then do some (.bind name.written (← readExpression value)) else none
  | _ => none

/-- Steps with a semicolon behind each. -/
def readSteps (tokens : List Token) : Option (List Step) :=
  let steps := tokens.splitOnP (isMark ';')
  match steps.getLast? with
  | some [] => steps.dropLast.mapM readStep
  | _ => none

/-- The condition that an optional value is present, and what is done with it. -/
def readIfPresent (tokens : List Token) : Option Statement :=
  match readPath tokens with
  | (["core", "option", "Option", "Some"],
      .group .parenthesis [.word name _] _ _ :: .punctuation '=' false _ :: following) =>
        match following.span (!isBraced ·) with
        | (tested, [.group _ steps _ _]) => do
            some (.ifPresent name.written (← readExpression tested) (← readSteps steps))
        | _ => none
  | _ => none

def readSingle (tokens : List Token) : Option Statement :=
  match readSteps tokens with
  | some [step] => some (.single step)
  | _ => none

def readStatement (tokens : List Token) : Option Statement :=
  match tokens with
  | [.group .brace steps _ _] => (readSteps steps).map .block
  | .word condition _ :: .word binding _ :: rest =>
      if condition.isWord "if" && binding.isWord "let" then readIfPresent rest
      else readSingle tokens
  | tokens => readSingle tokens

end StorageMapping.Code
