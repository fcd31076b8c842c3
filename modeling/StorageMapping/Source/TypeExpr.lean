import StorageMapping.Source.Token

namespace StorageMapping.Source

/-! Field types as they are written.

Paths, parentheses and invisible groups keep their structure, because columns are classified by
them. Every other form is kept as its tokens. No text has an invisible group or a path type with
arguments in parentheses, but a round that is put together by hand may hold them. -/

mutual

inductive TypeExpr where
  /-- Segments separated by double colons, with or without colons in front. -/
  | path (rooted : Bool) (segments : List PathSegment)
  /-- Segments behind a self type in angle brackets. -/
  | qualified (head : List Token) (segments : List PathSegment)
  | paren (inner : TypeExpr)
  /-- A type that a macro has put in as one piece. It prints as what it holds. -/
  | group (inner : TypeExpr)
  | other (tokens : List Token)

inductive PathSegment where
  | mk (name : Identifier) (position : Position) (arguments : Option PathArguments)

inductive PathArguments where
  /-- Arguments in angle brackets; `colons` stand in front of them, `trailing` is a comma behind
  the last one. -/
  | mk (colons : Bool) (arguments : List PathArgument) (trailing : Bool)
  /-- Arguments in parentheses, and what they are mapped to. -/
  | parenthesized (inputs output : List Token)

inductive PathArgument where
  | lifetime (name : Identifier)
  | type (type : TypeExpr)
  /-- A constant, an associated item or a constraint. -/
  | other (tokens : List Token)

end

instance : Inhabited TypeExpr := ⟨.other []⟩

instance : Inhabited PathSegment := ⟨.mk default default none⟩

namespace PathSegment

def name : PathSegment → Identifier
  | .mk name _ _ => name

def position : PathSegment → Position
  | .mk _ position _ => position

def arguments : PathSegment → Option PathArguments
  | .mk _ _ arguments => arguments

end PathSegment

namespace PathArgument

def isLifetime : PathArgument → Bool
  | .lifetime _ => true
  | _ => false

end PathArgument

/-- The tokens of the arguments between the angle brackets, given the tokens of each argument,
whether it is a lifetime, and whether a comma follows it. Lifetimes come first; a comma is put in
where moving them left none. -/
def argumentTokens (arguments : List (Bool × List Token × Bool)) : List Token :=
  let comma := Token.ofOperator ","
  let written (argument : Bool × List Token × Bool) : List Token :=
    argument.2.1 ++ if argument.2.2 then comma else []
  let lifetimes := arguments.filter (·.1)
  let others := arguments.filter (!·.1)
  let closed := lifetimes.getLast?.all (·.2.2)
  lifetimes.flatMap written
    ++ (if closed || others.isEmpty then [] else comma)
    ++ others.flatMap written

mutual

/-- The tokens of a type, in the order in which types are printed. -/
def TypeExpr.tokens : TypeExpr → List Token
  | .path rooted segments =>
      (if rooted then Token.ofOperator "::" else []) ++ segmentsTokens segments
  | .qualified head segments =>
      head ++ Token.ofOperator "::" ++ segmentsTokens segments
  | .paren inner => [Token.enclosed .parenthesis inner.tokens]
  | .group inner => inner.tokens
  | .other tokens => tokens

def PathSegment.tokens : PathSegment → List Token
  | .mk name position none => [.word name position]
  | .mk name position (some arguments) => .word name position :: arguments.tokens

def segmentsTokens : List PathSegment → List Token
  | [] => []
  | [segment] => segment.tokens
  | segment :: next :: rest =>
      segment.tokens ++ Token.ofOperator "::" ++ segmentsTokens (next :: rest)

def PathArguments.tokens : PathArguments → List Token
  | .mk colons arguments trailing =>
      (if colons then Token.ofOperator "::" else []) ++ Token.ofOperator "<"
        ++ argumentTokens (argumentsWritten trailing arguments) ++ Token.ofOperator ">"
  | .parenthesized inputs output => Token.enclosed .parenthesis inputs :: output

def argumentsWritten (trailing : Bool) : List PathArgument → List (Bool × List Token × Bool)
  | [] => []
  | [argument] => [(argument.isLifetime, argument.tokens, trailing)]
  | argument :: next :: rest =>
      (argument.isLifetime, argument.tokens, true) :: argumentsWritten trailing (next :: rest)

def PathArgument.tokens : PathArgument → List Token
  | .lifetime name => [.lifetime name .start]
  | .type type => type.tokens
  | .other tokens => tokens

end

namespace TypeExpr

/-- The text of a type. -/
def text (type : TypeExpr) : String := render type.tokens

/-- The last segment of a path, with or without a self type in front. -/
def lastSegment? : TypeExpr → Option PathSegment
  | .path _ segments => segments.getLast?
  | .qualified _ segments => segments.getLast?
  | _ => none

end TypeExpr

end StorageMapping.Source
