import StorageMapping.Source.Identifier
import StorageMapping.Source.Position
import StorageMapping.Text.Quoted

namespace StorageMapping.Source

/-! Token trees and their text.

A delimited group is one token, so brackets are balanced by construction. A punctuation token is
one character; it is joint when the next character belongs to the same operator. -/

inductive Delimiter where
  | parenthesis
  | bracket
  | brace
deriving DecidableEq, Repr

inductive Token where
  | word (name : Identifier) (position : Position)
  | lifetime (name : Identifier) (position : Position)
  | punctuation (char : Char) (joint : Bool) (position : Position)
  | literal (text : String) (position : Position)
  | group (delimiter : Delimiter) (inner : List Token) (opening closing : Position)
deriving Inhabited, Repr

namespace Token

def position : Token → Position
  | .word _ position => position
  | .lifetime _ position => position
  | .punctuation _ _ position => position
  | .literal _ position => position
  | .group _ _ opening _ => opening

/-- The next token follows without a blank. -/
def isJoint : Token → Bool
  | .punctuation _ joint _ => joint
  | _ => false

/-- A group around its contents: braces keep a blank on both sides, the others keep none. -/
def enclose (delimiter : Delimiter) (inner : String) : String :=
  match delimiter with
  | .parenthesis => "(" ++ inner ++ ")"
  | .bracket => "[" ++ inner ++ "]"
  | .brace => if inner.isEmpty then "\x7b \x7d" else "\x7b " ++ inner ++ " \x7d"

mutual

def text : Token → String
  | .word name _ => name.written
  | .lifetime name _ => "'" ++ name.written
  | .punctuation char _ _ => String.singleton char
  | .literal text _ => text
  | .group delimiter inner _ _ => enclose delimiter (listText inner)

/-- Tokens one blank apart, and none after a joint one. -/
def listText : List Token → String
  | [] => ""
  | [token] => token.text
  | token :: next :: rest =>
      token.text ++ (if token.isJoint then "" else " ") ++ listText (next :: rest)

end

mutual

/-- Every token of a tree, the groups themselves included. -/
def count : Token → Nat
  | .group _ inner _ _ => countList inner + 1
  | _ => 1

def countList : List Token → Nat
  | [] => 0
  | token :: rest => token.count + countList rest

end

/-! Tokens that stand in no text. -/

def ofWord (text : String) : Token := .word (.plain text) .start

def ofIdentifier (name : Identifier) : Token := .word name .start

/-- A string literal with the given value. -/
def ofText (value : String) : Token := .literal (Text.quoteLiteral value) .start

def enclosed (delimiter : Delimiter) (inner : List Token) : Token :=
  .group delimiter inner .start .start

/-- An operator: its characters are joint up to the last one. -/
def operator (position : Position) : List Char → List Token
  | [] => []
  | [c] => [.punctuation c false position]
  | c :: rest => .punctuation c true position :: operator position rest

def ofOperator (text : String) : List Token := operator .start text.toList

end Token

/-- The text of a sequence of tokens. -/
def render (tokens : List Token) : String := Token.listText tokens

end StorageMapping.Source
