import StorageMapping.Source.Literal
import StorageMapping.Source.Token

namespace StorageMapping.Source

/-! From text to token trees. Blanks and comments separate tokens; a documentation comment is read
as the attribute `doc` with the comment as its value. -/

namespace Lexer

def apostrophe : Char := Char.ofNat 39

def punctuationMarks : List Char := "~!@#$%^&*-=+|;:,<.>/?".toList ++ [apostrophe]

/-- Blanks between tokens; the two direction marks count as blanks too. -/
def isBlank (c : Char) : Bool := Text.isSpace c || c.toNat == 0x200E || c.toNat == 0x200F

def startsWith (text : List Char) (front : String) : Bool := front.toList.isPrefixOf text

/-- The rest of a line, without its end. -/
def lineRest : List Char → List Char
  | [] => []
  | '\n' :: _ => []
  | '\r' :: '\n' :: _ => []
  | c :: rest => c :: lineRest rest

/-- The length of a block comment with its marks, where `depth` comments are open already. -/
def blockLength (depth : Nat) : List Char → Option Nat
  | '/' :: '*' :: rest => (blockLength (depth + 1) rest).map (· + 2)
  | '*' :: '/' :: rest =>
      if depth ≤ 1 then some 2 else (blockLength (depth - 1) rest).map (· + 2)
  | _ :: rest => (blockLength depth rest).map (· + 1)
  | [] => none

/-- The length of the comment at the front, unless it documents something. -/
def commentLength? (text : List Char) : Option Nat :=
  if startsWith text "//" then
    if (startsWith text "///" && !startsWith text "////") || startsWith text "//!" then none
    else some (lineRest text).length
  else if startsWith text "/**/" then some 4
  else if startsWith text "/*" then
    if (startsWith text "/**" && !startsWith text "/***") || startsWith text "/*!" then none
    else blockLength 0 text
  else none

/-- The length of the blanks and comments at the front. Every step takes a character, so the length
of the text is fuel enough. -/
def blankLength : Nat → List Char → Nat
  | 0, _ => 0
  | fuel + 1, text =>
      match commentLength? text with
      | some length => length + blankLength fuel (text.drop length)
      | none =>
          match text with
          | c :: rest => if isBlank c then blankLength fuel rest + 1 else 0
          | [] => 0

def skipBlanks (text : List Char) : List Char :=
  text.drop (blankLength text.length text)

/-- A documentation comment: its text, whether it documents what encloses it, and its length. -/
structure DocComment where
  text : List Char
  isInner : Bool
  length : Nat

def docComment? (text : List Char) : Option DocComment :=
  let line (isInner : Bool) : DocComment :=
    let comment := lineRest (text.drop 3)
    ⟨comment, isInner, comment.length + 3⟩
  let block (isInner : Bool) : Option DocComment :=
    (blockLength 0 text).map fun length => ⟨(text.take (length - 2)).drop 3, isInner, length⟩
  if startsWith text "//!" then some (line true)
  else if startsWith text "/*!" then block true
  else if startsWith text "///" then
    if startsWith text "////" then none else some (line false)
  else if startsWith text "/**" && !startsWith text "/***" then block false
  else none

/-- A carriage return may stand only before a line feed. -/
def hasBareReturn : List Char → Bool
  | [] => false
  | '\r' :: '\n' :: rest => hasBareReturn rest
  | '\r' :: _ => true
  | _ :: rest => hasBareReturn rest

/-- The attribute that a documentation comment stands for. -/
def DocComment.tokens (comment : DocComment) (position : Position) : List Token :=
  let contents :=
    [Token.word (.plain "doc") position, .punctuation '=' false position,
      .literal (Text.quoteLiteral (String.ofList comment.text)) position]
  [Token.punctuation '#' false position]
    ++ (if comment.isInner then [Token.punctuation '!' false position] else [])
    ++ [Token.group .bracket contents position position]

/-- The identifier at the front, with the characters it takes. -/
def identifier? (text : List Char) : Option (Identifier × Nat) :=
  let isRaw := startsWith text "r#"
  let name := if isRaw then text.drop 2 else text
  let length := identifierLength name
  let word := String.ofList (name.take length)
  if length = 0 then none
  else if isRaw then if neverRaw.contains word then none else some (⟨word, true⟩, length + 2)
  else some (⟨word, false⟩, length)

/-- The beginnings of literals that look like identifiers. -/
def literalStarts : List String :=
  let quote := String.singleton apostrophe
  ["r\"", "r#\"", "r##", "b\"", "b" ++ quote, "br\"", "br#", "c\"", "cr\"", "cr#"]

/-- Is there a punctuation character at the front, and no comment? -/
def isPunctuation (text : List Char) : Bool :=
  !startsWith text "//" && !startsWith text "/*" && text.head?.any punctuationMarks.contains

/-- A lifetime: an apostrophe and an identifier, where no other apostrophe follows. -/
def lifetime? (text : List Char) : Option (Identifier × Nat) :=
  match text with
  | [] => none
  | c :: rest => do
      if c ≠ apostrophe then none
      let (name, length) ← identifier? rest
      match rest.drop length with
      | next :: _ =>
          if next = apostrophe || (next = '#' && !startsWith rest "r#") then none
          else some (name, length + 1)
      | [] => some (name, length + 1)

/-- The token at the front other than a group, with the characters it takes. -/
def leaf? (text : List Char) (position : Position) : Option (Token × Nat) :=
  match Literal.length? text with
  | some length => some (.literal (String.ofList (text.take length)) position, length)
  | none =>
      match text with
      | [] => none
      | c :: rest =>
          if isPunctuation text then
            if c = apostrophe then
              (lifetime? text).map fun (name, length) => (.lifetime name position, length)
            else some (.punctuation c (isPunctuation rest) position, 1)
          else if literalStarts.any (startsWith text) then none
          else (identifier? text).map fun (name, length) => (.word name position, length)

def opening? : Char → Option Delimiter
  | '(' => some .parenthesis
  | '[' => some .bracket
  | '\x7b' => some .brace
  | _ => none

def closing? : Char → Option Delimiter
  | ')' => some .parenthesis
  | ']' => some .bracket
  | '\x7d' => some .brace
  | _ => none

/-- A group that is still open: what stands before it, last token first. -/
structure Frame where
  delimiter : Delimiter
  opening : Position
  before : List Token

/-- Reads tokens up to the end of the text. `done` holds the tokens of the innermost open group,
last token first. Every step takes a character, so `fuel` above the length of the text is
enough. -/
def readTokens : Nat → List Frame → List Token → Position → List Char → Option (List Token)
  | 0, _, _, _, _ => none
  | fuel + 1, frames, done, position, text =>
      let blank := blankLength fuel text
      let here := position.advance (text.take blank)
      let rest := text.drop blank
      let after (length : Nat) := here.advance (rest.take length)
      let doc? := (docComment? rest).filter fun comment => !hasBareReturn comment.text
      match doc? with
      | some comment =>
          readTokens fuel frames ((comment.tokens here).reverse ++ done) (after comment.length)
            (rest.drop comment.length)
      | none =>
          match rest with
          | [] => if frames.isEmpty then some done.reverse else none
          | c :: tail =>
              match opening? c with
              | some delimiter =>
                  readTokens fuel (⟨delimiter, here, done⟩ :: frames) [] (after 1) tail
              | none =>
                  match closing? c with
                  | some delimiter =>
                      match frames with
                      | frame :: outer =>
                          if frame.delimiter = delimiter then
                            readTokens fuel outer
                              (.group delimiter done.reverse frame.opening here :: frame.before)
                              (after 1) tail
                          else none
                      | [] => none
                  | none =>
                      match leaf? rest here with
                      | some (token, length) =>
                          readTokens fuel frames (token :: done) (after length) (rest.drop length)
                      | none => none

def byteOrderMark : Char := Char.ofNat 0xFEFF

end Lexer

/-- The tokens of a text, or nothing where the text does not fall into tokens. A byte order mark
in front is skipped and counts as a character. -/
def tokenize (text : List Char) : Option (List Token) :=
  match text with
  | c :: rest =>
      if c = Lexer.byteOrderMark then
        Lexer.readTokens (rest.length + 1) [] [] (Position.start.next c) rest
      else Lexer.readTokens (text.length + 1) [] [] .start text
  | [] => some []

end StorageMapping.Source
