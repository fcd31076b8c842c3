import StorageMapping.Text.Letters

namespace StorageMapping.Source

/-! Literals: how far a literal reaches into a text, and what a string literal stands for.

A scanner looks at the front of a text and answers how many characters belong to the literal
there. -/

/-- The characters of the plain identifier at the front. -/
def identifierLength : List Char → Nat
  | [] => 0
  | c :: rest =>
      if Text.isIdentifierStart c then (rest.takeWhile Text.isIdentifierContinue).length + 1 else 0

/-- A literal may carry an identifier as its suffix. -/
def withSuffix (text : List Char) (length : Nat) : Nat :=
  length + identifierLength (text.drop length)

namespace Literal

/-- The three families of quoted literals. -/
inductive Family where
  | text
  | bytes
  | terminated
deriving DecidableEq, Repr

/-- Where a scanner stands inside a quoted literal: in plain text, among the blanks after a line
continuation, or inside the braces of a code point with its value and digits so far. -/
inductive Place where
  | plain
  | continued
  | code (value digits : Nat)
deriving DecidableEq, Repr

/-- Two hexadecimal digits, where a family allows their value. -/
def byteEscape? (family : Family) (high low : Char) : Option Nat := do
  let value := (← Text.hexValue? high) * 16 + (← Text.hexValue? low)
  match family with
  | .text => if value < 128 then some value else none
  | .bytes => some value
  | .terminated => if value = 0 then none else some value

/-- The character that a one-letter escape stands for. -/
def letterEscape? (family : Family) : Char → Option Char
  | 'n' => some '\n'
  | 'r' => some '\r'
  | 't' => some '\t'
  | '\\' => some '\\'
  | '0' => if family = .terminated then none else some '\x00'
  | c => if c = '"' ∨ c.toNat = 39 then some c else none

/-- The code point that ends at a closing brace, where a family allows it. -/
def codeEscape? (family : Family) (value digits : Nat) : Option Char :=
  if digits = 0 ∨ (family = .terminated ∧ value = 0) then none else Text.charOfCode? value

def plainAllowed (family : Family) (c : Char) : Bool :=
  match family with
  | .text => true
  | .bytes => c.toNat < 128
  | .terminated => c.toNat ≠ 0

private def step (length : Nat) (value : List Char) (rest : Option (Nat × List Char)) :
    Option (Nat × List Char) :=
  rest.map fun (more, tail) => (length + more, value ++ tail)

/-- Reads a quoted literal from behind its opening quote: the characters up to and with the
closing quote, and the value between the quotes. -/
def readQuoted (family : Family) : Place → List Char → Option (Nat × List Char)
  | _, [] => none
  | .code value digits, c :: rest =>
      if c = '\x7d' then do
        step 1 [← codeEscape? family value digits] (readQuoted family .plain rest)
      else if c = '_' then
        if digits = 0 then none else step 1 [] (readQuoted family (.code value digits) rest)
      else do
        let digit ← Text.hexValue? c
        if digits = 6 then none
        else step 1 [] (readQuoted family (.code (value * 16 + digit) (digits + 1)) rest)
  | .continued, ' ' :: rest => step 1 [] (readQuoted family .continued rest)
  | .continued, '\t' :: rest => step 1 [] (readQuoted family .continued rest)
  | .continued, '\n' :: rest => step 1 [] (readQuoted family .continued rest)
  | .continued, '\r' :: '\n' :: rest => step 2 [] (readQuoted family .continued rest)
  | _, '"' :: _ => some (1, [])
  | _, '\r' :: '\n' :: rest => step 2 ['\n'] (readQuoted family .plain rest)
  | _, '\r' :: _ => none
  | _, '\\' :: 'x' :: high :: low :: rest => do
      step 4 [Char.ofNat (← byteEscape? family high low)] (readQuoted family .plain rest)
  | _, '\\' :: 'u' :: '\x7b' :: rest =>
      if family = .bytes then none else step 3 [] (readQuoted family (.code 0 0) rest)
  | _, '\\' :: '\n' :: rest => step 2 [] (readQuoted family .continued rest)
  | _, '\\' :: '\r' :: '\n' :: rest => step 3 [] (readQuoted family .continued rest)
  | _, '\\' :: c :: rest => do
      step 2 [← letterEscape? family c] (readQuoted family .plain rest)
  | _, c :: rest =>
      if plainAllowed family c then step 1 [c] (readQuoted family .plain rest) else none

/-- Reads a raw literal from behind its opening quote. It ends at a quote followed by as many
number signs as stood before the opening one. -/
def readRaw (family : Family) (signs : Nat) : List Char → Option (Nat × List Char)
  | [] => none
  | '\r' :: '\n' :: rest => step 2 ['\r', '\n'] (readRaw family signs rest)
  | '\r' :: _ => none
  | c :: rest =>
      if c = '"' ∧ (List.replicate signs '#').isPrefixOf rest then some (signs + 1, [])
      else if plainAllowed family c then step 1 [c] (readRaw family signs rest) else none

/-- A raw literal from behind its letters: number signs, a quote and the rest. -/
def readRawFrom (family : Family) (text : List Char) : Option (Nat × List Char) :=
  let signs := (text.takeWhile (· == '#')).length
  match text.drop signs with
  | '"' :: rest => if signs > 255 then none else step (signs + 1) [] (readRaw family signs rest)
  | _ => none

/-- The quoted literal at the front, without its suffix. -/
def read? : List Char → Option (Family × Nat × List Char)
  | '"' :: rest => (step 1 [] (readQuoted .text .plain rest)).map (.text, ·)
  | 'r' :: rest => (step 1 [] (readRawFrom .text rest)).map (.text, ·)
  | 'b' :: '"' :: rest => (step 2 [] (readQuoted .bytes .plain rest)).map (.bytes, ·)
  | 'b' :: 'r' :: rest => (step 2 [] (readRawFrom .bytes rest)).map (.bytes, ·)
  | 'c' :: '"' :: rest => (step 2 [] (readQuoted .terminated .plain rest)).map (.terminated, ·)
  | 'c' :: 'r' :: rest => (step 2 [] (readRawFrom .terminated rest)).map (.terminated, ·)
  | _ => none

/-- Digits and underscores of a code point in braces, up to and with the closing brace. -/
def codeLength (value digits : Nat) : List Char → Option Nat
  | [] => none
  | c :: rest =>
      if c = '\x7d' then (codeEscape? .text value digits).map fun _ => 1
      else if c = '_' then
        if digits = 0 then none else (codeLength value digits rest).map (· + 1)
      else do
        let digit ← Text.hexValue? c
        if digits = 6 then none
        else (codeLength (value * 16 + digit) (digits + 1) rest).map (· + 1)

/-- One character or escape between single quotes. -/
def unitLength (family : Family) : List Char → Option Nat
  | '\\' :: 'x' :: high :: low :: _ => (byteEscape? family high low).map fun _ => 4
  | '\\' :: 'u' :: '\x7b' :: rest =>
      if family = .bytes then none else (codeLength 0 0 rest).map (· + 3)
  | '\\' :: c :: _ => (letterEscape? family c).map fun _ => 2
  | ['\\'] => none
  | c :: _ => if plainAllowed family c then some 1 else none
  | [] => none

/-- A character literal from behind its opening quote. -/
def characterLength (family : Family) (text : List Char) : Option Nat := do
  let length ← unitLength family text
  match text.drop length with
  | c :: _ => if c.toNat = 39 then some (length + 1) else none
  | [] => none

/-! Numbers. -/

def isDigitOrUnderscore (c : Char) : Bool := Text.isDigit c || c == '_'

/-- The exponent behind its letter: an optional sign and digits. -/
def exponentLength (signed valued : Bool) : List Char → Option Nat
  | [] => if valued then some 0 else none
  | c :: rest =>
      if c = '+' ∨ c = '-' then
        if valued then some 0
        else if signed then none
        else (exponentLength true valued rest).map (· + 1)
      else if Text.isDigit c then (exponentLength signed true rest).map (· + 1)
      else if c = '_' then (exponentLength signed valued rest).map (· + 1)
      else if valued then some 0 else none

/-- Digits with a point, an exponent or both. A point does not belong to a number when another
point or a name follows it. -/
def decimalLength (text : List Char) : Option Nat := do
  if !(text.head?.any Text.isDigit) then none
  let whole := (text.takeWhile isDigitOrUnderscore).length
  match text.drop whole with
  | '.' :: rest =>
      if rest.head?.any fun c => c == '.' || Text.isIdentifierStart c then none
      let length := whole + 1 + (rest.takeWhile isDigitOrUnderscore).length
      match text.drop length with
      | c :: rest =>
          if c = 'e' ∨ c = 'E' then
            match exponentLength false false rest with
            | some exponent => some (length + 1 + exponent)
            | none => some length
          else some length
      | [] => some length
  | c :: rest =>
      if c = 'e' ∨ c = 'E' then (exponentLength false false rest).map (whole + 1 + ·) else none
  | [] => none

/-- Digits of a base. A decimal digit that is too large is no number at all, a letter ends it. -/
def digitsLength (base : Nat) (empty : Bool) : List Char → Option Nat
  | [] => if empty then none else some 0
  | c :: rest =>
      let ending := if empty then none else some 0
      if c = '_' then
        if empty ∧ base = 10 then none else (digitsLength base empty rest).map (· + 1)
      else
        match Text.hexValue? c with
        | some digit =>
            if digit < base then (digitsLength base false rest).map (· + 1)
            else if Text.isDigit c then none else ending
        | none => ending

def integerLength : List Char → Option Nat
  | '0' :: 'x' :: rest => (digitsLength 16 true rest).map (· + 2)
  | '0' :: 'o' :: rest => (digitsLength 8 true rest).map (· + 2)
  | '0' :: 'b' :: rest => (digitsLength 2 true rest).map (· + 2)
  | text => digitsLength 10 true text

/-- A number with its suffix; no letter or digit may follow. -/
def endNumber (text : List Char) (length : Nat) : Option Nat :=
  let whole := withSuffix text length
  if (text.drop whole).head?.any Text.isIdentifierContinue then none else some whole

/-- The character literal at the front, with its quotes. -/
def quotedCharacterLength : List Char → Option Nat
  | 'b' :: c :: rest =>
      if c.toNat = 39 then (characterLength .bytes rest).map (· + 2) else none
  | c :: rest => if c.toNat = 39 then (characterLength .text rest).map (· + 1) else none
  | [] => none

/-- The literal at the front, with its suffix. -/
def length? (text : List Char) : Option Nat :=
  ((read? text).map fun (_, length, _) => withSuffix text length)
    <|> ((quotedCharacterLength text).map (withSuffix text))
    <|> ((decimalLength text).bind (endNumber text))
    <|> ((integerLength text).bind (endNumber text))

/-- The value of a string literal; other literals have none. -/
def stringValue? (text : String) : Option String :=
  match read? text.toList with
  | some (.text, _, value) => some (String.ofList value)
  | _ => none

/-- A literal that begins with a digit. -/
def isNumber (text : String) : Bool := text.toList.head?.any Text.isDigit

end Literal

end StorageMapping.Source
