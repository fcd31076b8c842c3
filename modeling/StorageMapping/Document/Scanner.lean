import StorageMapping.Document.Value
import StorageMapping.Text.Letters

namespace StorageMapping.Document

/-! The small parts of a document: blanks, comments, texts, numbers and moments. -/

/-- Takes characters from the front of a text. -/
abbrev Scanner := StateT (List Char) Option

namespace Scanner

variable {α : Type}

def ahead : Scanner (List Char) := get

def fail : Scanner α := fun _ => none

/-- The first of two scanners that succeeds. -/
def either (first second : Scanner α) : Scanner α := fun text =>
  match first text with
  | some result => some result
  | none => second text

/-- Tries a scanner; if it fails nothing was taken. -/
def optional (scanner : Scanner α) : Scanner (Option α) := either (some <$> scanner) (pure none)

def anyOf (accept : Char → Bool) : Scanner Char := fun text =>
  match text with
  | c :: rest => if accept c then some (c, rest) else none
  | [] => none

def char (wanted : Char) : Scanner Unit := do
  let _ ← anyOf (· == wanted)

def accept (wanted : Char) : Scanner Bool := return (← optional (char wanted)).isSome

def literal (wanted : String) : Scanner Unit := fun text =>
  if wanted.toList.isPrefixOf text then some ((), text.drop wanted.length) else none

def takeWhile (accept : Char → Bool) : Scanner (List Char) := fun text =>
  some (text.takeWhile accept, text.dropWhile accept)

/-- Exactly so many characters. -/
def exactly (count : Nat) (accept : Char → Bool) : Scanner (List Char) := fun text =>
  let taken := text.take count
  if taken.length = count && taken.all accept then some (taken, text.drop count) else none

def lift (result : Option α) : Scanner α := fun text => result.map (·, text)

/-! Blanks, line ends and comments. -/

def isBlank (c : Char) : Bool := c == ' ' || c == '\t'

/-- The characters that texts and comments hold: no control characters but the tab. -/
def isPlain (c : Char) : Bool := c == '\t' || (0x20 ≤ c.toNat && c.toNat ≠ 0x7F)

def blanks : Scanner Unit := do
  let _ ← takeWhile isBlank

def lineFeed : Scanner Unit := either (char '\n') (literal "\r\n")

def comment : Scanner Unit := do
  char '#'
  let _ ← takeWhile isPlain

/-- What may stand behind a value or a header on its line. -/
def lineEnd : Scanner Unit := do
  blanks
  let _ ← optional comment
  if !(← ahead).isEmpty then lineFeed

/-- Skips blanks and line ends, and comments where they may stand. Every step takes a character, so
the length of the text is fuel enough. -/
def skipLines (commented : Bool) : Nat → Scanner Unit
  | 0 => return
  | fuel + 1 => do
      blanks
      let found ← optional (if commented then either lineFeed comment else lineFeed)
      if found.isSome then skipLines commented fuel

/-- Blanks, line ends and comments. -/
def gap : Scanner Unit := do
  skipLines true ((← ahead).length + 1)

/-! Texts. -/

def apostrophe : Char := Char.ofNat 39

def hexNumber (digits : List Char) : Nat :=
  digits.foldl (fun value c => value * 16 + (Text.hexValue? c).getD 0) 0

/-- A code point of so many hexadecimal digits. -/
def codePoint (digits : Nat) : Scanner Char := do
  lift (Text.charOfCode? (hexNumber (← exactly digits Text.isHexDigit)))

/-- The character of an escape, behind its backslash. -/
def escape : Scanner Char := do
  match ← anyOf fun _ => true with
  | 'b' => return '\x08'
  | 't' => return '\t'
  | 'n' => return '\n'
  | 'f' => return '\x0c'
  | 'r' => return '\r'
  | '"' => return '"'
  | '\\' => return '\\'
  | 'u' => codePoint 4
  | 'U' => codePoint 8
  | _ => fail

/-- The rest of a text on one line, with its closing quote. -/
def quotedRest (quote : Char) (escapes : Bool) : Nat → Scanner (List Char)
  | 0 => fail
  | fuel + 1 => do
      let c ← anyOf fun _ => true
      if c == quote then return []
      let value ←
        if escapes && c == '\\' then escape
        else if isPlain c then pure c
        else fail
      return value :: (← quotedRest quote escapes fuel)

/-- A backslash at the end of a line drops the line end and all blanks behind it. -/
def continuation : Scanner Unit := do
  char '\\'
  blanks
  lineFeed
  skipLines false ((← ahead).length + 1)

/-- The rest of a text on several lines, with its closing quotes. It may end in one or two quotes
of its own. -/
def longRest (quote : Char) (escapes : Bool) : Nat → Scanner (List Char)
  | 0 => fail
  | fuel + 1 => do
      let quotes := ((← ahead).takeWhile (· == quote)).length
      if 3 ≤ quotes then
        let own := min quotes 5 - 3
        let _ ← exactly (own + 3) (· == quote)
        return List.replicate own quote
      else if (← ahead).head? = some quote then
        char quote
        return quote :: (← longRest quote escapes fuel)
      else if (← optional lineFeed).isSome then
        return '\n' :: (← longRest quote escapes fuel)
      else if escapes && (← ahead).head? = some '\\' then
        match ← optional continuation with
        | some _ => longRest quote escapes fuel
        | none =>
            char '\\'
            return (← escape) :: (← longRest quote escapes fuel)
      else
        let c ← anyOf isPlain
        return c :: (← longRest quote escapes fuel)

/-- A text on one line between quotes of one kind. -/
def shortText (quote : Char) (escapes : Bool) : Scanner String := do
  char quote
  return String.ofList (← quotedRest quote escapes ((← ahead).length + 1))

/-- A text between three quotes of one kind. A line end right behind them is dropped. -/
def longText (quote : Char) (escapes : Bool) : Scanner String := do
  let _ ← exactly 3 (· == quote)
  let _ ← optional lineFeed
  return String.ofList (← longRest quote escapes ((← ahead).length + 1))

def text : Scanner String :=
  let quoted (quote : Char) (escapes : Bool) : Scanner String :=
    either (longText quote escapes) (shortText quote escapes)
  either (quoted '"' true) (quoted apostrophe false)

/-! Numbers. -/

/-- Digits, with single underscores between them. -/
def digitsRest (isDigit : Char → Bool) : Nat → Scanner (List Char)
  | 0 => return []
  | fuel + 1 => do
      match (← ahead) with
      | '_' :: _ =>
          char '_'
          let c ← anyOf isDigit
          return c :: (← digitsRest isDigit fuel)
      | c :: _ =>
          if isDigit c then
            char c
            return c :: (← digitsRest isDigit fuel)
          else return []
      | [] => return []

def digits (isDigit : Char → Bool) : Scanner (List Char) := do
  let first ← anyOf isDigit
  return first :: (← digitsRest isDigit ((← ahead).length + 1))

/-- A sign; the answer tells whether it is a minus. -/
def sign : Scanner Bool := do
  match ← optional (anyOf fun c => c == '+' || c == '-') with
  | some c => return c == '-'
  | none => return false

/-- A decimal number without a point. A zero is followed by no other digit. -/
def wholeDigits : Scanner (List Char) := do
  match (← ahead) with
  | '0' :: _ =>
      char '0'
      return ['0']
  | _ => digits Text.isDigit

def digitValues (digits : List Char) : List Nat := digits.map fun c => c.toNat - '0'.toNat

def number (base : Nat) (digits : List Char) : Nat :=
  digits.foldl (fun value c => value * base + (Text.hexValue? c).getD 0) 0

/-- The whole numbers of 64 digits. -/
def inRange (value : Int) : Option Int :=
  if -9223372036854775808 ≤ value && value < 9223372036854775808 then some value else none

def isDigitBelow (base : Nat) (c : Char) : Bool := (Text.hexValue? c).any (· < base)

def based (mark : String) (base : Nat) : Scanner Int := do
  literal mark
  lift (inRange (number base (← digits (isDigitBelow base))))

def integer : Scanner Int := do
  let front := (← ahead).take 2
  if front = ['0', 'x'] then based "0x" 16
  else if front = ['0', 'o'] then based "0o" 8
  else if front = ['0', 'b'] then based "0b" 2
  else
    let isNegative ← sign
    let value : Int := number 10 (← wholeDigits)
    lift (inRange (if isNegative then -value else value))

def exponent : Scanner Int := do
  let _ ← anyOf fun c => c == 'e' || c == 'E'
  let isNegative ← sign
  let value : Int := number 10 (← digits Text.isDigit)
  return if isNegative then -value else value

/-- A decimal number with a point, an exponent or both. Only negative ones may be too large. -/
def decimal : Scanner Decimal.Binary64 := do
  let isNegative ← sign
  let whole ← wholeDigits
  let fraction ←
    if ← accept '.' then digits Text.isDigit else pure []
  let power ← optional exponent
  if fraction.isEmpty && power.isNone then fail
  let value := Decimal.Binary64.ofDecimal isNegative (digitValues (whole ++ fraction))
    (power.getD 0 - fraction.length)
  if value = .infinite false then fail else return value

def specialDecimal : Scanner Decimal.Binary64 := do
  let isNegative ← sign
  either
    (do
      literal "inf"
      return .infinite isNegative)
    (do
      literal "nan"
      return .undefined)

/-! Moments. -/

/-- Two digits within bounds. -/
def pair (least most : Nat) : Scanner Nat := do
  let value := number 10 (← exactly 2 Text.isDigit)
  if least ≤ value && value ≤ most then return value else fail

def daysOf (year month : Nat) : Nat :=
  if month = 2 then
    if year % 4 = 0 && (year % 100 ≠ 0 || year % 400 = 0) then 29 else 28
  else if [4, 6, 9, 11].contains month then 30
  else 31

/-- A number with leading zeros. -/
def padded (width value : Nat) : String :=
  let text := toString value
  String.ofList (List.replicate (width - text.length) '0') ++ text

def date : Scanner String := do
  let year := number 10 (← exactly 4 Text.isDigit)
  char '-'
  let month ← pair 1 12
  char '-'
  let day ← pair 1 31
  if daysOf year month < day then fail
  return padded 4 year ++ "-" ++ padded 2 month ++ "-" ++ padded 2 day

/-- Digits behind the point of a second: nine at most, without zeros at the end. -/
def secondFraction : Scanner String := do
  char '.'
  let digits ← takeWhile Text.isDigit
  if digits.isEmpty then fail
  let kept := ((digits.take 9).reverse.dropWhile (· == '0')).reverse
  return if kept.isEmpty then "" else "." ++ String.ofList kept

def time : Scanner String := do
  let hour ← pair 0 23
  char ':'
  let minute ← pair 0 59
  char ':'
  let second ← pair 0 60
  let fraction ← optional secondFraction
  return padded 2 hour ++ ":" ++ padded 2 minute ++ ":" ++ padded 2 second ++ fraction.getD ""

/-- The distance from universal time. -/
def offset : Scanner String :=
  either
    (do
      let _ ← anyOf fun c => c == 'Z' || c == 'z'
      return "Z")
    (do
      let isNegative := (← anyOf fun c => c == '+' || c == '-') == '-'
      let hours ← pair 0 23
      char ':'
      let minutes ← pair 0 59
      let isBehind := isNegative && (0 < hours || 0 < minutes)
      return (if isBehind then "-" else "+") ++ padded 2 hours ++ ":" ++ padded 2 minutes)

def timeBehindDate : Scanner String := do
  let _ ← anyOf fun c => c == 'T' || c == 't' || c == ' '
  let clock ← time
  return "T" ++ clock ++ (← optional offset).getD ""

/-- A date, a time, or both with or without an offset. -/
def moment : Scanner String :=
  either
    (do
      let day ← date
      return day ++ (← optional timeBehindDate).getD "")
    time

end Scanner

end StorageMapping.Document
