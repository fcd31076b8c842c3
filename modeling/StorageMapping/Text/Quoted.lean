import StorageMapping.Text.Letters
import StorageMapping.Text.PrintTable

namespace StorageMapping.Text

/-! Quoted texts: the body of a double-quoted literal whose value is a given text. -/

/-- Printable characters stand for themselves in a quoted text. -/
def isPrintable (c : Char) : Bool :=
  if c.toNat < 128 then 32 ≤ c.toNat && c.toNat < 127
  else !unprintableRanges.contains c.toNat && !combiningRanges.contains c.toNat

def hexDigit (value : Nat) : Char :=
  Char.ofNat (if value < 10 then '0'.toNat + value else 'a'.toNat + (value - 10))

/-- Lower case hexadecimal digits, without leading zeros. -/
def hexDigits (value : Nat) : List Char :=
  if value < 16 then [hexDigit value]
  else hexDigits (value / 16) ++ [hexDigit (value % 16)]
termination_by value

/-- A character as it stands between double quotes, the null character apart. -/
def escapeChar (c : Char) : List Char :=
  if c = '\t' then ['\\', 't']
  else if c = '\n' then ['\\', 'n']
  else if c = '\r' then ['\\', 'r']
  else if c = '"' then ['\\', '"']
  else if c = '\\' then ['\\', '\\']
  else if isPrintable c then [c]
  else ['\\', 'u', '\x7b'] ++ hexDigits c.toNat ++ ['\x7d']

/-- An octal digit after a null character would be read as part of a longer escape elsewhere, so
the null character is then written with two digits of its own. -/
def escapeNull (next : Option Char) : List Char :=
  if next.any fun c => '0' ≤ c && c ≤ '7' then ['\\', 'x', '0', '0'] else ['\\', '0']

/-- The body of a string literal. -/
def escapeLiteral : List Char → List Char
  | [] => []
  | c :: rest =>
      (if c.toNat = 0 then escapeNull rest.head? else escapeChar c) ++ escapeLiteral rest

/-- A string literal with the given value. -/
def quoteLiteral (value : String) : String :=
  String.ofList ('"' :: (escapeLiteral value.toList ++ ['"']))

/-- A text as messages quote it: as a literal, but with the short form of the null character. -/
def quoteMessage (value : String) : String :=
  String.ofList
    ('"' :: ((value.toList.flatMap fun c => if c.toNat = 0 then escapeNull none else escapeChar c)
      ++ ['"']))

end StorageMapping.Text
