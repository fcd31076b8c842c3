import StorageMapping.Document.Scanner
import StorageMapping.Document.Table

namespace StorageMapping.Document

/-! Whole documents: keys, values, lines and headers. -/

namespace Scanner

variable {α : Type}

/-- Repeats a scanner as long as it succeeds. -/
def many (scanner : Scanner α) : Nat → Scanner (List α)
  | 0 => return []
  | fuel + 1 => do
      match ← optional scanner with
      | some value => return value :: (← many scanner fuel)
      | none => return []

/-- Elements with a comma between any two, perhaps none at all. -/
def separated (element : Scanner α) : Scanner (List α) := do
  match ← optional element with
  | none => return []
  | some first =>
      let rest ← many (do
        char ','
        element) ((← ahead).length + 1)
      return first :: rest

/-! Keys. -/

def isBareKey (c : Char) : Bool :=
  c.toNat < 128 && (c.isAlphanum || c == '-' || c == '_')

def simpleKey : Scanner String := do
  match (← ahead) with
  | '"' :: _ => shortText '"' true
  | c :: _ =>
      if c == apostrophe then shortText apostrophe false
      else
        let word ← takeWhile isBareKey
        if word.isEmpty then fail else return String.ofList word
  | [] => fail

/-- Values and keys nest less deep than this. -/
def depthLimit : Nat := 80

/-- A key of one part or more, with points between them. -/
def key : Scanner (List String) := do
  let part : Scanner String := do
    blanks
    let word ← simpleKey
    blanks
    return word
  let first ← part
  let rest ← many (do
    char '.'
    part) ((← ahead).length + 1)
  if depthLimit ≤ rest.length + 1 then fail else return first :: rest

/-! Values. -/

def numeral : Scanner Value :=
  either (.moment <$> moment)
    (either (.decimal <$> decimal) (either (.integer <$> integer) (.decimal <$> specialDecimal)))

def truth : Scanner Value :=
  either
    (do
      literal "true"
      return .boolean true)
    (do
      literal "false"
      return .boolean false)

/-- An array in brackets, with any gaps and perhaps a comma at its end. -/
def array (value : Scanner Value) : Scanner Value := do
  char '['
  let elements ← separated do
    gap
    let element ← value
    gap
    return element
  if !elements.isEmpty then
    let _ ← accept ','
  gap
  char ']'
  return .array elements

/-- A key and its value. -/
def keyValue (value : Scanner Value) : Scanner (List String × Value) := do
  let path ← key
  char '='
  blanks
  return (path, ← value)

/-- A table in braces, on one line. -/
def braced (value : Scanner Value) : Scanner Value := do
  char '\x7b'
  let lines ← separated do
    let line ← keyValue value
    blanks
    return line
  blanks
  char '\x7d'
  lift (closedTable lines)

/-- A value in which arrays and tables nest less deep than a limit. -/
def valueWithin : Nat → Scanner Value
  | 0 => fail
  | depth + 1 => do
      match (← ahead) with
      | '[' :: _ => if depth = 0 then fail else array (valueWithin depth)
      | '\x7b' :: _ => if depth = 0 then fail else braced (valueWithin depth)
      | _ => either (.text <$> text) (either truth numeral)

def value : Scanner Value := valueWithin depthLimit

/-! Lines. -/

/-- The blank lines and comments before a line of contents. -/
def emptyLines : Scanner Unit := do
  blanks
  let _ ← many (do
    let _ ← optional comment
    lineFeed
    blanks) ((← ahead).length + 1)

def line : Scanner (List String × Value) := do
  let found ← keyValue value
  lineEnd
  emptyLines
  return found

/-- A header: one pair of brackets for a table, two for an element of an array. -/
def header : Scanner (List String × Bool) := do
  char '['
  let isElement ← accept '['
  let path ← key
  char ']'
  if isElement then char ']'
  lineEnd
  emptyLines
  return (path, isElement)

def lines : Scanner (List (List String × Value)) := do
  many line ((← ahead).length + 1)

def part : Scanner Section := do
  let (path, isElement) ← header
  return ⟨path, isElement, ← lines⟩

/-- All of a document. -/
def document : Scanner Entries := do
  emptyLines
  let first ← lines
  let sections ← many part ((← ahead).length + 1)
  let _ ← optional comment
  if !(← ahead).isEmpty then fail
  lift (assemble first sections)

end Scanner

def byteOrderMark : Char := Char.ofNat 0xFEFF

/-- The entries of a document, or nothing where the text is none. -/
def read (text : String) : Option Entries :=
  let content := match text.toList with
    | c :: rest => if c = byteOrderMark then rest else c :: rest
    | [] => []
  (Scanner.document content).map (·.1)

end StorageMapping.Document
