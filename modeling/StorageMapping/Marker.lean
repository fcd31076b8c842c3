import StorageMapping.Diagnostic
import StorageMapping.Locator
import StorageMapping.Source.Item
import StorageMapping.Source.Parser

namespace StorageMapping

open Source

/-! Markers: the attributes that map a type and its fields to a store.

A marker is a bare path, or a path with a list of entries between delimiters. Entries are separated
by commas and may end in one. When a key repeats, its last entry holds. -/

/-- The attributes that a backend reacts to, and their names in messages. -/
structure MarkerSet where
  typeAttribute : String
  columnAttribute : String
  typeDisplay : String
  columnDisplay : String
  locatorKeys : LocatorKeys
deriving DecidableEq, Repr

/-- What a column marker tells about its field. -/
structure ColumnMarker where
  name : String
  isKey : Bool
  ignoresNull : Bool
deriving DecidableEq, Repr, Inhabited

namespace ColumnMarker

def empty : ColumnMarker := ⟨"", false, false⟩

end ColumnMarker

namespace Marker

/-- Why a marker cannot be read. -/
inductive Problem where
  /-- A value stands where a list is wanted. -/
  | notAList (path : String) (isInner : Bool)
  | literalKey
  | noKey
  | missingKey
  | missingSegment (atEnd : Bool)
  | unknownKey (known : List String)
  | missingEquals
  | wrongValue (atEnd : Bool) (wanted : String)
  | missingComma
deriving DecidableEq, Repr

namespace Problem

/-- At the end of a list, messages say so. -/
def expected (atEnd : Bool) (wanted : String) : String :=
  (if atEnd then "unexpected end of input, " else "") ++ "expected " ++ wanted

def message : Problem → String
  | .notAList path isInner =>
      "expected parentheses: #" ++ (if isInner then "!" else "") ++ "[" ++ path ++ "(...)]"
  | .literalKey => "unexpected literal in nested attribute, expected ident"
  | .noKey => "unexpected token in nested attribute, expected ident"
  | .missingKey => expected true "nested attribute"
  | .missingSegment atEnd => expected atEnd "ident"
  | .unknownKey known =>
      "Unknown key, expected one of: "
        ++ String.intercalate ", " (known.map fun key => "`" ++ key ++ "`")
  | .missingEquals => "expected `=`"
  | .wrongValue atEnd wanted => expected atEnd (wanted ++ " literal")
  | .missingComma => "expected `,`"

end Problem

structure Fault where
  problem : Problem
  position : Position
deriving DecidableEq, Repr

/-- The key of an entry: a path, of which only a single plain word can be known. -/
structure Key where
  rooted : Bool
  path : List Identifier
  position : Position
deriving Repr

namespace Key

def isWord (key : Key) (word : String) : Bool :=
  !key.rooted &&
    match key.path with
    | [name] => name.isWord word
    | _ => false

/-- The word that a key is, if it is one. -/
def word? (key : Key) : Option String :=
  match key.rooted, key.path with
  | false, [name] => if name.isRaw then none else some name.text
  | _, _ => none

end Key

/-- A fault at the token ahead, or at the closing delimiter. -/
def faultAt (closing : Position) (tokens : Tokens) (problem : Problem) : Fault :=
  ⟨problem, (tokens.head?.map Token.position).getD closing⟩

/-- The segments behind the first one. -/
def readSegments (closing : Position) : Tokens → Except Fault (List Identifier × Tokens)
  | .punctuation ':' true _ :: .punctuation ':' _ _ :: .word name _ :: rest => do
      let (segments, rest) ← readSegments closing rest
      return (name :: segments, rest)
  | .punctuation ':' true _ :: .punctuation ':' _ _ :: rest =>
      throw (faultAt closing rest (.missingSegment rest.isEmpty))
  | rest => return ([], rest)

def readKey (closing : Position) (tokens : Tokens) : Except Fault (Key × Tokens) := do
  let rooted := tokens.atOperator "::"
  let path := if rooted then tokens.skip 2 else tokens
  match path with
  | .word name position :: rest =>
      let (segments, rest) ← readSegments closing rest
      return (⟨rooted, name :: segments, position⟩, rest)
  | [] => throw (faultAt closing path .missingKey)
  | _ => throw (faultAt closing path (if path.atLiteral then .literalKey else .noKey))

/-- What stands behind the equals sign of an entry. -/
def readValue {α : Type} (closing : Position) (wanted : String) (value? : Token → Option α)
    (tokens : Tokens) : Except Fault (α × Tokens) :=
  match tokens with
  | [] => throw (faultAt closing tokens (.wrongValue true wanted))
  | token :: rest =>
      match value? token with
      | some value => return (value, rest)
      | none => throw (faultAt closing tokens (.wrongValue false wanted))

def stringValue? : Token → Option String
  | .literal text _ => Literal.stringValue? text
  | _ => none

def truthValue? : Token → Option Bool
  | .word name _ =>
      if name.isWord "true" then some true else if name.isWord "false" then some false else none
  | _ => none

/-- A text entry behind its key. -/
def readText (closing : Position) (tokens : Tokens) : Except Fault (String × Tokens) :=
  if tokens.atOperator "=" then readValue closing "string" stringValue? (tokens.skip 1)
  else throw (faultAt closing tokens .missingEquals)

/-- A flag behind its key: on unless a value says otherwise. -/
def readFlag (closing : Position) (tokens : Tokens) : Except Fault (Bool × Tokens) :=
  if tokens.atOperator "=" then readValue closing "boolean" truthValue? (tokens.skip 1)
  else return (true, tokens)

/-- Reads entries one after the other. Each takes a token, so the number of tokens is fuel
enough. -/
def readEntries {α : Type} (closing : Position)
    (entry : Key → α → Tokens → Except Fault (α × Tokens)) :
    Nat → α → Tokens → Except Fault α
  | 0, marker, _ => return marker
  | _, marker, [] => return marker
  | fuel + 1, marker, tokens => do
      let (key, rest) ← readKey closing tokens
      let (marker, rest) ← entry key marker rest
      if rest.isEmpty then return marker
      if rest.atOperator "," then readEntries closing entry fuel marker (rest.skip 1)
      else throw (faultAt closing rest .missingComma)

/-- Reads the entries of an attribute into an empty marker. -/
def read {α : Type} (empty : α)
    (entry : Position → Key → α → Tokens → Except Fault (α × Tokens)) (attr : Attribute) :
    Except Fault α :=
  match attr.input with
  | .none => return empty
  | .list tokens closing => readEntries closing (entry closing) (tokens.length + 1) empty tokens
  | .value equals => throw ⟨.notAList attr.pathText attr.isInner, equals⟩

/-- An entry of a type marker: a known key and a locator. -/
def typeEntry (keys : LocatorKeys) (closing : Position) (key : Key) (marker : Locators)
    (tokens : Tokens) : Except Fault (Locators × Tokens) :=
  match key.word?.bind keys.slot? with
  | some slot => do
      let (value, rest) ← readText closing tokens
      return (marker.set slot value, rest)
  | none => throw ⟨.unknownKey keys.words, key.position⟩

/-- Reads a type marker. -/
def readType (keys : LocatorKeys) (attr : Attribute) : Except Fault Locators :=
  read .empty (typeEntry keys) attr

/-- An entry of a column marker: the storage name or one of two flags. -/
def columnEntry (closing : Position) (key : Key) (marker : ColumnMarker) (tokens : Tokens) :
    Except Fault (ColumnMarker × Tokens) := do
  if key.isWord "name" then
    let (value, rest) ← readText closing tokens
    return ({ marker with name := value }, rest)
  else if key.isWord "key" then
    let (value, rest) ← readFlag closing tokens
    return ({ marker with isKey := value }, rest)
  else if key.isWord "ignore_null" then
    let (value, rest) ← readFlag closing tokens
    return ({ marker with ignoresNull := value }, rest)
  else throw ⟨.unknownKey ["name", "key", "ignore_null"], key.position⟩

/-- Reads a column marker. -/
def readColumn (attr : Attribute) : Except Fault ColumnMarker := read .empty columnEntry attr

/-- The first attribute of a name. -/
def find? (attributes : List Attribute) (name : String) : Option Attribute :=
  attributes.find? (·.isNamed name)

/-- The diagnostic of a fault in a marker of the given element. -/
def diagnostic (location : Location) (fault : Fault) : Diagnostic :=
  ⟨.malformedMarker, { location with position := fault.position }, fault.problem.message⟩

end Marker

end StorageMapping
