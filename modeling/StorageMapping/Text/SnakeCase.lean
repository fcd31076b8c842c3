import StorageMapping.Text.Letters

namespace StorageMapping.Text

/-! Snake case: the words of a name in lower case, joined by underscores. -/

namespace SnakeCase

/-- The case of the last cased letter since the last word boundary. -/
inductive Casing where
  | none
  | lower
  | upper
deriving DecidableEq, Repr

/-- The casing after one more letter; a letter without case leaves it as it was. -/
def Casing.after (casing : Casing) (c : Char) : Casing :=
  if isLowercase c then .lower else if isUppercase c then .upper else casing

/-- Splits a run of letters and digits into words. `word` holds the word begun so far, last
letter first. A boundary lies between lower and upper case, and before an upper case letter that
stands between upper and lower case. -/
def splitRun (word : List Char) (casing : Casing) : List Char → List (List Char)
  | [] => []
  | [c] => [(c :: word).reverse]
  | c :: next :: rest =>
      if casing.after c = .lower ∧ isUppercase next then
        (c :: word).reverse :: splitRun [] .none (next :: rest)
      else if casing = .upper ∧ isUppercase c ∧ isLowercase next then
        word.reverse :: splitRun [c] .none (next :: rest)
      else splitRun (c :: word) (casing.after c) (next :: rest)

/-- The maximal runs of letters and digits, empty runs included. -/
def runs (run : List Char) : List Char → List (List Char)
  | [] => [run.reverse]
  | c :: rest => if isAlphanumeric c then runs (c :: run) rest else run.reverse :: runs [] rest

/-- Lower case, where a sigma at the end of the word takes its final form. -/
def lowercaseWord : List Char → List Char
  | [] => []
  | ['Σ'] => ['ς']
  | c :: rest => toLowercase c ++ lowercaseWord rest

def words (name : List Char) : List (List Char) :=
  (runs [] name).flatMap (splitRun [] .none)

end SnakeCase

def snakeCase (name : String) : String :=
  String.intercalate "_"
    ((SnakeCase.words name.toList).map fun word => String.ofList (SnakeCase.lowercaseWord word))

end StorageMapping.Text
