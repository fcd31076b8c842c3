import StorageMapping.Text.Letters

namespace StorageMapping.Text

/-! Module paths written as text: segments separated by double colons. -/

/-- Splits at each double colon, leftmost first. -/
def splitAtColons (segment : List Char) : List Char → List (List Char)
  | ':' :: ':' :: rest => segment.reverse :: splitAtColons [] rest
  | c :: rest => splitAtColons (c :: segment) rest
  | [] => [segment.reverse]

def trim (text : List Char) : List Char :=
  ((text.dropWhile isSpace).reverse.dropWhile isSpace).reverse

/-- The trimmed segments of a module path; empty segments are dropped. -/
def moduleSegments (path : String) : List String :=
  (((splitAtColons [] path.toList).map trim).filter (!·.isEmpty)).map String.ofList

/-- A name below a module, or the bare name where there is no module. -/
def qualify (modulePath : List String) (name : String) : String :=
  if modulePath.isEmpty then name else String.intercalate "::" modulePath ++ "::" ++ name

end StorageMapping.Text
