namespace StorageMapping

/-! Locators: where the rows of a type are stored. An empty text stands for a locator that is not
given. -/

/-- The operations that need a locator. -/
inductive Operation where
  | insert
  | update
  | delete
deriving DecidableEq, Repr

namespace Operation

def text : Operation → String
  | .insert => "insert"
  | .update => "update"
  | .delete => "delete"

end Operation

/-- One locator for every operation, locators of their own for some operations, or both. -/
structure Locators where
  common : String
  insert : String
  update : String
  delete : String
deriving DecidableEq, Repr, Inhabited

namespace Locators

def empty : Locators := ⟨"", "", "", ""⟩

/-- The locator that an operation has of its own. -/
def own (locators : Locators) : Operation → String
  | .insert => locators.insert
  | .update => locators.update
  | .delete => locators.delete

/-- The locator that serves an operation: its own one, or else the common one. -/
def resolve (locators : Locators) (operation : Operation) : String :=
  let specific := locators.own operation
  if specific.isEmpty then locators.common else specific

/-- Replaces the common locator or that of one operation. -/
def set (locators : Locators) (slot : Option Operation) (value : String) : Locators :=
  match slot with
  | none => { locators with common := value }
  | some .insert => { locators with insert := value }
  | some .update => { locators with update := value }
  | some .delete => { locators with delete := value }

end Locators

/-- The words by which a type marker names its locators. -/
structure LocatorKeys where
  common : String
  insert : Option String
  update : Option String
  delete : Option String
deriving DecidableEq, Repr

namespace LocatorKeys

/-- Every known word with the locator that it names. -/
def entries (keys : LocatorKeys) : List (String × Option Operation) :=
  (keys.common, none)
    :: (keys.insert.toList.map (·, some .insert) ++ keys.update.toList.map (·, some .update)
      ++ keys.delete.toList.map (·, some .delete))

/-- The locator that a word names. -/
def slot? (keys : LocatorKeys) (word : String) : Option (Option Operation) :=
  (keys.entries.find? (·.1 == word)).map (·.2)

def words (keys : LocatorKeys) : List String := keys.entries.map (·.1)

end LocatorKeys

end StorageMapping
