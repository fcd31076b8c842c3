import StorageMapping.Run

namespace StorageMapping.CommandLine

/-! Files as a run finds them: texts in directories below the one where it starts. -/

namespace Path

/-- The parts of a path between its slashes. -/
def parts (path : String) : List String := path.splitOn "/"

/-- The extension of the last part that names something: what stands behind its last point, unless
that point is its first character. -/
def extension? (path : String) : Option String :=
  match ((parts path).filter fun part => !part.isEmpty && part ≠ ".").getLast? with
  | none => none
  | some ".." => none
  | some name =>
      match name.splitOn "." with
      | [_] => none
      | ["", _] => none
      | pieces => pieces.getLast?

/-- The path of a file in a directory. -/
def inside (directory file : String) : String :=
  if directory.endsWith "/" then directory ++ file else directory ++ "/" ++ file

end Path

/-- Texts under their paths; a path is a list of names. Directories may be empty. -/
structure Files where
  texts : List (List String × String)
  directories : List (List String)
deriving Repr

namespace Files

/-- Files under the paths that they are given by. -/
def ofTexts (texts : List (String × String)) : Files :=
  ⟨texts.map fun (path, text) => ((Path.parts path).filter (!·.isEmpty), text), []⟩

def text? (files : Files) (path : List String) : Option String :=
  (files.texts.find? (·.1 == path)).map (·.2)

/-- Is the path a directory, or would it be one if its files were created? -/
def isDirectory (files : Files) (path : List String) : Bool :=
  path.isEmpty || files.directories.any path.isPrefixOf
    || files.texts.any fun (file, _) => path.isPrefixOf file && path ≠ file

/-- Follows a path from a directory. Two points lead back; what lies above the first directory is
not known. -/
def resolve (files : Files) : List String → List String → Except ReadFault (List String)
  | current, [] => return current
  | current, part :: rest =>
      if (files.text? current).isSome then throw .notADirectory
      else if !files.isDirectory current then throw .missing
      else if part.isEmpty || part = "." then resolve files current rest
      else if part = ".." then
        if current.isEmpty then throw .missing else resolve files current.dropLast rest
      else resolve files (current ++ [part]) rest

/-- The text of a file. -/
def read (files : Files) (path : String) : Except ReadFault String := do
  if path.startsWith "/" then throw .missing
  let found ← files.resolve [] (Path.parts path)
  match files.text? found with
  | some text => return text
  | none => if files.isDirectory found then throw .isDirectory else throw .missing

/-- Creates the directories of a path. It fails where a file stands in the way. -/
def createDirectories (files : Files) : List String → List String → Option (Files × List String)
  | current, [] => some (files, current)
  | current, part :: rest =>
      if part.isEmpty || part = "." then createDirectories files current rest
      else if part = ".." then createDirectories files current.dropLast rest
      else
        let next := current ++ [part]
        if (files.text? next).isSome then none
        else
          createDirectories { files with directories := next :: files.directories } next rest

/-- Writes a text, unless a directory has the name or the name is too long. -/
def write (files : Files) (path : List String) (text : String) : Option Files :=
  if files.isDirectory path || path.any fun name => 255 < name.utf8ByteSize then none
  else
    some { files with texts := files.texts.filter (·.1 != path) ++ [(path, text)] }

end Files

end StorageMapping.CommandLine
