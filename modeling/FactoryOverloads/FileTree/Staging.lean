import FactoryOverloads.FileTree

/-!
# Replacing files through temporary ones

A file is replaced in one step: its new content is written to a temporary file in the same
directory, which then takes the name of the old one. If any step fails, the temporary file is
removed and the tree is what it was.
-/

namespace FactoryOverloads.FileTree

/-- The names of all entries. -/
def names (tree : FileTree) : List String :=
  tree.entries.filterMap fun entry => entry.1.getLast?

/-- The name of a temporary file with a number of marks. -/
def temporaryMarks (marks : Nat) : String := ".tmp" ++ String.ofList (List.replicate marks 'X')

/-- The number of characters of the longest name. -/
def longestName (tree : FileTree) : Nat :=
  tree.names.foldl (fun longest name => max longest name.length) 0

/-- A name that no entry of the tree has, for the place of a temporary file: the usual one, or else
one that is longer than every name in the tree. -/
def temporaryName (tree : FileTree) : String :=
  if temporaryMarks 6 ∈ tree.names then temporaryMarks (tree.longestName + 1) else temporaryMarks 6

/-- The path of the base directory. -/
def basePath (tree : FileTree) : String := "/" ++ "/".intercalate tree.base

/-- The full path of a temporary file in a directory. What is drawn for the marks of its name is
not told, and all draws are equally long. -/
def temporaryPath (tree : FileTree) (directory : String) : String :=
  Path.join (Path.join tree.basePath directory) (temporaryMarks 6)

/-- The location of a temporary file in a directory. -/
def locateTemporary (tree : FileTree) (directory : String) : Except OsError Location := do
  checkPath (tree.temporaryPath directory)
  let location ← (steps directory).foldlM tree.step (tree.start directory)
  if !tree.isDirectoryAt location then throw .notDirectory
  return location ++ [tree.temporaryName]

/-- Where a file goes that takes the name at the end of a path. -/
def locateReplaced (tree : FileTree) (path : String) : Except OsError Location := do
  let location ←
    match tree.locateNew path with
    | .error .embeddedNul => throw .invalidArgument
    | .error cause => throw cause
    | .ok location => pure location
  if endsInSlash path then throw .notDirectory
  if tree.isDirectoryAt location then throw .isDirectory
  return location

/-- The tree after the file at a location has taken the name at the end of a path. -/
def rename (tree : FileTree) (source : Location) (path : String) : Except OsError FileTree := do
  let location ← tree.locateReplaced path
  match tree.entryAt? source with
  | some entry => return (tree.erase source).set location entry
  | none => throw .noEntry

end FactoryOverloads.FileTree
