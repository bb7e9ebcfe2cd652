import FactoryOverloads.FileTree

/-!
# Editing file trees

Making files and directories, removing files, and protecting directories, each by path. `listing`
reads the part of a tree below its base.
-/

namespace FactoryOverloads.FileTree

/-- The tree with one more directory on the way, and the location that the name leads to. -/
def enter (state : FileTree × Location) (name : String) : Except OsError (FileTree × Location) :=
  let (tree, location) := state
  match tree.step location name with
  | .ok next => .ok (tree, next)
  | .error .noEntry => .ok (tree.set (location ++ [name]) (.directory false), location ++ [name])
  | .error cause => .error cause

/-- The tree with a directory at a path, and with all directories before it. -/
def makeDirectories (tree : FileTree) (path : String) : Except OsError FileTree := do
  checkPath path
  let (tree, location) ← (steps path).foldlM enter (tree, tree.start path)
  if !tree.isDirectoryAt location then throw .notDirectory
  return tree

/-- The tree with a file at a path. -/
def writeFile (tree : FileTree) (path : String) (content : ByteArray) : Except OsError FileTree := do
  let location ← tree.locateNew path
  if endsInSlash path || tree.isDirectoryAt location then throw .isDirectory
  return tree.set location (.file content)

/-- The tree without the file at a path. -/
def removeFile (tree : FileTree) (path : String) : Except OsError FileTree := do
  let location ← tree.locate path
  if tree.isDirectoryAt location then throw .isDirectory
  return tree.erase location

/-- The tree with the directory at a path protected. A file stays what it is. -/
def protect (tree : FileTree) (path : String) : Except OsError FileTree := do
  let location ← tree.locate path
  if tree.isDirectoryAt location then return tree.set location (.directory true)
  return tree

/-- The path from the base to a location, if the location lies below the base. -/
def relativePath? (tree : FileTree) (location : Location) : Option String :=
  if tree.base.isPrefixOf location && tree.base.length < location.length then
    some ("/".intercalate (location.drop tree.base.length))
  else none

/-- The entries below the base with their paths from there. -/
def listing (tree : FileTree) : List (String × Entry) :=
  tree.entries.filterMap fun (location, entry) =>
    (tree.relativePath? location).map fun path => (path, entry)

end FactoryOverloads.FileTree
