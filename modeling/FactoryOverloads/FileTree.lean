import FactoryOverloads.Failure.Cause
import FactoryOverloads.Path

/-!
# File trees

The part of a file system that a run can see: files and directories, each at a location, which is
the list of names that leads to it from the root. Paths are texts and are walked name by name, so
that a step out of a file, into a missing entry or over a name that is too long fails where the
operating system reports it.

- `FileTree.locate` walks a path to an entry, and `FileTree.locateNew` to a place for one.
- `FileTree.read` and `FileTree.readText` read files.
- `FileTree.set` and `FileTree.erase` change the entry of one location.
-/

namespace FactoryOverloads

attribute [local instance (high)] ByteArray.instDecidableEq

/-- The names that lead to an entry from the root on. -/
abbrev Location := List String

/-- What lies at a location. -/
inductive Entry where
  | file (content : ByteArray)
  | directory (readOnly : Bool)
  deriving DecidableEq

/-- Whether an entry is a directory. -/
def Entry.isDirectory : Entry → Bool
  | .file _ => false
  | .directory _ => true

/-- Files and directories at their locations. The root is a directory and is not listed. -/
structure FileTree where
  entries : List (Location × Entry)
  /-- The directory from which relative paths lead on. -/
  base : Location
  deriving DecidableEq

namespace FileTree

/-- The longest name of an entry, in bytes. -/
def maxNameBytes : Nat := 255

/-- The number of bytes from which on a path is too long. -/
def pathLimit : Nat := 4096

/-! ## Entries -/

/-- What lies at a location. -/
def entryAt? (tree : FileTree) (location : Location) : Option Entry :=
  if location.isEmpty then some (.directory false) else tree.entries.lookup location

/-- Whether a directory lies at a location. -/
def isDirectoryAt (tree : FileTree) (location : Location) : Bool :=
  ((tree.entryAt? location).map Entry.isDirectory).getD false

/-- Entries with the one of a location replaced, or added behind them. -/
def setIn (location : Location) (entry : Entry) :
    List (Location × Entry) → List (Location × Entry)
  | [] => [(location, entry)]
  | head :: rest =>
    if head.1 = location then (location, entry) :: rest else head :: setIn location entry rest

/-- The tree with an entry at a location. -/
def set (tree : FileTree) (location : Location) (entry : Entry) : FileTree :=
  { tree with entries := setIn location entry tree.entries }

/-- The tree without the entry of a location. -/
def erase (tree : FileTree) (location : Location) : FileTree :=
  { tree with entries := tree.entries.filter fun entry => entry.1 ≠ location }

/-! ## Paths -/

/-- The names of a path. Empty ones say nothing. -/
def steps (path : String) : List String := (Path.segments path).filter fun name => !name.isEmpty

/-- Whether a path ends in a slash, which only a directory may. -/
def endsInSlash (path : String) : Bool := path.toList.getLast? == some '/'

/-- The location a path starts from. -/
def start (tree : FileTree) (path : String) : Location :=
  if Path.isAbsolute path then [] else tree.base

/-- Whether a text can be a path at all. -/
def checkPath (path : String) : Except OsError Unit :=
  if path.toList.contains '\x00' then .error .embeddedNul
  else if path.isEmpty then .error .noEntry
  else if pathLimit ≤ path.utf8ByteSize then .error .nameTooLong
  else .ok ()

/-- The location that a name leads to from another one. -/
def step (tree : FileTree) (location : Location) (name : String) : Except OsError Location :=
  if !tree.isDirectoryAt location then .error .notDirectory
  else if name = "." then .ok location
  else if name = ".." then .ok location.dropLast
  else if maxNameBytes < name.utf8ByteSize then .error .nameTooLong
  else if (tree.entryAt? (location ++ [name])).isNone then .error .noEntry
  else .ok (location ++ [name])

/-- The location of the entry that a path names. -/
def locate (tree : FileTree) (path : String) : Except OsError Location := do
  checkPath path
  let location ← (steps path).foldlM tree.step (tree.start path)
  if endsInSlash path && !tree.isDirectoryAt location then throw .notDirectory
  return location

/-- The entry that a path names. -/
def inspect (tree : FileTree) (path : String) : Except OsError Entry := do
  let location ← tree.locate path
  match tree.entryAt? location with
  | some entry => return entry
  | none => throw .noEntry

/-- Whether a path names an entry. -/
def contains (tree : FileTree) (path : String) : Bool := (tree.inspect path).isOk

/-- Whether a path names a directory. -/
def isDirectory (tree : FileTree) (path : String) : Bool :=
  match tree.inspect path with
  | .ok entry => entry.isDirectory
  | .error _ => false

/-- The location that a new name at the end of a path has. The directories before it have to be
there. -/
def locateNew (tree : FileTree) (path : String) : Except OsError Location := do
  checkPath path
  match (steps path).getLast? with
  | none => throw .busy
  | some name =>
    let directory ← (steps path).dropLast.foldlM tree.step (tree.start path)
    if !tree.isDirectoryAt directory then throw .notDirectory
    if name = "." || name = ".." then throw .busy
    if maxNameBytes < name.utf8ByteSize then throw .nameTooLong
    return directory ++ [name]

/-! ## Reading -/

/-- The content of the file that a path names. -/
def read (tree : FileTree) (path : String) : Except OsError ByteArray := do
  match ← tree.inspect path with
  | .file content => return content
  | .directory _ => throw .isDirectory

/-- The text in the file that a path names. -/
def readText (tree : FileTree) (path : String) : Except OsError String := do
  match String.fromUTF8? (← tree.read path) with
  | some text => return text
  | none => throw .invalidText

end FileTree

end FactoryOverloads
