import FactoryOverloads.Text

/-!
# Paths

A path is a text; a slash separates its segments. Empty segments, and single points except at the
very beginning, name nothing (`Path.components`), so that many texts name the same place.

- `Path.parent?`, `Path.fileName?` and `Path.extension?` take a path apart, keeping the text of what
  they return.
- `Path.join` puts a directory before a path; `Path.directory` is the directory a file lies in.
-/

namespace FactoryOverloads.Path

/-- Whether a path begins at the root. -/
def isAbsolute (path : String) : Bool := path.toList.head? == some '/'

/-- The pieces of a path between slashes. -/
def segments (path : String) : List String := Text.split '/' path

/-- A step of a path. -/
inductive Component where
  | root
  | here
  | above
  | name (text : String)
  deriving DecidableEq, Repr

/-- The component of a segment that is not the first. -/
def Component.ofSegment? (segment : String) : Option Component :=
  if segment = "" || segment = "." then none
  else if segment = ".." then some .above
  else some (.name segment)

/-- The components of a path. A single point counts only at the beginning of a relative path. -/
def components (path : String) : List Component :=
  let steps := (segments path).filterMap Component.ofSegment?
  if isAbsolute path then .root :: steps
  else if (segments path).head? = some "." then .here :: steps
  else steps

/-- Segments, last one first, without those at the end that name nothing. -/
def trimmed : List String → List String
  | [] => []
  | segment :: before =>
    if segment = "" || (segment = "." && !before.isEmpty) then trimmed before
    else segment :: before

/-- The text of segments, last one first. -/
def spelled (isAbsolute : Bool) (segments : List String) : String :=
  let text := String.intercalate "/" segments.reverse
  if isAbsolute && text.isEmpty then "/" else text

/-- The path without its last component; absent if there is none to leave out. -/
def parent? (path : String) : Option String :=
  match trimmed (segments path).reverse with
  | [] => none
  | _ :: before => some (spelled (isAbsolute path) (trimmed before))

/-- The last component, if it is a name. -/
def fileName? (path : String) : Option String :=
  match trimmed (segments path).reverse with
  | [] => none
  | segment :: _ => if segment = "." || segment = ".." then none else some segment

/-- What follows the last point of the file name, unless that point begins the name. -/
def extension? (path : String) : Option String :=
  (fileName? path).bind fun name =>
    let characters := name.toList
    let after := (characters.reverse.takeWhile (· != '.')).reverse
    let before := characters.take (characters.length - after.length - 1)
    if after.length < characters.length && !before.isEmpty then some (String.ofList after) else none

/-- A path seen from a directory. An absolute path stays what it is. -/
def join (directory path : String) : String :=
  if isAbsolute path then path
  else if directory.isEmpty || directory.toList.getLast? == some '/' then directory ++ path
  else directory ++ "/" ++ path

/-- The directory a file lies in, the present one for a bare name. -/
def directory (path : String) : String :=
  match parent? path with
  | some parent => if parent.isEmpty then "." else parent
  | none => "."

end FactoryOverloads.Path
