import FactoryOverloads.FileTree
import FactoryOverloads.Log
import FactoryOverloads.Settings.Text

/-!
# Settings in a file tree

Where settings meet files.

- `Settings.Layer.ofFile` reads a settings file. A relative destination in it is meant from the
  directory of that file, so that a run does not depend on where it was started.
- `Settings.checkDestination` looks at the destination before any work is done. It has to be a place
  where a file can be written: not a directory itself, in a directory that is there and that is not
  protected.
-/

namespace FactoryOverloads.Settings

namespace Layer

/-- The layer with its destination seen from the directory of a file. -/
def rebase (layer : Layer) (path : String) : Layer :=
  { layer with output := layer.output.map (Path.join (Path.directory path)) }

/-- The keys that the file at a path states. -/
def ofFile (tree : FileTree) (path : String) : Except Failure Layer :=
  match tree.readText path with
  | .error cause => .error (.settings (.unreadableFile path cause))
  | .ok text => (Layer.read text).map (·.rebase path)

end Layer

/-- The directory of the destination can take a file. -/
def checkDirectory (tree : FileTree) (directory : String) : Except SettingsError Unit :=
  match tree.inspect directory with
  | .error cause => .error (.directoryInaccessible directory cause)
  | .ok (.file _) => .error (.notDirectory directory)
  | .ok (.directory true) => .error (.directoryReadOnly directory)
  | .ok (.directory false) => .ok ()

/-- A warning if the name of the destination does not end as the target's files do. -/
def extensionWarning (settings : Settings) : List Record :=
  if Path.extension? settings.output = some settings.target.fileExtension then []
  else [.unusualExtension settings.output settings.target.fileExtension]

/-- Whether the artifact can be written to its destination, and what is worth a warning. -/
def checkDestination (settings : Settings) (tree : FileTree) : Except Failure (List Record) :=
  if tree.isDirectory settings.output then
    .error (.settings (.destinationIsDirectory settings.output))
  else
    match checkDirectory tree (Path.directory settings.output) with
    | .error cause => .error (.settings cause)
    | .ok () => .ok settings.extensionWarning

end FactoryOverloads.Settings
