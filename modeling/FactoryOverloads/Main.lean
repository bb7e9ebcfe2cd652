import FactoryOverloads.Program

/-!
# Running the program on a machine

The outer layer: it looks at the files a request concerns, runs the request on the tree they make,
and brings the files that are new in the tree that is left back to the disk, each through a
temporary file. Whether a directory is protected shows only when a file is written to it.
-/

namespace FactoryOverloads.Machine

open CommandLine (Invocation GeneratorOptions)

/-- The variables a run asks for. -/
def variableNames : List String :=
  ["NO_COLOR", "CLICOLOR", "CLICOLOR_FORCE", "GENMAKEIMPL_CONFIG", "GENMAKEIMPL_OUTPUT",
    "GENMAKEIMPL_MAX_ARITY"]

/-- The environment of the process. -/
def environment : IO Environment := do
  let entries ← variableNames.filterMapM fun name => do
    return (← IO.getEnv name).map fun value => (name, value)
  return ⟨entries⟩

/-- The path of a location. -/
def pathOf (location : Location) : String := "/" ++ "/".intercalate location

/-- Whether a path leads to a directory. -/
def isDirectory (path : String) : IO Bool :=
  try
    let _ ← IO.FS.realPath (path ++ "/.")
    return true
  catch _ => return false

/-- What lies at a location. -/
def entryAt (location : Location) : IO (Option Entry) := do
  if ← isDirectory (pathOf location) then return some (.directory false)
  try
    return some (.file (← IO.FS.readBinFile (pathOf location)))
  catch _ => return none

/-- The tree with the entry at a location, and whether there is one. -/
def look (tree : FileTree) (location : Location) : IO (FileTree × Bool) := do
  match ← entryAt location with
  | some entry => return (tree.set location entry, true)
  | none => return (tree, false)

/-- The tree with the entries along a path. -/
def lookAlong (tree : FileTree) (path : String) : IO FileTree := do
  let mut tree := tree
  let mut location := tree.start path
  for name in FileTree.steps path do
    if name = ".." then location := location.dropLast
    else if name ≠ "." then
      location := location ++ [name]
      let (next, found) ← look tree location
      tree := next
      if !found then return tree
  return tree

/-- The tree with nothing but the present directory. -/
def presentDirectory : IO FileTree := do
  let path := toString (← IO.FS.realPath ".")
  lookAlong ⟨[], FileTree.steps path⟩ path

/-- The tree that a request with options for the generator concerns. -/
def survey (options : GeneratorOptions) : IO FileTree := do
  let tree ← presentDirectory
  let tree ← lookAlong tree (options.config.getD Settings.fileName)
  match (options.resolve tree).1 with
  | .ok settings => lookAlong tree settings.output
  | .error _ => return tree

/-- The tree that a request concerns. -/
def surveyRequest (invocation : Invocation) : IO FileTree :=
  match invocation.command with
  | .generate options _ _ _ => survey options
  | .check options _ => survey options
  | .plan _ _ => return ⟨[], []⟩
  | .completions _ => return ⟨[], []⟩

/-- Bring the files that are new in a tree to the disk. -/
def store (before after : FileTree) : IO Unit := do
  for (location, entry) in after.entries do
    if before.entryAt? location ≠ some entry then
      if let .file content := entry then
        let temporary := pathOf (location.dropLast ++ [after.temporaryName])
        IO.FS.writeBinFile temporary content
        IO.FS.rename temporary (pathOf location)

/-- Seconds with two decimal places. -/
def seconds (milliseconds : Nat) : String :=
  let hundredths := milliseconds / 10
  s!"{hundredths / 100}." ++ toString (hundredths / 10 % 10) ++ toString (hundredths % 10)

/-- The library that the program is run with: it has no more of a manual than one line. -/
def library : Program.Library :=
  let line := "Usage: genmakeimpl [OPTIONS] <COMMAND>\n"
  { Program.Library.plain with
    help := fun _ => line
    usage := fun _ => line }

/-- Write what a run leaves to the standard streams. -/
def finish (result : Program.Result) : IO UInt32 := do
  IO.print result.output
  IO.eprint result.errors
  return UInt32.ofNat result.exitCode

/-- Run a request. -/
def perform (environment : Environment) (invocation : Invocation) : IO UInt32 := do
  let started ← IO.monoMsNow
  let tree ← surveyRequest invocation
  let transcript ← IO.lazyPure fun _ => CommandLine.run tree invocation.command
  store tree transcript.tree
  let elapsed := seconds ((← IO.monoMsNow) - started)
  finish (Program.present library environment invocation elapsed transcript)

end FactoryOverloads.Machine

open FactoryOverloads in
/-- Run the program with arguments. -/
def main (arguments : List String) : IO UInt32 := do
  let environment ← Machine.environment
  match CommandLine.parse environment arguments with
  | .error halt => Machine.finish (Program.halted Machine.library arguments ⟨[], []⟩ halt)
  | .ok invocation => Machine.perform environment invocation
