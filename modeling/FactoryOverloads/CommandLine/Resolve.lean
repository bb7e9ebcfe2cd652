import FactoryOverloads.CommandLine
import FactoryOverloads.CommandLine.Error
import FactoryOverloads.Log
import FactoryOverloads.Settings.File

/-!
# Resolving settings

The settings of a command are decided key by key: an option counts before the settings file, and the
file before the default. The file is the one the options name, or else the one of the usual name in
the present directory, if there is one.
-/

namespace FactoryOverloads.CommandLine

namespace GeneratorOptions

/-- The keys that the options state. -/
def layer (options : GeneratorOptions) : Settings.Layer where
  minArity := options.minArity
  maxArity := options.maxArity
  output := options.output
  target := options.target

/-- The path of the settings file that is used, and what is reported about that. A file that was
asked for has to be there. -/
def settingsFile (options : GeneratorOptions) (tree : FileTree) :
    Except CommandError (Option String × List Record) :=
  match options.config with
  | some path =>
    if tree.contains path then .ok (some path, []) else .error (.settingsMissing path)
  | none =>
    if tree.contains Settings.fileName then
      .ok (some Settings.fileName, [.settingsFile Settings.fileName])
    else .ok (none, [])

/-- The keys that a settings file states, if one is used. -/
def fileLayer (tree : FileTree) : Option String → Except CommandError Settings.Layer
  | none => .ok .empty
  | some path => (Settings.Layer.ofFile tree path).mapError (.settings path)

/-- The settings, and what is reported on the way to them. -/
def resolve (options : GeneratorOptions) (tree : FileTree) :
    Except CommandError Settings × List Record :=
  match options.settingsFile tree with
  | .error cause => (.error cause, [])
  | .ok (path, records) =>
    ((fileLayer tree path).map fun layer =>
      (Settings.default.overlay layer).overlay options.layer, records)

end GeneratorOptions

end FactoryOverloads.CommandLine
