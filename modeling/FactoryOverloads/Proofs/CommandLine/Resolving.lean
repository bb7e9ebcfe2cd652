import FactoryOverloads.CommandLine.Resolve
import FactoryOverloads.Proofs.FileTree.Walking

/-!
# What settings depend on

The settings of a command are read from its options and from one file of the tree
at most, which is looked for at one path (`GeneratorOptions.settingsPath`). A
file that is put elsewhere leaves them as they are (`resolve_set_file`).
-/

namespace FactoryOverloads

variable {tree : FileTree} {location : Location} {content : ByteArray} {path : String}

/-- What a path names that leads to something, and not to the file, is what it
named before. -/
theorem FileTree.inspect_set_file (clear : tree.isDirectoryAt location = false)
    (apart : (tree.set location (.file content)).locate path ≠ .ok location)
    (there : tree.contains path = true) :
    (tree.set location (.file content)).inspect path = tree.inspect path := by
  obtain ⟨entry, found⟩ := FileTree.contains_iff.mp there
  rw [found, FileTree.inspect_set_file_iff clear apart, found]

theorem Settings.Layer.ofFile_congr {after : FileTree}
    (h : after.inspect path = tree.inspect path) : ofFile after path = ofFile tree path := by
  simp only [ofFile, FileTree.readText, FileTree.read, h]

namespace CommandLine.GeneratorOptions

/-- The path of the settings file that is looked for. -/
def settingsPath (options : GeneratorOptions) : String := options.config.getD Settings.fileName

/-- The settings of options do not depend on a file that lies elsewhere than the
settings file. -/
theorem resolve_set_file (clear : tree.isDirectoryAt location = false)
    (options : GeneratorOptions)
    (apart : (tree.set location (.file content)).locate options.settingsPath ≠ .ok location) :
    options.resolve (tree.set location (.file content)) = options.resolve tree := by
  have contains := FileTree.contains_set_file clear apart
  have layer (there : tree.contains options.settingsPath = true) :
      fileLayer (tree.set location (.file content)) (some options.settingsPath) =
        fileLayer tree (some options.settingsPath) := by
    rw [fileLayer, fileLayer,
      Settings.Layer.ofFile_congr (FileTree.inspect_set_file clear apart there)]
  unfold resolve settingsFile
  unfold settingsPath at contains layer
  cases named : options.config with
  | some path =>
    rw [named, Option.getD_some] at contains layer
    dsimp only
    rw [contains]
    cases there : tree.contains path with
    | true => simp only [if_true, layer there]
    | false => rfl
  | none =>
    rw [named, Option.getD_none] at contains layer
    dsimp only
    rw [contains]
    cases there : tree.contains Settings.fileName with
    | true => simp only [if_true, layer there]
    | false => rfl

end CommandLine.GeneratorOptions

end FactoryOverloads
