import FactoryOverloads.Target

/-!
# Settings of a run

Which arities are generated, for which target, and where the artifact goes. Settings start from the
defaults; layers of keys that may be absent (`Settings.Layer`) are laid over them.
-/

namespace FactoryOverloads

/-- The settings of a run. -/
structure Settings where
  minArity : Nat
  maxArity : Nat
  /-- The path of the artifact. -/
  output : String
  target : Target
  deriving DecidableEq, Repr

/-- Some of the settings, as a file or the command line states them. -/
structure Settings.Layer where
  minArity : Option Nat
  maxArity : Option Nat
  output : Option String
  target : Option Target
  deriving DecidableEq, Repr

namespace Settings

/-- The layer that states nothing. -/
def Layer.empty : Layer := ⟨none, none, none, none⟩

/-- The largest arity that can be generated. -/
def maxSupportedArity : Nat := 20

/-- The settings when nothing is stated. -/
def default : Settings where
  minArity := 1
  maxArity := 16
  output := "src/common/utilities/config/generated_makeimpl.hpp"
  target := .cpp

/-- The name of the settings file that is used unless another one is named. -/
def fileName : String := "genmakeimpl.yaml"

/-- The settings with the keys that a layer states. -/
def overlay (settings : Settings) (layer : Layer) : Settings where
  minArity := layer.minArity.getD settings.minArity
  maxArity := layer.maxArity.getD settings.maxArity
  output := layer.output.getD settings.output
  target := layer.target.getD settings.target

/-- The arities that are generated, ascending. -/
def arities (settings : Settings) : List Nat :=
  List.range' settings.minArity (settings.maxArity + 1 - settings.minArity)

/-- Whether no arity is generated. -/
def isEmpty (settings : Settings) : Bool := settings.maxArity < settings.minArity

end Settings

end FactoryOverloads
