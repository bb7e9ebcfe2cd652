import FactoryOverloads.Failure
import FactoryOverloads.Partition.Enumeration
import FactoryOverloads.Yaml.Document

/-!
# Settings in a text

`Settings.Layer.read` reads the text of a settings file, and `Settings.validate` checks the bounds
that all layers together leave.
-/

namespace FactoryOverloads.Settings

/-- The keys that a text states. A text without content states none. -/
def Layer.read (text : String) : Except Failure Layer :=
  match Yaml.Value.read text with
  | .error problem => .error (.yaml problem)
  | .ok value =>
    if value.isNull then .ok .empty
    else
      match Layer.decode value with
      | .error cause => .error (.settings (.invalidFile cause))
      | .ok layer => .ok layer

/-- Why an arity is not supported. The number of overloads that is told is that of the largest arity
for which it can be counted, at most. -/
def arityError (maxArity : Nat) : Failure :=
  match Partition.count (min maxArity 63) with
  | .error cause => .defect cause
  | .ok overloads => .settings (.arityTooLarge maxArity overloads)

/-- Whether the bounds leave at least one arity, and none that is not supported. -/
def validate (settings : Settings) : Except Failure Unit :=
  if settings.maxArity = 0 then .error (.settings .noArity)
  else if maxSupportedArity < settings.maxArity then .error (arityError settings.maxArity)
  else if settings.maxArity < settings.minArity then
    .error (.settings (.reversedBounds settings.minArity settings.maxArity))
  else .ok ()

end FactoryOverloads.Settings
