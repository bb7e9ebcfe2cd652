import FactoryOverloads.Settings
import FactoryOverloads.Text.Quoted
import FactoryOverloads.Yaml.Value

/-!
# Settings in a YAML value

`Settings.Layer.decode` reads a value as the keys of a settings file. Every key is optional, a null
counts as absent, and an unknown key is refused. Tags are passed over, except that the tag of the
target's value may name the target.
-/

namespace FactoryOverloads

namespace Settings

/-- A kind of value that a place in the settings asks for. -/
inductive Expected where
  | settings
  | key
  | arity
  | path
  | targetName
  | nothing
  deriving DecidableEq, Repr

/-- How messages name an expectation. -/
def Expected.text : Expected → String
  | .settings => "struct ConfigFile"
  | .key => "field identifier"
  | .arity => "usize"
  | .path => "path string"
  | .targetName => "a Value::Tagged enum"
  | .nothing => "unit"

/-- Why a value does not hold settings. -/
inductive DecodeError where
  /-- A value of the wrong kind. -/
  | kind (found : Yaml.Value) (expected : Expected)
  /-- A number that is out of range. -/
  | range (found : Yaml.Value) (expected : Expected)
  | unknownKey (name : String)
  | repeatedKey (name : String)
  | unknownTarget (name : String)

/-- How messages name a value. -/
def describe : Yaml.Value → String
  | .null => "unit value"
  | .bool value => "boolean `" ++ toString value ++ "`"
  | .integer value => "integer `" ++ toString value ++ "`"
  | .real value => "floating point `" ++ value.text ++ "`"
  | .string value => "string " ++ Text.quoted value
  | .sequence _ => "sequence"
  | .mapping _ => "map"
  | .tagged _ _ => "enum"

/-- The text of an error. -/
def DecodeError.message : DecodeError → String
  | .kind found expected =>
    "invalid type: " ++ describe found ++ ", expected " ++ expected.text
  | .range found expected =>
    "invalid value: " ++ describe found ++ ", expected " ++ expected.text
  | .unknownKey name =>
    "unknown field `" ++ name ++
      "`, expected one of `min_arity`, `max_arity`, `output`, `target`"
  | .repeatedKey name => "duplicate field `" ++ name ++ "`"
  | .unknownTarget name => "unknown variant `" ++ name ++ "`, expected `cpp` or `rust`"

/-- A key of the settings. -/
inductive Key where
  | minArity
  | maxArity
  | output
  | target
  deriving DecidableEq, Repr

namespace Key

/-- The keys. -/
def all : List Key := [.minArity, .maxArity, .output, .target]

/-- The name of a key. -/
def name : Key → String
  | .minArity => "min_arity"
  | .maxArity => "max_arity"
  | .output => "output"
  | .target => "target"

/-- The key of a value, which has to be a string. -/
def decode (value : Yaml.Value) : Except DecodeError Key :=
  match value.untagged with
  | .string name =>
    match all.find? fun key => key.name == name with
    | some key => .ok key
    | none => .error (.unknownKey name)
  | other => .error (.kind other .key)

end Key

/-- An arity: an integer that is not negative. -/
def decodeArity (value : Yaml.Value) : Except DecodeError Nat :=
  match value.untagged with
  | .integer n => if n < 0 then .error (.range (.integer n) .arity) else .ok n.toNat
  | other => .error (.kind other .arity)

/-- A path: a string. -/
def decodePath (value : Yaml.Value) : Except DecodeError String :=
  match value.untagged with
  | .string path => .ok path
  | other => .error (.kind other .path)

/-- The target of a name. -/
def decodeTargetName (name : String) : Except DecodeError Target :=
  match Target.ofName? name with
  | some target => .ok target
  | none => .error (.unknownTarget name)

/-- A target: a string, or a tag that names it and nothing under the tag. -/
def decodeTarget : Yaml.Value → Except DecodeError Target
  | .string name => decodeTargetName name
  | .tagged tag value => do
    let target ← decodeTargetName (Yaml.Value.tagName tag)
    match value.untagged with
    | .null => pure target
    | other => throw (.kind other .nothing)
  | other => .error (.kind other .targetName)

/-- A value that is absent if it is null. -/
def decodeOptional {α : Type} (decode : Yaml.Value → Except DecodeError α) :
    Yaml.Value → Except DecodeError (Option α)
  | .null => .ok none
  | value => some <$> decode value

namespace Layer

/-- The layer with one key more. -/
def set (layer : Layer) (key : Key) (value : Yaml.Value) : Except DecodeError Layer :=
  match key with
  | .minArity => (fun n => { layer with minArity := n }) <$> decodeOptional decodeArity value
  | .maxArity => (fun n => { layer with maxArity := n }) <$> decodeOptional decodeArity value
  | .output => (fun path => { layer with output := path }) <$> decodeOptional decodePath value
  | .target => (fun target => { layer with target := target }) <$> decodeOptional decodeTarget value

/-- The layer with the entries of a mapping, in order. `seen` holds the keys before them. -/
def setEntries (layer : Layer) (seen : List Key) :
    List (Yaml.Value × Yaml.Value) → Except DecodeError Layer
  | [] => .ok layer
  | (key, value) :: entries => do
    let key ← Key.decode key
    if key ∈ seen then throw (.repeatedKey key.name)
    let layer ← layer.set key value
    layer.setEntries (key :: seen) entries

/-- The layer of a value, which has to be a mapping. -/
def decode (value : Yaml.Value) : Except DecodeError Layer :=
  match value.untagged with
  | .mapping entries => empty.setEntries [] entries
  | other => .error (.kind other .settings)

end Layer

end Settings

end FactoryOverloads
