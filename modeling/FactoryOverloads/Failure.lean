import FactoryOverloads.Failure.Cause
import FactoryOverloads.Settings.Decode
import FactoryOverloads.Yaml.Problem

/-!
# Failures of a run

The causes for which a run fails, one constructor each, grouped by what was attempted. Their texts
are in `Failure.message`; the functions `Failure.configurationText` and so on are the frames of
those texts.
-/

namespace FactoryOverloads

/-- Why settings cannot be used. -/
inductive SettingsError where
  | noArity
  /-- An arity alone would give too many overloads. -/
  | arityTooLarge (maxArity overloads : Nat)
  | reversedBounds (minArity maxArity : Nat)
  | destinationIsDirectory (path : String)
  | directoryInaccessible (directory : String) (cause : OsError)
  | notDirectory (path : String)
  | directoryReadOnly (directory : String)
  | unreadableFile (path : String) (cause : OsError)
  | invalidFile (cause : Settings.DecodeError)

namespace SettingsError

/-- What is wrong. -/
def message : SettingsError → String
  | .noArity => "max_arity must be at least 1"
  | .arityTooLarge maxArity _ =>
    s!"max_arity {maxArity} exceeds the supported maximum of {Settings.maxSupportedArity}"
  | .reversedBounds minArity maxArity =>
    s!"min_arity {minArity} is greater than max_arity {maxArity}"
  | .destinationIsDirectory path => "Destination '" ++ path ++ "' is a directory"
  | .directoryInaccessible directory cause =>
    "Destination directory '" ++ directory ++ "' is not accessible: " ++ cause.message
  | .notDirectory path => "'" ++ path ++ "' is not a directory"
  | .directoryReadOnly directory => "Destination directory '" ++ directory ++ "' is read-only"
  | .unreadableFile path cause =>
    "Failed to read config file '" ++ path ++ "': " ++ cause.message
  | .invalidFile cause => "Invalid configuration: " ++ cause.message

/-- What may help. -/
def hint? : SettingsError → Option String
  | .noArity => some "Use min_arity: 0 to add a parameterless factory"
  | .arityTooLarge maxArity overloads =>
    some s!"Arity {maxArity} alone would emit {overloads} overloads"
  | .destinationIsDirectory _ => some "Pass the path of the file to generate"
  | .directoryInaccessible _ _ => some "Create the directory or choose another --output"
  | .invalidFile _ => some "Supported keys are min_arity, max_arity, output and target"
  | _ => none

end SettingsError

/-- Why an artifact cannot be written. -/
inductive WriteError where
  /-- No temporary file could be created in a directory; `path` is its full path. -/
  | temporary (directory path : String) (cause : OsError)
  /-- The content could not be written to the temporary file. -/
  | content (cause : OsError)
  /-- The content could not be brought onto the medium. -/
  | sync (cause : OsError)
  /-- The size of the temporary file could not be read. -/
  | size (cause : OsError)
  /-- The temporary file could not take the place of the destination. -/
  | replace (cause : OsError)

/-- What went wrong in writing. -/
def WriteError.message : WriteError → String
  | .temporary directory path cause =>
    "Failed to create temporary file in '" ++ directory ++ "': " ++ cause.message ++
      " at path " ++ Text.quoted path
  | .content cause => "Failed to write artifact content: " ++ cause.message
  | .sync cause => "Failed to sync artifact content: " ++ cause.message
  | .size cause => "Failed to read artifact size: " ++ cause.message
  | .replace cause => "Failed to replace destination: " ++ cause.message

/-- Why a template cannot be filled. -/
inductive TemplateError where
  /-- A placeholder has no binding. -/
  | unbound (name : String)
  /-- An engine gives up, for a reason of its own. -/
  | engine (message : String) (name : Option String)

namespace TemplateError

/-- What went wrong in filling a template. -/
def message : TemplateError → String
  | .unbound _ => "Template refers to an unbound placeholder"
  | .engine message _ => message

/-- The placeholder concerned. -/
def name? : TemplateError → Option String
  | .unbound name => some name
  | .engine _ name => name

end TemplateError

/-- Why a run fails. -/
inductive Failure where
  | settings (cause : SettingsError)
  /-- Two overloads of an arity share a key; both are named by the text of their partition. -/
  | collision (arity : Nat) (first second key : String)
  | write (path : String) (cause : WriteError)
  | template (cause : TemplateError)
  /-- A destination took only part of what was written to it. -/
  | shortWrite
  | yaml (cause : Yaml.Problem)
  /-- An operation was used outside its domain. -/
  | defect (cause : Defect)

namespace Failure

/-- The text of a failure that settings cause. -/
def configurationText (message : String) (hint : Option String) : String :=
  "Configuration error: " ++ message ++ (hint.map ("\n  hint: " ++ ·)).getD ""

/-- The text of a failure that two overloads with one key cause. -/
def collisionText (arity : Nat) (first second key : String) : String :=
  "Signature collision at arity " ++ toString arity ++ ": partitions " ++ first ++ " and " ++
    second ++ " share key " ++ key

/-- The text of a failure in writing to a path. -/
def writeText (path message : String) : String :=
  "Failed to write artifact '" ++ path ++ "': " ++ message

/-- The text of a failure in filling a template. -/
def templateText (message : String) (name : Option String) : String :=
  "Template processing error: " ++ message ++ (name.map (" (variable: " ++ · ++ ")")).getD ""

/-- The text of a failure of input or output. -/
def ioText (message : String) : String := "I/O error: " ++ message

/-- The text of a failure. -/
def message : Failure → String
  | .settings cause => configurationText cause.message cause.hint?
  | .collision arity first second key => collisionText arity first second key
  | .write path cause => writeText path cause.message
  | .template cause => templateText cause.message cause.name?
  | .shortWrite => ioText "failed to write whole buffer"
  | .yaml cause => "YAML parsing error: " ++ cause.message
  | .defect cause => cause.message

end Failure

end FactoryOverloads
