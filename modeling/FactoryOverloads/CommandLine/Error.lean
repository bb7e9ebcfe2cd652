import FactoryOverloads.Failure
import FactoryOverloads.Text

/-!
# Errors of commands

Why a command fails, as a chain of causes with the outermost first, and the text in which the chain
is reported.
-/

namespace FactoryOverloads

/-- The texts of a failure and of what lies beneath it. -/
def Failure.chain (failure : Failure) : List String :=
  match failure with
  | .yaml cause => [failure.message, cause.message]
  | _ => [failure.message]

namespace CommandLine

/-- Why a command fails. -/
inductive CommandError where
  /-- The settings file that was asked for is not there. -/
  | settingsMissing (path : String)
  /-- A settings file cannot be used. -/
  | settings (path : String) (cause : Failure)
  | generation (cause : Failure)
  | artifactMissing (path : String)
  | artifactUnreadable (path : String) (cause : OsError)
  /-- The artifact is not what would be generated. -/
  | artifactStale (path : String)
  /-- There are too many plans of an arity to list them. -/
  | arityTooLarge (arity : Nat)

namespace CommandError

/-- The texts of an error and of its causes, the outermost first. -/
def chain : CommandError → List String
  | .settingsMissing path => ["Configuration file not found: " ++ path]
  | .settings path cause => ("Failed to load config from " ++ path) :: cause.chain
  | .generation cause => cause.chain
  | .artifactMissing path => ["Artifact not found: " ++ path ++ " (run `genmakeimpl generate`)"]
  | .artifactUnreadable path cause => ["Failed to read artifact " ++ path, cause.message]
  | .artifactStale path => ["Artifact is stale: " ++ path ++ " (run `genmakeimpl generate`)"]
  | .arityTooLarge arity =>
    [s!"Arity {arity} exceeds the supported maximum of {Settings.maxSupportedArity}"]

/-- A text with something before its first line and something else before every further one. -/
def indented (first further text : String) : String :=
  first ++ ("\n" ++ further).intercalate (Text.split '\n' text)

/-- The number of a cause, in five columns. -/
def numbered (number : Nat) : String :=
  let digits := toString number
  String.ofList (List.replicate (5 - digits.length) ' ') ++ digits ++ ": "

/-- The causes beneath an error. Several ones are numbered. -/
def causesText : List String → String
  | [] => ""
  | [cause] => "\n\nCaused by:\n" ++ indented "    " "    " cause
  | causes =>
    "\n\nCaused by:" ++
      String.join (causes.mapIdx fun number cause => "\n" ++ indented (numbered number) "       " cause)

/-- The report of an error. -/
def report (error : CommandError) : String :=
  match error.chain with
  | [] => ""
  | text :: causes => "Error: " ++ text ++ causesText causes ++ "\n"

end CommandError

end CommandLine

end FactoryOverloads
