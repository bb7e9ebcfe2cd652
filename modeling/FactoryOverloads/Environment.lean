/-!
# Environment variables

The variables a run starts with, and what they say about colours.
-/

namespace FactoryOverloads

/-- Variables and their values. The first entry of a name counts. -/
structure Environment where
  bindings : List (String × String)
  deriving DecidableEq, Repr

namespace Environment

/-- The value of a variable. -/
def find? (environment : Environment) (name : String) : Option String :=
  environment.bindings.lookup name

/-- Whether status lines are coloured when nothing else is asked for. Output does not go to a
terminal, so that only a variable can turn colours on. -/
def prefersColor (environment : Environment) : Bool :=
  if (environment.find? "NO_COLOR").isSome then false
  else if environment.find? "CLICOLOR" == some "0" then false
  else
    match environment.find? "CLICOLOR_FORCE" with
    | some value => value != "0" && !value.isEmpty
    | none => false

/-- Whether the texts of coloured status lines are styled. -/
def stylesLines (environment : Environment) : Bool :=
  match environment.find? "CLICOLOR_FORCE" with
  | some value => value != "0"
  | none => false

/-- Whether log records are styled. -/
def stylesRecords (environment : Environment) : Bool :=
  (environment.find? "NO_COLOR").getD "" == "" &&
    (environment.find? "CLICOLOR_FORCE").getD "" != ""

end Environment

end FactoryOverloads
