import FactoryOverloads.Environment
import FactoryOverloads.Target

/-!
# Command lines

What can be asked for on the command line: a command with its options. This module holds the
requests themselves; `CommandLine.parse` in another module reads them from arguments.
-/

namespace FactoryOverloads.CommandLine

/-- What selects the artifact and its destination. -/
structure GeneratorOptions where
  /-- The path of the settings file. -/
  config : Option String
  output : Option String
  maxArity : Option Nat
  minArity : Option Nat
  target : Option Target
  deriving DecidableEq, Repr

/-- The form of a listing of plans. -/
inductive ListingFormat where
  | text
  | json
  deriving DecidableEq, Repr

/-- A shell that completion scripts are made for. -/
inductive Shell where
  | bash
  | zsh
  | fish
  | powershell
  | elvish
  deriving DecidableEq, Repr

/-- The shell of a name. -/
def Shell.ofName? : String → Option Shell
  | "bash" => some .bash
  | "zsh" => some .zsh
  | "fish" => some .fish
  | "powershell" => some .powershell
  | "elvish" => some .elvish
  | _ => none

/-- The form of a name. -/
def ListingFormat.ofName? : String → Option ListingFormat
  | "text" => some .text
  | "json" => some .json
  | _ => none

/-- What is to be done. -/
inductive Command where
  /-- Generate the artifact. -/
  | generate (options : GeneratorOptions) (isDryRun isVerbose isQuiet : Bool)
  /-- Compare the artifact with what would be generated. -/
  | check (options : GeneratorOptions) (isQuiet : Bool)
  /-- List the plans of an arity. -/
  | plan (arity : Nat) (format : ListingFormat)
  /-- Print a completion script. -/
  | completions (shell : Shell)
  deriving DecidableEq, Repr

/-- Whether only failures are to be told. -/
def Command.isQuiet : Command → Bool
  | .generate _ _ _ isQuiet => isQuiet
  | .check _ isQuiet => isQuiet
  | .plan _ _ => false
  | .completions _ => false

/-- A request. -/
structure Invocation where
  command : Command
  /-- The wish about colours. -/
  color : String
  /-- The specification of what is logged. -/
  logLevel : String
  deriving DecidableEq, Repr

/-- The specification of what is logged. A quiet command logs warnings only. -/
def Invocation.logSpecification (invocation : Invocation) : String :=
  if invocation.command.isQuiet then "warn" else invocation.logLevel

/-- Why a command line holds no request. -/
inductive Halt where
  /-- Help is asked for. -/
  | help
  /-- The version is asked for. -/
  | version
  /-- The command line is not one of those the program understands. -/
  | usage
  deriving DecidableEq, Repr

/-- The exit code of a command line without a request. -/
def Halt.exitCode : Halt → Nat
  | .help => 0
  | .version => 0
  | .usage => 2

end FactoryOverloads.CommandLine
