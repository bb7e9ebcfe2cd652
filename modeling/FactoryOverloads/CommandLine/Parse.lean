import FactoryOverloads.CommandLine

/-!
# Reading command lines

Arguments are read from left to right, first those before the command and then its own. What decides
first ends the reading: a question for help before it ends well, a mistake before it does not.

An option with a value takes what is behind an equals sign, or behind its letter, or else the next
argument. Behind two dashes, arguments are no options any more. Some options can be given by
environment variables, which count only where the option is absent.

- `CommandLine.scan` reads the arguments of one level.
- `CommandLine.parse` reads a whole command line.
-/

namespace FactoryOverloads.CommandLine

attribute [local instance (high)] instPowNat

/-- An option. -/
inductive OptionName where
  | color
  | logLevel
  | help
  | version
  | config
  | output
  | maxArity
  | minArity
  | target
  | dryRun
  | verbose
  | quiet
  | format
  deriving DecidableEq, Repr

namespace OptionName

/-- The name behind two dashes. -/
def long : OptionName → String
  | .color => "color"
  | .logLevel => "log-level"
  | .help => "help"
  | .version => "version"
  | .config => "config"
  | .output => "output"
  | .maxArity => "max-arity"
  | .minArity => "min-arity"
  | .target => "target"
  | .dryRun => "dry-run"
  | .verbose => "verbose"
  | .quiet => "quiet"
  | .format => "format"

/-- The letter behind one dash. -/
def short? : OptionName → Option Char
  | .help => some 'h'
  | .version => some 'V'
  | .output => some 'o'
  | .dryRun => some 'n'
  | .verbose => some 'v'
  | .quiet => some 'q'
  | _ => none

/-- Whether the option has a value. -/
def takesValue : OptionName → Bool
  | .color | .logLevel | .config | .output | .maxArity | .minArity | .target | .format => true
  | .help | .version | .dryRun | .verbose | .quiet => false

/-- What a question ends the reading with. -/
def halt? : OptionName → Option Halt
  | .help => some .help
  | .version => some .version
  | _ => none

/-- The environment variable that can stand for the option. -/
def variableName? : OptionName → Option String
  | .config => some "GENMAKEIMPL_CONFIG"
  | .output => some "GENMAKEIMPL_OUTPUT"
  | .maxArity => some "GENMAKEIMPL_MAX_ARITY"
  | _ => none

end OptionName

/-- The number that decimal digits spell, after a plus sign if there is one. It has to fit a word of
64 bits. -/
def parseNumber? (text : String) : Option Nat :=
  let digits :=
    match text.toList with
    | '+' :: rest => rest
    | characters => characters
  if digits.isEmpty || !digits.all Char.isDigit then none
  else
    let number := digits.foldl (fun number digit => 10 * number + (digit.toNat - '0'.toNat)) 0
    if number < 2 ^ (64 : Nat) then some number else none

/-- Whether an option can have a value. -/
def OptionName.accepts (value : String) : OptionName → Bool
  | .config | .output => !value.isEmpty
  | .maxArity | .minArity => (parseNumber? value).isSome
  | .target => (Target.ofName? value).isSome
  | .format => (ListingFormat.ofName? value).isSome
  | _ => true

/-- A command. -/
inductive CommandName where
  | generate
  | check
  | plan
  | completions
  deriving DecidableEq, Repr

namespace CommandName

/-- The command of a name. -/
def ofName? : String → Option CommandName
  | "generate" => some .generate
  | "check" => some .check
  | "plan" => some .plan
  | "completions" => some .completions
  | _ => none

/-- The options that select an artifact. -/
def generatorOptions : List OptionName := [.config, .output, .maxArity, .minArity, .target]

/-- The options that are understood before any command. -/
def sharedOptions : List OptionName := [.color, .logLevel, .help]

/-- The options of a command. -/
def options : CommandName → List OptionName
  | .generate => sharedOptions ++ generatorOptions ++ [.dryRun, .verbose, .quiet]
  | .check => sharedOptions ++ generatorOptions ++ [.quiet]
  | .plan => sharedOptions ++ [.format]
  | .completions => sharedOptions

/-- Whether a command takes one argument that is no option, and which ones. -/
def takesArgument (argument : String) : CommandName → Bool
  | .plan => (parseNumber? argument).isSome
  | .completions => (Shell.ofName? argument).isSome
  | .generate | .check => false

end CommandName

/-- What has been read at one level: options with their values, and the argument that is no
option. -/
structure Reading where
  options : List (OptionName × String)
  argument : Option String
  deriving DecidableEq, Repr

namespace Reading

/-- The reading with nothing read. -/
def empty : Reading := ⟨[], none⟩

/-- The value of an option. -/
def value? (reading : Reading) (option : OptionName) : Option String :=
  reading.options.lookup option

/-- Whether an option has been given. -/
def has (reading : Reading) (option : OptionName) : Bool := (reading.value? option).isSome

/-- The reading with an option, which must not have been given before. -/
def add (reading : Reading) (option : OptionName) (value : String) : Except Halt Reading :=
  if reading.has option || !option.accepts value then .error .usage
  else .ok { reading with options := reading.options ++ [(option, value)] }

end Reading

/-- What an argument that is one or more options comes to: a reading, and an option that still needs
its value. -/
abbrev Progress := Except Halt (Reading × Option OptionName)

/-- Read the option of a name, with the value behind the equals sign. -/
def readLong (options : List OptionName) (reading : Reading) (name : String)
    (value : Option String) : Progress :=
  match options.find? fun option => option.long == name, value with
  | none, _ => .error .usage
  | some option, some value =>
    if option.takesValue then (·, none) <$> reading.add option value else .error .usage
  | some option, none =>
    match option.halt? with
    | some halt => .error halt
    | none =>
      if option.takesValue then .ok (reading, some option) else (·, none) <$> reading.add option ""

/-- Read options by their letters. -/
def readShort (options : List OptionName) (reading : Reading) : List Char → Progress
  | [] => .ok (reading, none)
  | letter :: rest =>
    match options.find? fun option => option.short? == some letter with
    | none => .error .usage
    | some option =>
      match option.halt? with
      | some halt => .error halt
      | none =>
        if option.takesValue then
          match rest with
          | [] => .ok (reading, some option)
          | '=' :: value => (·, none) <$> reading.add option (String.ofList value)
          | value => (·, none) <$> reading.add option (String.ofList value)
        else
          match reading.add option "" with
          | .error halt => .error halt
          | .ok reading => readShort options reading rest

/-- An argument that begins like options. -/
inductive Dashed where
  /-- Two dashes alone. -/
  | separator
  | long (name : String) (value : Option String)
  | short (letters : List Char)
  deriving DecidableEq, Repr

/-- What an argument is that begins with a dash. A dash alone is an ordinary argument. -/
def Dashed.ofArgument? (argument : String) : Option Dashed :=
  match argument.toList with
  | ['-', '-'] => some .separator
  | '-' :: '-' :: text =>
    let name := text.takeWhile (· != '=')
    let value := if name.length < text.length then some (text.drop (name.length + 1)) else none
    some (.long (String.ofList name) (value.map String.ofList))
  | '-' :: letter :: letters => some (.short (letter :: letters))
  | _ => none

/-- Read an argument that is no option. -/
def readArgument (command : Option CommandName) (reading : Reading) (argument : String) :
    Except Halt Reading :=
  match command with
  | none => .error .usage
  | some command =>
    if reading.argument.isNone && command.takesArgument argument then
      .ok { reading with argument := some argument }
    else .error .usage

/-- The options that are understood at a level: those of a command, or those before it. -/
def levelOptions : Option CommandName → List OptionName
  | none => CommandName.sharedOptions ++ [.version]
  | some command => command.options

/-- What the arguments behind the command `help` come to. -/
def haltForHelp : List String → Halt
  | [] => .help
  | [name] => if name = "help" || (CommandName.ofName? name).isSome then .help else .usage
  | _ => .usage

/-- What the arguments of one level come to: what was read, and the command that ends the level with
the arguments behind it. -/
abbrev Scanned := Except Halt (Reading × Option (CommandName × List String))

/-- Read the arguments of a level. `pending` is an option that needs the next argument as its value,
and `isTrailing` holds behind two dashes. -/
def scan (command : Option CommandName) (reading : Reading) (pending : Option OptionName)
    (isTrailing : Bool) : List String → Scanned
  | [] => if pending.isSome then .error .usage else .ok (reading, none)
  | argument :: rest =>
    if isTrailing then
      match readArgument command reading argument with
      | .error halt => .error halt
      | .ok reading => scan command reading none true rest
    else
      match pending, Dashed.ofArgument? argument with
      | some _, some _ => .error .usage
      | some option, none =>
        match reading.add option argument with
        | .error halt => .error halt
        | .ok reading => scan command reading none false rest
      | none, some .separator => scan command reading none true rest
      | none, some (.long name value) =>
        match readLong (levelOptions command) reading name value with
        | .error halt => .error halt
        | .ok (reading, pending) => scan command reading pending false rest
      | none, some (.short letters) =>
        match readShort (levelOptions command) reading letters with
        | .error halt => .error halt
        | .ok (reading, pending) => scan command reading pending false rest
      | none, none =>
        match command, CommandName.ofName? argument with
        | none, some name => .ok (reading, some (name, rest))
        | _, _ =>
          if command.isNone && argument = "help" then .error (haltForHelp rest)
          else
            match readArgument command reading argument with
            | .error halt => .error halt
            | .ok reading => scan command reading none false rest

/-- The value of an option, or that of its environment variable, which has to be a possible value
then. -/
def effectiveValue (environment : Environment) (reading : Reading) (option : OptionName) :
    Except Halt (Option String) :=
  match reading.value? option, option.variableName?.bind environment.find? with
  | some value, _ => .ok (some value)
  | none, none => .ok none
  | none, some value => if option.accepts value then .ok (some value) else .error .usage

/-- The options that select an artifact. -/
def generatorOptions (environment : Environment) (reading : Reading) :
    Except Halt GeneratorOptions := do
  let config ← effectiveValue environment reading .config
  let output ← effectiveValue environment reading .output
  let maxArity ← effectiveValue environment reading .maxArity
  return {
    config := config
    output := output
    maxArity := maxArity.bind parseNumber?
    minArity := (reading.value? .minArity).bind parseNumber?
    target := (reading.value? .target).bind Target.ofName? }

/-- The command of what was read behind its name. -/
def commandOf (environment : Environment) (reading : Reading) : CommandName → Except Halt Command
  | .generate => do
    return .generate (← generatorOptions environment reading) (reading.has .dryRun)
      (reading.has .verbose) (reading.has .quiet)
  | .check => do
    return .check (← generatorOptions environment reading) (reading.has .quiet)
  | .plan =>
    match reading.argument.bind parseNumber? with
    | some arity =>
      .ok (.plan arity (((reading.value? .format).bind ListingFormat.ofName?).getD .text))
    | none => .error .usage
  | .completions =>
    match reading.argument.bind Shell.ofName? with
    | some shell => .ok (.completions shell)
    | none => .error .usage

/-- The request of arguments. An option that is understood everywhere counts behind the command
rather than before it. -/
def parse (environment : Environment) (arguments : List String) : Except Halt Invocation := do
  let (before, command) ← scan none .empty none false arguments
  match command with
  | none => throw .usage
  | some (name, rest) =>
    let (reading, _) ← scan (some name) .empty none false rest
    let command ← commandOf environment reading name
    let shared (option : OptionName) (fallback : String) :=
      ((reading.value? option).or (before.value? option)).getD fallback
    return ⟨command, shared .color "auto", shared .logLevel "info"⟩

end FactoryOverloads.CommandLine
