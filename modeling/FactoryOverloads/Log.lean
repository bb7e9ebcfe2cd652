/-!
# Log records

What a run reports about its progress. A record is the event itself; its level, the part of the
program it comes from and its text follow from the event.
-/

namespace FactoryOverloads

/-- How urgent a record is. -/
inductive Level where
  | error
  | warn
  | info
  | debug
  | trace
  deriving DecidableEq, Repr

namespace Level

/-- The levels, the most urgent first. -/
def all : List Level := [.error, .warn, .info, .debug, .trace]

/-- The name of a level. -/
def name : Level → String
  | .error => "ERROR"
  | .warn => "WARN"
  | .info => "INFO"
  | .debug => "DEBUG"
  | .trace => "TRACE"

/-- The rank of a level, the lowest for the most urgent. -/
def rank : Level → Nat
  | .error => 1
  | .warn => 2
  | .info => 3
  | .debug => 4
  | .trace => 5

end Level

/-- An event of a run. -/
inductive Record where
  /-- The settings file of the present directory is used. -/
  | settingsFile (path : String)
  /-- The destination's name does not end as the target's files do. -/
  | unusualExtension (path fileExtension : String)
  /-- The keys of the plans of an arity differ from one another. -/
  | keysUnique (count : Nat)
  | arityPlanned (arity overloads : Nat)
  | planned (overloads minArity maxArity : Nat)
  /-- The artifact goes to a temporary file first. -/
  | staging (path : String)
  | wrote (bytes : Nat) (path : String)
  deriving DecidableEq, Repr

namespace Record

/-- How urgent an event is. -/
def level : Record → Level
  | .settingsFile _ => .debug
  | .unusualExtension _ _ => .warn
  | .keysUnique _ => .debug
  | .arityPlanned _ _ => .debug
  | .planned _ _ _ => .info
  | .staging _ => .debug
  | .wrote _ _ => .info

/-- The part of the program that reports an event. -/
def source : Record → String
  | .settingsFile _ => "genmakeimpl::commands"
  | .unusualExtension _ _ => "genmakeimpl::config"
  | .keysUnique _ => "genmakeimpl::phases::collision"
  | .arityPlanned _ _ => "genmakeimpl::phases::orchestrator"
  | .planned _ _ _ => "genmakeimpl::phases::orchestrator"
  | .staging _ => "genmakeimpl::phases::write"
  | .wrote _ _ => "genmakeimpl::phases::orchestrator"

/-- The text of an event. -/
def text : Record → String
  | .settingsFile path => "Using config file " ++ path
  | .unusualExtension path fileExtension =>
    "Destination '" ++ path ++ "' does not use the ." ++ fileExtension ++
      " extension expected for this target"
  | .keysUnique count => s!"{count} signature keys are unique"
  | .arityPlanned arity overloads => s!"Arity {arity}: {overloads} overloads planned"
  | .planned overloads minArity maxArity =>
    s!"Planned {overloads} overloads for arities {minArity}..={maxArity}"
  | .staging path => "Writing artifact to temporary file " ++ path
  | .wrote bytes path => s!"Wrote {bytes} bytes to " ++ path

end Record

end FactoryOverloads
