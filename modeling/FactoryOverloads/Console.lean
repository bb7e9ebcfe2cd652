import FactoryOverloads.Environment
import FactoryOverloads.Target

/-!
# Status lines

A run tells on standard output how it goes, one line for each notice. A line begins with a marker:
an emoji when colours are used, a tag in brackets otherwise. A quiet console shows failures only.

- `Notice` is what can be told, `Notice.status` how it is marked and `Notice.text` its text.
- `Console.line` formats a line, and `Console.output` those of several notices.
-/

namespace FactoryOverloads

/-- The kind of a status line. -/
inductive Status where
  | start
  | success
  | failure
  | info
  | dryRun
  deriving DecidableEq, Repr

/-- What a line of a kind begins with. -/
def Status.marker : Status → (useColor : Bool) → String
  | .start, true => "🔧"
  | .start, false => "[GEN]"
  | .success, true => "✅"
  | .success, false => "[OK]"
  | .failure, true => "❌"
  | .failure, false => "[ERR]"
  | .info, _ => "  "
  | .dryRun, true => "🔎"
  | .dryRun, false => "[DRY]"

/-- The codes that style the text of a kind, one after the other. -/
def Status.style : Status → List String
  | .success => ["\x1b[32m"]
  | .failure => ["\x1b[31m", "\x1b[1m"]
  | .dryRun => ["\x1b[33m"]
  | .start | .info => []

/-- A text with codes before it, and the code that ends their effect behind it. -/
def styled (codes : List String) (text : String) : String :=
  if codes.isEmpty then text else String.join codes ++ text ++ "\x1b[0m"

/-- What a run tells. -/
inductive Notice where
  | generating (target : Target) (minArity maxArity : Nat)
  | destination (path : String)
  | dryRun
  | generated (overloads : Nat)
  | written (bytes : Nat) (path : String)
  | wouldWrite (bytes : Nat) (path : String)
  | failed
  | missing (path : String)
  | outOfDate (path : String)
  | upToDate (path : String) (minArity maxArity : Nat)
  deriving DecidableEq, Repr

namespace Notice

/-- How a notice is marked. -/
def status : Notice → Status
  | .generating _ _ _ => .start
  | .destination _ => .info
  | .dryRun => .dryRun
  | .generated _ => .success
  | .written _ _ => .info
  | .wouldWrite _ _ => .info
  | .failed => .failure
  | .missing _ => .failure
  | .outOfDate _ => .failure
  | .upToDate _ _ _ => .success

/-- The text of a notice. `elapsed` is how many seconds the run took, as a text. -/
def text (elapsed : String) : Notice → String
  | .generating target minArity maxArity =>
    "Generating " ++ target.name ++ s!" factory overloads for arities {minArity}..={maxArity}"
  | .destination path => "Destination: " ++ path
  | .dryRun => "DRY RUN MODE - the artifact will not be written"
  | .generated overloads => s!"Generated {overloads} overloads in " ++ elapsed ++ "s"
  | .written bytes path => s!"{bytes} bytes written to " ++ path
  | .wouldWrite bytes path => s!"{bytes} bytes would be written to " ++ path
  | .failed => "Generation failed"
  | .missing path => path ++ " is missing"
  | .outOfDate path => path ++ " is out of date"
  | .upToDate path minArity maxArity =>
    path ++ s!" is up to date (arities {minArity}..={maxArity})"

end Notice

/-- How status lines are shown. -/
structure Console where
  /-- Whether emojis and colours are used. -/
  useColor : Bool
  /-- Whether only failures are shown. -/
  quiet : Bool
  deriving DecidableEq, Repr

namespace Console

/-- The console for a wish about colours, whose case does not matter. A wish that is neither
`always` nor `never` leaves the choice to the environment. -/
def ofWish (wish : String) (environment : Environment) : Console where
  useColor :=
    match wish.toLower with
    | "always" => true
    | "never" => false
    | _ => environment.prefersColor
  quiet := false

/-- The console that shows failures only, or everything. -/
def withQuiet (console : Console) (quiet : Bool) : Console := { console with quiet := quiet }

/-- A line of a kind. The text is styled only if colours are used and `styles` holds. -/
def line (console : Console) (styles : Bool) (status : Status) (text : String) : String :=
  let codes := if console.useColor && styles then status.style else []
  status.marker console.useColor ++ " " ++ styled codes text

/-- Whether a notice is shown. -/
def shows (console : Console) (notice : Notice) : Bool :=
  !console.quiet || notice.status == .failure

/-- The lines that are shown for notices. -/
def lines (console : Console) (styles : Bool) (elapsed : String) (notices : List Notice) :
    List String :=
  (notices.filter console.shows).map fun notice =>
    console.line styles notice.status (notice.text elapsed)

/-- The output for notices. -/
def output (console : Console) (styles : Bool) (elapsed : String) (notices : List Notice) :
    String :=
  String.join ((console.lines styles elapsed notices).map (· ++ "\n"))

end Console

end FactoryOverloads
