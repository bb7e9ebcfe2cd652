import FactoryOverloads.Proofs.CommandLine.Scanning

/-!
# Requests

A command line is a request for a generation or a check when its arguments ask for
that (`Asks`), and it then means what the options say that stand before the
command and behind it (`Means`, `parse_eq_ok_iff_asks`).
-/

namespace FactoryOverloads.CommandLine

variable {name : CommandName} {reading : Reading} {arguments : List String} {given : Given}
  {environment : Environment} {command : Command} {invocation : Invocation}

/-- The value of an option that counts behind the name of a command rather than
before it. -/
def shared (before reading : Reading) (option : OptionName) (fallback : String) : String :=
  ((reading.value? option).or (before.value? option)).getD fallback

theorem parse_eq_ok_iff :
    parse environment arguments = .ok invocation ↔
      ∃ before name rest reading,
        scan none .empty none false arguments = .ok (before, some (name, rest)) ∧
        (∃ found, scan (some name) .empty none false rest = .ok (reading, found)) ∧
        commandOf environment reading name = .ok invocation.command ∧
        invocation.color = shared before reading .color "auto" ∧
        invocation.logLevel = shared before reading .logLevel "info" := by
  unfold parse
  rw [bind_eq_ok_iff]
  constructor
  · rintro ⟨⟨before, _ | ⟨name, rest⟩⟩, scanned, h⟩
    · cases h
    · obtain ⟨⟨reading, found⟩, level, h⟩ := bind_eq_ok_iff.mp h
      obtain ⟨command, meant, ⟨⟩⟩ := bind_eq_ok_iff.mp h
      exact ⟨before, name, rest, reading, scanned, ⟨found, level⟩, meant, rfl, rfl⟩
  · rintro ⟨before, name, rest, reading, scanned, ⟨found, level⟩, meant, color, logLevel⟩
    refine ⟨_, scanned, bind_eq_ok_iff.mpr ⟨_, level, bind_eq_ok_iff.mpr ⟨_, meant, ?_⟩⟩⟩
    obtain ⟨command, _, _⟩ := invocation
    cases color
    cases logLevel
    rfl

/-- The options for the generator that a command comes with. -/
def Command.selection? : Command → Option GeneratorOptions
  | .generate options _ _ _ => some options
  | .check options _ => some options
  | .plan _ _ => none
  | .completions _ => none

/-- The arguments ask for a command: behind what is read before its name, they spell
options of the command. -/
def Asks (arguments : List String) (before : Reading) (name : CommandName) (given : Given) :
    Prop :=
  ∃ rest, scan none .empty none false arguments = .ok (before, some (name, rest)) ∧
    Spells name.options rest given

/-- What a request for a generation or a check means. -/
structure Means (environment : Environment) (before : Reading) (name : CommandName)
    (given : Given) (invocation : Invocation) : Prop where
  command : commandOf environment ⟨given, none⟩ name = .ok invocation.command
  color : invocation.color = shared before ⟨given, none⟩ .color "auto"
  logLevel : invocation.logLevel = shared before ⟨given, none⟩ .logLevel "info"

theorem takesOptionsOnly_some (generates : name = .generate ∨ name = .check) :
    TakesOptionsOnly (some name) := by
  rintro _ ⟨⟩ argument
  rcases generates with rfl | rfl <;> rfl

theorem commandOf_generate_eq_ok_iff :
    commandOf environment reading .generate = .ok command ↔
      ∃ selected, generatorOptions environment reading = .ok selected ∧
        command = .generate selected (reading.has .dryRun) (reading.has .verbose)
          (reading.has .quiet) := by
  rw [commandOf, bind_eq_ok_iff]
  simp only [pure, Except.pure, Except.ok.injEq, eq_comm]

theorem commandOf_check_eq_ok_iff :
    commandOf environment reading .check = .ok command ↔
      ∃ selected, generatorOptions environment reading = .ok selected ∧
        command = .check selected (reading.has .quiet) := by
  rw [commandOf, bind_eq_ok_iff]
  simp only [pure, Except.pure, Except.ok.injEq, eq_comm]

/-- The options for the generator are read for the commands that take them only. -/
theorem isSome_selection?_iff
    (meant : commandOf environment reading name = .ok command) :
    command.selection?.isSome = true ↔ name = .generate ∨ name = .check := by
  cases name with
  | generate =>
    obtain ⟨selected, -, rfl⟩ := commandOf_generate_eq_ok_iff.mp meant
    simp [Command.selection?]
  | check =>
    obtain ⟨selected, -, rfl⟩ := commandOf_check_eq_ok_iff.mp meant
    simp [Command.selection?]
  | plan =>
    simp only [commandOf] at meant
    cases spelled : reading.argument.bind parseNumber? with
    | none => simp [spelled] at meant
    | some arity =>
      rw [spelled] at meant
      cases meant
      simp [Command.selection?]
  | completions =>
    simp only [commandOf] at meant
    cases spelled : reading.argument.bind Shell.ofName? with
    | none => simp [spelled] at meant
    | some shell =>
      rw [spelled] at meant
      cases meant
      simp [Command.selection?]

/-- The options of such a request are read from what is given behind its command. -/
theorem Means.generatorOptions_eq_ok {before : Reading} {selected : GeneratorOptions}
    (means : Means environment before name given invocation)
    (selects : invocation.command.selection? = some selected) :
    generatorOptions environment ⟨given, none⟩ = .ok selected := by
  have meant := means.command
  have generates := (isSome_selection?_iff meant).mp (by rw [selects]; rfl)
  rcases generates with rfl | rfl
  · obtain ⟨own, reads, same⟩ := commandOf_generate_eq_ok_iff.mp meant
    rw [same] at selects
    cases selects
    exact reads
  · obtain ⟨own, reads, same⟩ := commandOf_check_eq_ok_iff.mp meant
    rw [same] at selects
    cases selects
    exact reads

/-- A request for a generation or a check is made by arguments that ask for it. -/
theorem parse_eq_ok_iff_asks :
    parse environment arguments = .ok invocation ∧ invocation.command.selection?.isSome = true ↔
      ∃ before name given, (name = .generate ∨ name = .check) ∧
        Asks arguments before name given ∧ Means environment before name given invocation := by
  rw [parse_eq_ok_iff]
  constructor
  · rintro ⟨⟨before, name, rest, reading, scanned, level, meant, color, logLevel⟩, selects⟩
    have generates := (isSome_selection?_iff meant).mp selects
    obtain ⟨given, spells, rfl⟩ := (scan_empty_iff (takesOptionsOnly_some generates)).mp level
    exact ⟨before, name, given, generates, ⟨rest, scanned, spells⟩, meant, color, logLevel⟩
  · rintro ⟨before, name, given, generates, ⟨rest, scanned, spells⟩, meant, color, logLevel⟩
    have level := (scan_empty_iff (takesOptionsOnly_some generates)).mpr ⟨given, spells, rfl⟩
    exact ⟨⟨before, name, rest, _, scanned, level, meant, color, logLevel⟩,
      (isSome_selection?_iff meant).mpr generates⟩

end FactoryOverloads.CommandLine
