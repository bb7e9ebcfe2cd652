import FactoryOverloads.Program
import FactoryOverloads.Proofs.CommandLine.Resolving
import FactoryOverloads.Proofs.Generation.AllOrNothing
import FactoryOverloads.Proofs.Settings.Destination

/-!
# Checking what has been generated

A check succeeds exactly when the file at the destination is the artifact of the
settings (`Settings.UpToDate`, `runCheck_exitCode_eq_zero_iff`), and leaves the
tree alone. A generation that succeeds brings about just that
(`runGenerate_of_completes`). It meets its own conditions again in the tree that
it leaves (`Completes.again`), and unless it has written over the settings file,
its settings are the same there. So a check that follows succeeds, and a second
generation changes nothing (`Program.check_agrees_with_generate`).
-/

namespace FactoryOverloads

open CommandLine (Command GeneratorOptions Invocation)
open Generation (Completes completes_of_run run_of_completes)

variable {tree : FileTree} {settings : Settings} {location : Location} {artifact : Artifact}
  {options : GeneratorOptions}

/-- What a run needs is there again when it has written. -/
theorem Generation.Completes.again {State : Type} {engine : Engine State} {state : State}
    (h : Completes engine state settings tree artifact location) :
    Completes engine state settings (tree.set location (.file artifact.bytes)) artifact
      location where
  valid := h.valid
  checked := by
    obtain ⟨warnings, checked⟩ := h.checked
    obtain ⟨-, directory, warned⟩ := Settings.checkDestination_eq_ok_iff.mp checked
    refine ⟨warnings, Settings.checkDestination_eq_ok_iff.mpr ⟨?_, ?_, warned⟩⟩
    · rw [FileTree.isDirectory, FileTree.inspect_set_of_locateReplaced h.takes.placed]
      rfl
    · exact FileTree.inspect_set_file_of_directory h.takes.clear directory
  built := h.built
  takes := h.takes.set_file

/-! ## Commands -/

/-- The bounds are valid, and the file at the destination is the artifact of the
settings. -/
def Settings.UpToDate (settings : Settings) (tree : FileTree) : Prop :=
  settings.validate = .ok () ∧ ∃ artifact,
    (Artifact.build Engine.placeholder settings).run' () = .ok artifact ∧
      tree.read settings.output = .ok artifact.bytes

namespace CommandLine

theorem exists_resolve_eq (h : (options.resolve tree).1 = .ok settings) :
    ∃ records, options.resolve tree = (.ok settings, records) :=
  ⟨_, Prod.ext h rfl⟩

theorem runCheck_tree (options : GeneratorOptions) (tree : FileTree) :
    (runCheck options tree).tree = tree := by
  unfold runCheck
  split
  · rfl
  · split
    · rfl
    · dsimp only
      split <;> rfl

/-- The exit code of a command is that of success or that of failure. -/
theorem Transcript.exitCode_eq_zero_iff {transcript : Transcript} :
    transcript.exitCode = 0 ↔ transcript.error = none := by
  unfold exitCode
  cases transcript.error <;> simp

theorem Transcript.exitCode_eq_zero_or_one (transcript : Transcript) :
    transcript.exitCode = 0 ∨ transcript.exitCode = 1 := by
  unfold exitCode
  split
  · exact .inl rfl
  · exact .inr rfl

theorem compareArtifact_eq_ok_iff :
    (compareArtifact settings artifact tree).1 = .ok () ↔
      tree.read settings.output = .ok artifact.bytes := by
  unfold compareArtifact
  split
  · next missing => simp [missing]
  · next unreadable => simp [unreadable]
  · next content found =>
    rw [found]
    split
    · next same => simp [same]
    · next stale => simp [stale]

/-- The bounds of settings that have an artifact are valid. -/
theorem validate_of_build {State : Type} {engine : Engine State} {state : State}
    (h : (Artifact.build engine settings).run' state = .ok artifact) :
    settings.validate = .ok () := by
  cases valid : settings.validate with
  | ok _ => rfl
  | error cause =>
    rw [StateT.run', Artifact.build_of_validate_error valid] at h
    cases h

theorem upToDate_iff
    (built : (Artifact.build Engine.placeholder settings).run' () = .ok artifact) :
    settings.UpToDate tree ↔ tree.read settings.output = .ok artifact.bytes := by
  constructor
  · rintro ⟨-, other, again, found⟩
    rw [built] at again
    cases again
    exact found
  · exact fun found => ⟨validate_of_build built, artifact, built, found⟩

/-- A check succeeds exactly when its settings can be resolved and their artifact
is what lies at the destination. -/
theorem runCheck_exitCode_eq_zero_iff :
    (runCheck options tree).exitCode = 0 ↔
      ∃ settings, (options.resolve tree).1 = .ok settings ∧ settings.UpToDate tree := by
  rw [Transcript.exitCode_eq_zero_iff]
  unfold runCheck
  rcases resolved : options.resolve tree with ⟨error | settings, records⟩
  · simp [Transcript.failed]
  · simp only [Except.ok.injEq, exists_eq_left']
    cases built : (Artifact.build Engine.placeholder settings).run' () with
    | error cause =>
      constructor
      · intro failed
        cases failed
      · rintro ⟨-, artifact, again, -⟩
        rw [built] at again
        cases again
    | ok artifact =>
      rw [upToDate_iff built, ← compareArtifact_eq_ok_iff]
      dsimp only
      rcases compareArtifact settings artifact tree with ⟨error | _, notices⟩
      · simp [Transcript.failed]
      · simp [Transcript.succeeded]

/-- A generation succeeds when its run completes, and leaves the artifact. -/
theorem runGenerate_of_completes (isVerbose : Bool)
    (resolved : (options.resolve tree).1 = .ok settings)
    (h : Completes Engine.placeholder () settings tree artifact location) :
    (runGenerate options false isVerbose tree).exitCode = 0 ∧
      (runGenerate options false isVerbose tree).tree =
        tree.set location (.file artifact.bytes) := by
  obtain ⟨records, done⟩ := run_of_completes h
  obtain ⟨notes, resolution⟩ := exists_resolve_eq resolved
  rw [Transcript.exitCode_eq_zero_iff]
  unfold runGenerate
  rw [resolution]
  dsimp only
  rw [done]
  exact ⟨rfl, rfl⟩

theorem completes_of_runGenerate {isVerbose : Bool}
    (h : (runGenerate options false isVerbose tree).exitCode = 0) :
    ∃ settings artifact location, (options.resolve tree).1 = .ok settings ∧
      Completes Engine.placeholder () settings tree artifact location := by
  rw [Transcript.exitCode_eq_zero_iff] at h
  unfold runGenerate at h
  rcases resolution : options.resolve tree with ⟨error | settings, records⟩
  · rw [resolution] at h
    cases h
  · rw [resolution] at h
    dsimp only at h
    cases result : (Generation.run Engine.placeholder () settings false tree).result with
    | error cause =>
      rw [result] at h
      cases h
    | ok report =>
      obtain ⟨-, artifact, location, completes⟩ := completes_of_run result
      exact ⟨settings, artifact, location, rfl, completes⟩

theorem upToDate_of_completes
    (h : Completes Engine.placeholder () settings tree artifact location) :
    settings.UpToDate (tree.set location (.file artifact.bytes)) :=
  ⟨h.valid, artifact, h.built,
    FileTree.read_of_inspect (FileTree.inspect_set_of_locateReplaced h.takes.placed)⟩

/-- The arguments are a request for the command. -/
def Requests (environment : Environment) (arguments : List String) (command : Command) : Prop :=
  ∃ invocation, parse environment arguments = .ok invocation ∧ invocation.command = command

end CommandLine

namespace Program

open CommandLine (Requests runCheck runGenerate)

variable {environment : Environment} {arguments : List String}

/-- A request is answered with the exit code of its command, which also decides
how the tree is left. -/
theorem run_of_requests {command : Command} (h : Requests environment arguments command)
    (elapsed : String) (tree : FileTree) (library : Library) :
    (run environment arguments elapsed tree library).exitCode =
        (CommandLine.run tree command).exitCode ∧
      (run environment arguments elapsed tree library).tree =
        (CommandLine.run tree command).tree := by
  obtain ⟨invocation, parsed, rfl⟩ := h
  unfold run
  rw [parsed]
  exact ⟨rfl, rfl⟩

/-- A check succeeds exactly when the artifact at the destination is up to date,
and leaves the tree alone. After a generation that has not written over its own
settings file, a check with the same options succeeds, and so does a second
generation, which leaves the tree as the first one did. -/
theorem check_agrees_with_generate (environment : Environment) (options : GeneratorOptions)
    (elapsed : String) (tree : FileTree) (library : Library) :
    (∀ arguments isQuiet, Requests environment arguments (.check options isQuiet) →
      (run environment arguments elapsed tree library).tree = tree ∧
      ((run environment arguments elapsed tree library).exitCode = 0 ↔
        ∃ settings, (options.resolve tree).1 = .ok settings ∧ settings.UpToDate tree) ∧
      ((run environment arguments elapsed tree library).exitCode = 0 ∨
        (run environment arguments elapsed tree library).exitCode = 1)) ∧
    ∀ arguments isVerbose isQuiet after,
      Requests environment arguments (.generate options false isVerbose isQuiet) →
      (run environment arguments elapsed tree library).exitCode = 0 →
      (run environment arguments elapsed tree library).tree = after →
      ∃ settings, (options.resolve tree).1 = .ok settings ∧
        (after.locate settings.output ≠ after.locate options.settingsPath →
          (∀ checkArguments isQuiet elapsed,
            Requests environment checkArguments (.check options isQuiet) →
            (run environment checkArguments elapsed after library).exitCode = 0) ∧
          ∀ elapsed, (run environment arguments elapsed after library).exitCode = 0 ∧
            (run environment arguments elapsed after library).tree = after) := by
  constructor
  · intro arguments isQuiet requested
    obtain ⟨exit, left⟩ := run_of_requests requested elapsed tree library
    rw [exit, left]
    exact ⟨CommandLine.runCheck_tree options tree, CommandLine.runCheck_exitCode_eq_zero_iff,
      CommandLine.Transcript.exitCode_eq_zero_or_one _⟩
  · intro arguments isVerbose isQuiet after requested succeeded left
    rw [(run_of_requests requested elapsed tree library).1] at succeeded
    obtain ⟨settings, artifact, location, resolved, completes⟩ :=
      CommandLine.completes_of_runGenerate succeeded
    have first : after = tree.set location (.file artifact.bytes) := by
      rw [← left, (run_of_requests requested elapsed tree library).2]
      exact (CommandLine.runGenerate_of_completes isVerbose resolved completes).2
    subst first
    refine ⟨settings, resolved, fun apart => ?_⟩
    have again : (options.resolve (tree.set location (.file artifact.bytes))).1 = .ok settings := by
      rw [FileTree.locate_set_of_locateReplaced completes.takes.placed] at apart
      rw [GeneratorOptions.resolve_set_file completes.takes.clear options apart.symm, resolved]
    constructor
    · intro checkArguments isQuiet elapsed requested
      rw [(run_of_requests requested elapsed _ library).1]
      exact CommandLine.runCheck_exitCode_eq_zero_iff.mpr
        ⟨settings, again, CommandLine.upToDate_of_completes completes⟩
    · intro elapsed
      obtain ⟨exit, left⟩ := run_of_requests requested elapsed
        (tree.set location (.file artifact.bytes)) library
      rw [exit, left]
      have second := CommandLine.runGenerate_of_completes isVerbose again completes.again
      rw [FileTree.set_set] at second
      exact second

theorem check_agrees_with_generate_beside_settings_file :
    ∃ after,
      (run ⟨[("GENMAKEIMPL_CONFIG", "c.yaml")]⟩ ["generate", "-o", "out.rs", "--max-arity=1"] "0.00"
        ⟨[(["work"], .directory false), (["work", "c.yaml"], .file "".toUTF8)], ["work"]⟩).tree =
          after ∧
      (run ⟨[("GENMAKEIMPL_CONFIG", "c.yaml")]⟩ ["check", "--max-arity=1", "-q", "-oout.rs"] "0.01"
        after).exitCode = 0 ∧
      (run ⟨[("GENMAKEIMPL_CONFIG", "c.yaml")]⟩ ["generate", "-o", "out.rs", "--max-arity=1"] "0.02"
        after).tree = after := by
  have generating : Requests ⟨[("GENMAKEIMPL_CONFIG", "c.yaml")]⟩
      ["generate", "-o", "out.rs", "--max-arity=1"]
      (.generate ⟨some "c.yaml", some "out.rs", some 1, none, none⟩ false false false) :=
    ⟨_, rfl, rfl⟩
  have checking : Requests ⟨[("GENMAKEIMPL_CONFIG", "c.yaml")]⟩
      ["check", "--max-arity=1", "-q", "-oout.rs"]
      (.check ⟨some "c.yaml", some "out.rs", some 1, none, none⟩ true) := ⟨_, rfl, rfl⟩
  obtain ⟨artifact, completes⟩ : ∃ artifact, Completes Engine.placeholder ()
      ⟨1, 1, "out.rs", .cpp⟩
      ⟨[(["work"], .directory false), (["work", "c.yaml"], .file "".toUTF8)], ["work"]⟩ artifact
      ["work", "out.rs"] :=
    Generation.exists_completes rfl ⟨_, rfl⟩ ⟨⟨_, rfl⟩, rfl⟩
  have generated := CommandLine.runGenerate_of_completes false
    (show (GeneratorOptions.resolve ⟨some "c.yaml", some "out.rs", some 1, none, none⟩ _).1 = .ok _
      from rfl) completes
  obtain ⟨exit, left⟩ := run_of_requests generating "0.00"
    ⟨[(["work"], .directory false), (["work", "c.yaml"], .file "".toUTF8)], ["work"]⟩ .plain
  obtain ⟨settings, resolved, follows⟩ :=
    (check_agrees_with_generate _ _ "0.00" _ .plain).2 _ _ _ _ generating (exit.trans generated.1)
      (left.trans generated.2)
  cases resolved
  have apart : (Except.ok ["work", "out.rs"] : Except OsError Location) ≠ .ok ["work", "c.yaml"] :=
    by decide
  obtain ⟨checks, repeats⟩ := follows apart
  exact ⟨_, left.trans generated.2, checks _ _ "0.01" checking, (repeats "0.02").2⟩

end Program

end FactoryOverloads
