import FactoryOverloads.Proofs.CommandLine.Checking
import FactoryOverloads.Proofs.Emission.Heading

/-!
# Stale artifacts

An artifact begins with its prologue, and the prologues of settings that differ in
the target or in a bound do not begin one another (`Settings.prologue_not_prefix`). So
their artifacts have different bytes (`Artifact.bytes_ne`), and a check that finds
the artifact of other settings at its destination says that it is stale
(`runCheck_of_ne`). What a generation has left is such an artifact for every
check under other settings (`Program.check_rejects_artifact_of_other_settings`).
-/

namespace FactoryOverloads

open CommandLine (CommandError GeneratorOptions Requests)

variable {tree : FileTree} {settings first second : Settings} {artifact : Artifact}

/-- What the artifact of settings depends on. -/
def Settings.selection (settings : Settings) : Target × Nat × Nat :=
  (settings.target, settings.minArity, settings.maxArity)

/-- The prologue of the artifact of settings. -/
def Settings.prologue (settings : Settings) : String :=
  settings.target.prologueText settings.minArity settings.maxArity

/-! ## Different artifacts -/

/-- A text begins with the prologue of one selection at most. -/
theorem Settings.selection_eq_of_append {rest₁ rest₂ : List Char}
    (h : first.prologue.toList ++ rest₁ = second.prologue.toList ++ rest₂) :
    first.selection = second.selection :=
  Target.prologueText_append_inj h

theorem Settings.prologue_not_prefix (differ : first.selection ≠ second.selection) :
    ¬ first.prologue.toList <+: second.prologue.toList := by
  rintro ⟨rest, longer⟩
  rw [← List.append_nil second.prologue.toList] at longer
  exact differ (selection_eq_of_append longer)

namespace Artifact

/-- A text begins with its prologue. -/
theorem exists_text (artifact : Artifact) :
    ∃ rest, artifact.text.toList = artifact.prologue.toList ++ rest := by
  have pieces : artifact.text = artifact.prologue ++ String.join
      (declarations artifact.blocks ++ (definitions artifact.blocks ++ [artifact.epilogue])) := by
    rw [text, parts, List.append_assoc, List.append_assoc, List.singleton_append,
      String.join_cons]
  rw [pieces, String.toList_append]
  exact ⟨_, rfl⟩

/-- The artifacts of different selections do not have the same bytes. -/
theorem bytes_ne {other : Artifact} (differ : first.selection ≠ second.selection)
    (h₁ : artifact.prologue = first.prologue) (h₂ : other.prologue = second.prologue) :
    artifact.bytes ≠ other.bytes := by
  intro same
  obtain ⟨rest₁, text₁⟩ := artifact.exists_text
  obtain ⟨rest₂, text₂⟩ := other.exists_text
  have texts : artifact.text.toList = other.text.toList :=
    congrArg String.toList (String.toByteArray_inj.mp same)
  rw [text₁, text₂, h₁, h₂] at texts
  exact differ (Settings.selection_eq_of_append texts)

/-- The artifact of valid settings begins with their prologue. -/
theorem exists_build (valid : settings.validate = .ok ()) :
    ∃ artifact : Artifact, build Engine.placeholder settings () = .ok (artifact, ()) ∧
      artifact.prologue = settings.prologue := by
  obtain ⟨ps, -, built⟩ := build_placeholder valid ()
  exact ⟨_, built, rfl⟩

end Artifact

/-! ## Checks -/

namespace CommandLine

/-- A check finds that the artifact is stale when something else lies at the
destination. -/
theorem runCheck_of_ne {options : GeneratorOptions} {content : ByteArray}
    (resolved : (options.resolve tree).1 = .ok settings)
    (built : (Artifact.build Engine.placeholder settings).run' () = .ok artifact)
    (found : tree.read settings.output = .ok content) (differs : content ≠ artifact.bytes) :
    (runCheck options tree).error = some (.artifactStale settings.output) := by
  obtain ⟨records, resolution⟩ := exists_resolve_eq resolved
  unfold runCheck
  rw [resolution]
  dsimp only
  rw [built]
  dsimp only
  rw [compareArtifact, found]
  dsimp only
  rw [if_neg differs]
  rfl

/-- What is up to date under some settings is stale under others. -/
theorem runCheck_of_upToDate {options : GeneratorOptions}
    (differ : first.selection ≠ second.selection) (valid : second.validate = .ok ())
    (upToDate : first.UpToDate tree) (resolved : (options.resolve tree).1 = .ok second)
    (place : tree.locate second.output = tree.locate first.output) :
    (runCheck options tree).error = some (.artifactStale second.output) := by
  obtain ⟨valid₁, artifact, built, found⟩ := upToDate
  obtain ⟨artifact₁, built₁, begins₁⟩ := Artifact.exists_build valid₁
  obtain ⟨artifact₂, built₂, begins₂⟩ := Artifact.exists_build valid
  rw [Generation.run'_eq_ok built₁] at built
  cases built
  rw [← FileTree.read_congr place] at found
  exact runCheck_of_ne resolved (Generation.run'_eq_ok built₂) found
    (Artifact.bytes_ne differ begins₁ begins₂)

end CommandLine

namespace Program

variable {environment : Environment} {arguments : List String} {library : Library}

/-- After a generation that succeeds, its settings find their artifact up to
date. -/
theorem upToDate_of_generate {options : GeneratorOptions} {isVerbose isQuiet : Bool}
    {elapsed : String}
    (h : Requests environment arguments (.generate options false isVerbose isQuiet))
    (resolved : (options.resolve tree).1 = .ok settings)
    (succeeded : (run environment arguments elapsed tree library).exitCode = 0) :
    settings.UpToDate (run environment arguments elapsed tree library).tree := by
  obtain ⟨exit, left⟩ := run_of_requests h elapsed tree library
  rw [exit] at succeeded
  obtain ⟨own, artifact, location, resolution, completes⟩ :=
    CommandLine.completes_of_runGenerate succeeded
  rw [resolved] at resolution
  cases resolution
  have generated := (CommandLine.runGenerate_of_completes isVerbose resolved completes).2
  rw [left]
  show settings.UpToDate (CommandLine.runGenerate options false isVerbose tree).tree
  rw [generated]
  exact CommandLine.upToDate_of_completes completes

/-- A request that fails ends its messages with the report of the error. -/
theorem run_of_error {command : CommandLine.Command} {error : CommandError}
    (h : Requests environment arguments command)
    (failed : (CommandLine.run tree command).error = some error) (elapsed : String) :
    (run environment arguments elapsed tree library).exitCode = 1 ∧
      ∃ log, (run environment arguments elapsed tree library).errors = log ++ error.report := by
  constructor
  · rw [(run_of_requests h elapsed tree library).1, CommandLine.Transcript.exitCode, failed]
    rfl
  · obtain ⟨invocation, parsed, rfl⟩ := h
    unfold run
    rw [parsed]
    dsimp only
    unfold present
    dsimp only
    rw [failed]
    exact ⟨_, rfl⟩

/-- Of settings that differ in the target or in a bound, neither prologue begins
the other, and if they are valid, their artifacts have different bytes. A check
under the one settings refuses what a generation under the other has left at the
destination, and leaves it there. -/
theorem check_rejects_artifact_of_other_settings (first second : Settings)
    (differ : first.selection ≠ second.selection) (library : Library) :
    (∃ frame₁ frame₂ : Artifact,
      Artifact.renderFrame Engine.placeholder first.target first.minArity first.maxArity () =
        .ok (frame₁, ()) ∧
      Artifact.renderFrame Engine.placeholder second.target second.minArity second.maxArity () =
        .ok (frame₂, ()) ∧
      ¬ frame₁.prologue.toList <+: frame₂.prologue.toList ∧
      ¬ frame₂.prologue.toList <+: frame₁.prologue.toList) ∧
    (first.validate = .ok () → second.validate = .ok () →
      (∃ artifact₁ artifact₂ : Artifact,
        Artifact.build Engine.placeholder first () = .ok (artifact₁, ()) ∧
        Artifact.build Engine.placeholder second () = .ok (artifact₂, ()) ∧
        artifact₁.bytes ≠ artifact₂.bytes) ∧
      ∀ environment arguments options isVerbose isQuiet elapsed tree after,
        Requests environment arguments (.generate options false isVerbose isQuiet) →
        (options.resolve tree).1 = .ok first →
        (run environment arguments elapsed tree library).exitCode = 0 →
        (run environment arguments elapsed tree library).tree = after →
        ∀ checkEnvironment checkArguments checkOptions isQuiet elapsed,
          Requests checkEnvironment checkArguments (.check checkOptions isQuiet) →
          (checkOptions.resolve after).1 = .ok second →
          after.locate second.output = after.locate first.output →
          (run checkEnvironment checkArguments elapsed after library).exitCode = 1 ∧
          (∃ log, (run checkEnvironment checkArguments elapsed after library).errors =
            log ++ (CommandError.artifactStale second.output).report) ∧
          (run checkEnvironment checkArguments elapsed after library).tree = after) := by
  refine ⟨⟨_, _, Artifact.renderFrame_placeholder _ _ _ (),
    Artifact.renderFrame_placeholder _ _ _ (), Settings.prologue_not_prefix differ,
    Settings.prologue_not_prefix differ.symm⟩, fun valid₁ valid₂ => ⟨?bytes, ?checks⟩⟩
  case bytes =>
    obtain ⟨artifact₁, built₁, begins₁⟩ := Artifact.exists_build valid₁
    obtain ⟨artifact₂, built₂, begins₂⟩ := Artifact.exists_build valid₂
    exact ⟨artifact₁, artifact₂, built₁, built₂, Artifact.bytes_ne differ begins₁ begins₂⟩
  case checks =>
    intro environment arguments options isVerbose isQuiet elapsed tree after generating resolved
      succeeded left checkEnvironment checkArguments checkOptions isQuiet elapsed checking others
      place
    have upToDate : first.UpToDate after :=
      left ▸ upToDate_of_generate generating resolved succeeded
    have stale := CommandLine.runCheck_of_upToDate differ valid₂ upToDate others place
    obtain ⟨exit, log⟩ := run_of_error checking stale elapsed
    refine ⟨exit, log, ?_⟩
    rw [(run_of_requests checking elapsed after library).2]
    exact CommandLine.runCheck_tree checkOptions after

theorem check_rejects_artifact_of_other_settings_for_eleven_after_one :
    ∃ after,
      (run ⟨[]⟩ ["generate", "-o", "out.hpp", "--max-arity=1"] "0.00"
        ⟨[(["work"], .directory false)], ["work"]⟩).tree = after ∧
      (run ⟨[]⟩ ["check", "-o", "out.hpp", "--max-arity=11"] "0.01" after).exitCode = 1 ∧
      ∃ log, (run ⟨[]⟩ ["check", "-o", "out.hpp", "--max-arity=11"] "0.01" after).errors =
        log ++ (CommandError.artifactStale "out.hpp").report := by
  have generating : Requests ⟨[]⟩ ["generate", "-o", "out.hpp", "--max-arity=1"]
      (.generate ⟨none, some "out.hpp", some 1, none, none⟩ false false false) := ⟨_, rfl, rfl⟩
  have checking : Requests ⟨[]⟩ ["check", "-o", "out.hpp", "--max-arity=11"]
      (.check ⟨none, some "out.hpp", some 11, none, none⟩ false) := ⟨_, rfl, rfl⟩
  obtain ⟨artifact, completes⟩ : ∃ artifact, Generation.Completes Engine.placeholder ()
      ⟨1, 1, "out.hpp", .cpp⟩ ⟨[(["work"], .directory false)], ["work"]⟩ artifact
      ["work", "out.hpp"] :=
    Generation.exists_completes rfl ⟨_, rfl⟩ ⟨⟨_, rfl⟩, rfl⟩
  have resolved : (GeneratorOptions.resolve ⟨none, some "out.hpp", some 1, none, none⟩
      ⟨[(["work"], .directory false)], ["work"]⟩).1 = .ok ⟨1, 1, "out.hpp", .cpp⟩ := rfl
  obtain ⟨succeeded, generated⟩ := CommandLine.runGenerate_of_completes false resolved completes
  obtain ⟨exit, left⟩ := run_of_requests generating "0.00"
    ⟨[(["work"], .directory false)], ["work"]⟩ .plain
  have rejects := ((check_rejects_artifact_of_other_settings ⟨1, 1, "out.hpp", .cpp⟩
    ⟨1, 11, "out.hpp", .cpp⟩ (by decide) .plain).2 rfl rfl).2 _ _ _ _ _ "0.00" _ _ generating
    resolved (exit.trans succeeded) (left.trans generated) _ _ _ _ "0.01" checking rfl rfl
  exact ⟨_, left.trans generated, rejects.1, rejects.2.1⟩

end Program

end FactoryOverloads
