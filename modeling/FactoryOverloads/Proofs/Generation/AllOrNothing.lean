import FactoryOverloads.Generation
import FactoryOverloads.Proofs.Artifact.Building
import FactoryOverloads.Proofs.Artifact.Writing

/-!
# A run is all or nothing

A run either fails, and then leaves the tree as it was, or completes, whichever
steps of its write the system refuses (`run_cases`). What it takes to complete is
the same for a dry run, except that a dry run does not look at the destination: the
settings are valid and their artifact is built (`run_dry`); and otherwise the
destination has been checked, the tree takes a file there and the system refuses
nothing (`run_of_completes`). The report of both tells the size of the same bytes
(`run_allOrNothing`).
-/

namespace FactoryOverloads.Generation

variable {State : Type} {engine : Engine State} {state : State} {settings : Settings}
  {tree : FileTree} {artifact : Artifact} {location : Location}

theorem run'_eq_ok {α : Type} {rendering : Rendering State α} {after : State} {value : α}
    (h : rendering state = .ok (value, after)) : rendering.run' state = .ok value := by
  rw [StateT.run', h]
  rfl

/-- What a run needs to write an artifact, where the system refuses nothing. -/
structure Completes (engine : Engine State) (state : State) (settings : Settings)
    (tree : FileTree) (artifact : Artifact) (location : Location) : Prop where
  valid : settings.validate = .ok ()
  checked : ∃ warnings, settings.checkDestination tree = .ok warnings
  built : (Artifact.build engine settings).run' state = .ok artifact
  takes : tree.Takes settings.output location

/-- The built-in engine does not keep a run from completing. -/
theorem exists_completes (valid : settings.validate = .ok ())
    (checked : ∃ warnings, settings.checkDestination tree = .ok warnings)
    (takes : tree.Takes settings.output location) :
    ∃ artifact, Completes Engine.placeholder () settings tree artifact location := by
  obtain ⟨ps, -, built⟩ := Artifact.build_placeholder valid ()
  exact ⟨_, valid, checked, run'_eq_ok built, takes⟩

theorem run_dry (valid : settings.validate = .ok ())
    (built : (Artifact.build engine settings).run' state = .ok artifact) (tree : FileTree)
    (faults : Faults) :
    run engine state settings true tree faults =
      ⟨.ok (report settings artifact artifact.bytes.size false),
        buildRecords settings artifact, tree⟩ := by
  unfold run
  rw [valid]
  dsimp only
  rw [if_pos rfl]
  dsimp only
  rw [built]
  rfl

theorem run_of_completes (h : Completes engine state settings tree artifact location) :
    ∃ records, run engine state settings false tree =
      ⟨.ok (report settings artifact artifact.bytes.size true), records,
        tree.set location (.file artifact.bytes)⟩ := by
  obtain ⟨warnings, checked⟩ := h.checked
  unfold run
  rw [h.valid]
  dsimp only
  rw [if_neg Bool.false_ne_true, checked]
  dsimp only
  rw [h.built]
  dsimp only
  rw [if_neg Bool.false_ne_true, artifact.writeWith_of_takes h.takes]
  exact ⟨_, rfl⟩

/-- A run fails without a trace or completes. -/
theorem run_cases (engine : Engine State) (state : State) (settings : Settings)
    (isDryRun : Bool) (tree : FileTree) (faults : Faults) :
    (∃ cause records,
      run engine state settings isDryRun tree faults = ⟨.error cause, records, tree⟩) ∨
      ∃ artifact, settings.validate = .ok () ∧
        (Artifact.build engine settings).run' state = .ok artifact ∧
        (isDryRun = true ∨ isDryRun = false ∧ faults = .none ∧
          ∃ location, Completes engine state settings tree artifact location) := by
  unfold run
  cases valid : settings.validate with
  | error cause => exact .inl ⟨_, _, rfl⟩
  | ok _ =>
    cases checked : if isDryRun then .ok [] else settings.checkDestination tree with
    | error cause => exact .inl ⟨_, _, rfl⟩
    | ok warnings =>
      cases built : (Artifact.build engine settings).run' state with
      | error cause => exact .inl ⟨_, _, rfl⟩
      | ok artifact =>
        cases isDryRun with
        | true => exact .inr ⟨artifact, rfl, rfl, .inl rfl⟩
        | false =>
          rw [if_neg Bool.false_ne_true] at checked
          rcases artifact.writeWith_cases faults settings.output tree with
            ⟨cause, records, written⟩ | ⟨rfl, location, takes⟩
          · dsimp only
            rw [if_neg Bool.false_ne_true, written]
            exact .inl ⟨_, _, rfl⟩
          · exact .inr ⟨artifact, rfl, rfl,
              .inr ⟨rfl, rfl, location, valid, ⟨warnings, checked⟩, built, takes⟩⟩

theorem completes_of_run {faults : Faults} {report : Report}
    (h : (run engine state settings false tree faults).result = .ok report) :
    faults = .none ∧
      ∃ artifact location, Completes engine state settings tree artifact location := by
  rcases run_cases engine state settings false tree faults with
    ⟨cause, records, failed⟩ | ⟨artifact, -, -, dry | ⟨-, obeyed, location, completes⟩⟩
  · rw [failed] at h
    cases h
  · cases dry
  · exact ⟨obeyed, artifact, location, completes⟩

/-- Whatever the engine does, and whatever the system refuses, a run fails and
leaves the tree as it was, or reports the blocks and bytes of the artifact; then the
destination holds these bytes and nothing else has changed, unless the run is dry
and nothing has changed at all. Where a run writes, a dry run reports the same,
whatever the system would refuse. -/
theorem run_allOrNothing (engine : Engine State) (state : State) (settings : Settings)
    (tree : FileTree) (faults : Faults) :
    (∀ isDryRun,
      (∃ cause, (run engine state settings isDryRun tree faults).result = .error cause ∧
        (run engine state settings isDryRun tree faults).tree = tree) ∨
      ∃ artifact, (Artifact.build engine settings).run' state = .ok artifact ∧
        (run engine state settings isDryRun tree faults).result =
          .ok ⟨settings.minArity, settings.maxArity, artifact.blocks.length,
            artifact.bytes.size, settings.output, !isDryRun⟩ ∧
        if isDryRun then (run engine state settings isDryRun tree faults).tree = tree
        else tree.Replaced settings.output artifact.bytes
          (run engine state settings isDryRun tree faults).tree) ∧
    ∀ report, (run engine state settings false tree faults).result = .ok report →
      ∀ others, (run engine state settings true tree others).result =
        .ok { report with written := false } := by
  constructor
  · intro isDryRun
    rcases run_cases engine state settings isDryRun tree faults with
      ⟨cause, records, failed⟩ | ⟨artifact, valid, built, rfl | ⟨rfl, rfl, location, completes⟩⟩
    · rw [failed]
      exact .inl ⟨cause, rfl, rfl⟩
    · rw [run_dry valid built]
      exact .inr ⟨artifact, built, rfl, rfl⟩
    · obtain ⟨records, done⟩ := run_of_completes completes
      rw [done]
      exact .inr ⟨artifact, built, rfl, FileTree.replaced_of_takes completes.takes⟩
  · intro report h others
    obtain ⟨rfl, artifact, location, completes⟩ := completes_of_run h
    obtain ⟨records, done⟩ := run_of_completes completes
    rw [done] at h
    cases h
    rw [run_dry completes.valid completes.built]
    rfl

theorem run_allOrNothing_in_empty_directory :
    ∃ report,
      (run Engine.placeholder () ⟨1, 1, "out.hpp", .cpp⟩ false
        ⟨[(["work"], .directory false)], ["work"]⟩).result = .ok report ∧
      (run Engine.placeholder () ⟨1, 1, "out.hpp", .cpp⟩ true
        ⟨[(["work"], .directory false)], ["work"]⟩).result =
          .ok { report with written := false } := by
  obtain ⟨artifact, completes⟩ : ∃ artifact, Completes Engine.placeholder ()
      ⟨1, 1, "out.hpp", .cpp⟩ ⟨[(["work"], .directory false)], ["work"]⟩ artifact
      ["work", "out.hpp"] :=
    exists_completes rfl ⟨_, rfl⟩ ⟨⟨_, rfl⟩, rfl⟩
  obtain ⟨records, done⟩ := run_of_completes completes
  have written := congrArg Outcome.result done
  exact ⟨_, written, (run_allOrNothing Engine.placeholder () _ _ .none).2 _ written .none⟩

end FactoryOverloads.Generation
