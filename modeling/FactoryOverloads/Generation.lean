import FactoryOverloads.Artifact.Build
import FactoryOverloads.Artifact.Write
import FactoryOverloads.Settings.File

/-!
# Generation runs

A run checks its settings and its destination, builds the artifact, and writes it. A dry run goes
through the same steps without looking at the destination and without writing.
-/

namespace FactoryOverloads.Generation

attribute [local instance (high)] instPowNat

/-- The summary of a run. -/
structure Report where
  minArity : Nat
  maxArity : Nat
  overloads : Nat
  /-- The size of the artifact. -/
  bytes : Nat
  destination : String
  /-- Whether the artifact was written. -/
  written : Bool
  deriving DecidableEq, Repr

variable {State : Type}

/-- What building the artifact of settings reports. -/
def buildRecords (settings : Settings) (artifact : Artifact) : List Record :=
  (settings.arities.flatMap fun arity =>
    [.keysUnique (2 ^ arity), .arityPlanned arity (2 ^ arity)]) ++
      [.planned artifact.size settings.minArity settings.maxArity]

/-- The summary of a run that made an artifact. -/
def report (settings : Settings) (artifact : Artifact) (bytes : Nat) (written : Bool) : Report where
  minArity := settings.minArity
  maxArity := settings.maxArity
  overloads := artifact.size
  bytes := bytes
  destination := settings.output
  written := written

/-- Run the generator with an engine in a state. `faults` are the steps of the write that the system
refuses, which a dry run does not take. -/
def run (engine : Engine State) (state : State) (settings : Settings) (isDryRun : Bool)
    (tree : FileTree) (faults : Faults := .none) : Outcome Report :=
  match settings.validate with
  | .error cause => .failed cause [] tree
  | .ok () =>
    match if isDryRun then .ok [] else settings.checkDestination tree with
    | .error cause => .failed cause [] tree
    | .ok warnings =>
      match (Artifact.build engine settings).run' state with
      | .error cause => .failed cause warnings tree
      | .ok artifact =>
        let records := warnings ++ buildRecords settings artifact
        if isDryRun then ⟨.ok (report settings artifact artifact.byteCount false), records, tree⟩
        else
          let written := artifact.writeWith faults settings.output tree
          match written.result with
          | .error cause => .failed cause (records ++ written.records) written.tree
          | .ok bytes =>
            ⟨.ok (report settings artifact bytes true),
              records ++ written.records ++ [.wrote bytes settings.output], written.tree⟩

end FactoryOverloads.Generation
