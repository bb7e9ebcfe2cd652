import Mathlib.Tactic.TFAE
import FactoryOverloads.Proofs.Artifact.Building
import FactoryOverloads.Proofs.Emission.Signature

/-!
# No two overloads with one signature

Overloads are told apart by keys before they are emitted, and by their
signatures afterwards. Both determine the partition, so the check of the keys
passes exactly when the signatures of either target differ from one another
(`Registry.check_tfae`). An artifact holds every partition once, and therefore
defines no signature twice.
-/

namespace FactoryOverloads

open Plan (ofPartition)

/-- The text bound to a name in the templates of a plan. -/
def Target.bound? (target : Target) (name : String) (plan : Plan) : Option String :=
  (target.planBindings plan).toOption.bind fun bindings => bindings.find? name

theorem Target.bound?_name (p : Partition) :
    bound? .rust "name" (ofPartition p) = some (functionName (ofPartition p)) := by
  rw [bound?, planBindings_ofPartition]
  exact find?_name p

theorem Target.bound?_params (p : Partition) :
    bound? .cpp "params" (ofPartition p) =
      some (commaSeparated (parameters (ofPartition p) .cpp)) := by
  rw [bound?, planBindings_ofPartition]
  exact find?_params .cpp p

/-- The signatures that the definitions of an artifact show differ from one
another. -/
theorem Artifact.nodup_signatures {settings : Settings} (h : settings.validate = .ok ()) :
    ∃ (artifact : Artifact) (signatures : List String),
      build Engine.placeholder settings () = .ok (artifact, ()) ∧
        artifact.blocks.map (fun block => settings.target.signature? block.definition) =
          signatures.map some ∧
        signatures.Nodup := by
  obtain ⟨ps, order, built⟩ := build_placeholder h ()
  have nodup : ps.Nodup := by
    refine .of_map Partition.markers (.of_map (Partition.placeFrom settings.minArity) ?_)
    rw [order, Partition.map_placeFrom_markerListsFrom]
    exact List.nodup_range
  refine ⟨_, ps.map fun p => Target.signature p settings.target, built, ?_,
    nodup.map (Target.signature_injective settings.target)⟩
  show (ps.map settings.target.block).map _ = _
  rw [List.map_map, List.map_map]
  exact List.map_congr_left fun p _ => Target.signature?_definitionText settings.target p

/-- For partitions of any arities, the check of the keys, the `rust` names and
the `cpp` parameter lists all find the same repetitions, and the artifact of
valid settings has none. -/
theorem Registry.check_tfae :
    (∀ ps : List Partition, ∃ names parameterLists : List String,
      ps.map (fun p => Target.bound? .rust "name" (ofPartition p)) = names.map some ∧
      ps.map (fun p => Target.bound? .cpp "params" (ofPartition p)) = parameterLists.map some ∧
      List.TFAE [check (ps.map ofPartition) = .ok (), ps.Nodup, names.Nodup,
        parameterLists.Nodup]) ∧
    ∀ settings : Settings, settings.validate = .ok () →
      ∃ (artifact : Artifact) (signatures : List String),
        Artifact.build Engine.placeholder settings () = .ok (artifact, ()) ∧
          artifact.blocks.map (fun block => settings.target.signature? block.definition) =
            signatures.map some ∧
          signatures.Nodup := by
  refine ⟨fun ps => ⟨ps.map fun p => Target.functionName (ofPartition p),
    ps.map fun p => commaSeparated (Target.parameters (ofPartition p) .cpp), ?names, ?lists, ?_⟩,
    fun settings h => Artifact.nodup_signatures h⟩
  case names =>
    rw [List.map_map]
    exact List.map_congr_left fun p _ => Target.bound?_name p
  case lists =>
    rw [List.map_map]
    exact List.map_congr_left fun p _ => Target.bound?_params p
  tfae_have 1 ↔ 2 := check_ofPartition ps
  tfae_have 3 ↔ 2 := List.nodup_map_iff Target.functionName_injective
  tfae_have 4 ↔ 2 := List.nodup_map_iff Target.parameters_injective
  tfae_finish

theorem Registry.check_tfae_up_to_three :
    ∃ (artifact : Artifact) (signatures : List String),
      Artifact.build Engine.placeholder ⟨1, 3, "out.rs", .rust⟩ () = .ok (artifact, ()) ∧
        artifact.blocks.map (fun block => Target.signature? .rust block.definition) =
          signatures.map some ∧
        signatures.Nodup :=
  check_tfae.2 ⟨1, 3, "out.rs", .rust⟩ rfl

end FactoryOverloads
