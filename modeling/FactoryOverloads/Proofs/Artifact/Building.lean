import FactoryOverloads.Proofs.Emission.Frame
import FactoryOverloads.Proofs.Partition.Counting
import FactoryOverloads.Proofs.Signature.Registry

/-!
# What is built

Building goes through the arities, and for each of them through its plans. With
the built-in engine none of the steps fails: the enumeration stays within its
machine word, no partition occurs twice in it, so that the registry refuses no
plan, and every plan is rendered (`Block.ofArity_placeholder`). A whole build is
these steps one after the other (`exists_mapM_ofArity`, by induction on the
arities), and gives the blocks of the marker lists in counting order
(`Artifact.build_placeholder`).
-/

namespace FactoryOverloads

open FactoryOverloads.Partition (markers markerLists markerListsFrom)
open Plan (ofPartition)

variable {State : Type}

namespace Partition

/-- No partition occurs twice in counting order. -/
theorem nodup_markerLists (length : Nat) : (markerLists length).Nodup := by
  refine List.Nodup.of_map value ?_
  rw [map_value_markerLists]
  exact List.nodup_range

theorem nodup_of_map_markers {ps : List Partition} {length : Nat}
    (h : ps.map markers = markerLists length) : ps.Nodup :=
  .of_map markers (h ▸ nodup_markerLists length)

end Partition

/-- The plans of an arity pass the check. -/
theorem Plan.ofArity_eq {arity : Nat} (h : arity ≤ 32) :
    ∃ ps : List Partition, ps.map markers = markerLists arity ∧
      Plan.ofArity arity = .ok (ps.map ofPartition) := by
  obtain ⟨ps, all, order⟩ := Partition.all_markers h
  refine ⟨ps, order, ?_⟩
  have check := (Registry.check_ofPartition ps).mpr (Partition.nodup_of_map_markers order)
  rw [Plan.ofArity, Plan.all, all]
  show Except.bind (Registry.check (ps.map ofPartition)) _ = _
  rw [check]
  rfl

theorem Block.renderAll_ofPartition (target : Target) (ps : List Partition) (s : State) :
    Block.renderAll Engine.placeholder target (ps.map ofPartition) s =
      .ok (ps.map target.block, s) := by
  rw [Block.renderAll, List.mapM_map]
  exact congrFun (mapM_eq_pure fun p _ => funext (Block.render_ofPartition target p)) s

/-- Each block is that of the plan at its place. -/
theorem Block.forall₂_render_ofPartition (target : Target) (ps : List Partition) :
    List.Forall₂
      (fun plan block => Block.render Engine.placeholder target plan () = .ok (block, ()))
      (ps.map ofPartition) (ps.map target.block) := by
  rw [List.forall₂_map_left_iff, List.forall₂_map_right_iff, List.forall₂_same]
  exact fun p _ => Block.render_ofPartition target p ()

/-- The blocks of an arity are those of its plans, rendered one after the other. -/
theorem Block.ofArity_eq_mapM (engine : Engine State) (target : Target) {arity : Nat}
    {plans : List Plan} (h : Plan.ofArity arity = .ok plans) :
    Block.ofArity engine target arity = plans.mapM (Block.render engine target) := by
  rw [Block.ofArity, h]
  rfl

/-- The blocks of an arity are those of its marker lists in counting order. -/
theorem Block.ofArity_placeholder (target : Target) {arity : Nat} (h : arity ≤ 32) (s : State) :
    ∃ ps : List Partition, ps.map markers = markerLists arity ∧
      Block.ofArity Engine.placeholder target arity s = .ok (ps.map target.block, s) := by
  obtain ⟨ps, order, plans⟩ := Plan.ofArity_eq h
  refine ⟨ps, order, ?_⟩
  rw [Block.ofArity_eq_mapM _ target plans]
  exact Block.renderAll_ofPartition target ps s

/-- A run over arities, by induction on them: each adds its blocks and leaves
the state alone. -/
theorem exists_mapM_ofArity (target : Target) (arities : List Nat)
    (h : ∀ arity ∈ arities, arity ≤ 32) (s : State) :
    ∃ (blocks : List (List Block)) (ps : List Partition),
      arities.mapM (Block.ofArity Engine.placeholder target) s = .ok (blocks, s) ∧
      ps.map markers = arities.flatMap markerLists ∧ blocks.flatten = ps.map target.block := by
  induction arities with
  | nil => exact ⟨[], [], rfl, rfl, rfl⟩
  | cons arity arities ih =>
    obtain ⟨head, tail⟩ := List.forall_mem_cons.mp h
    obtain ⟨here, order, step⟩ := Block.ofArity_placeholder target head s
    obtain ⟨blocks, ps, run, orders, rest⟩ := ih tail
    refine ⟨here.map target.block :: blocks, here ++ ps, ?_, ?_, ?_⟩
    · rw [List.mapM_cons]
      show Except.bind (Block.ofArity Engine.placeholder target arity s) _ = _
      rw [step]
      show Except.bind (arities.mapM (Block.ofArity Engine.placeholder target) s) _ = _
      rw [run]
      rfl
    · rw [List.map_append, order, orders, List.flatMap_cons]
    · rw [List.flatten_cons, rest, List.map_append]

namespace Settings

/-- The bounds are valid exactly when there is an arity, and none that is not
supported. -/
theorem validate_eq_ok_iff (settings : Settings) :
    settings.validate = .ok () ↔ 1 ≤ settings.maxArity ∧ settings.maxArity ≤ 20 ∧
      settings.minArity ≤ settings.maxArity := by
  unfold validate
  rw [show maxSupportedArity = 20 from rfl]
  split
  · simp only [reduceCtorEq, false_iff]
    omega
  · split
    · simp only [reduceCtorEq, false_iff]
      omega
    · split
      · simp only [reduceCtorEq, false_iff]
        omega
      · simp only [true_iff]
        omega

/-- Valid bounds allow no arity that a partition cannot have. -/
theorem le_of_mem_arities {settings : Settings} (h : settings.validate = .ok ()) {arity : Nat}
    (member : arity ∈ settings.arities) : arity ≤ 32 := by
  obtain ⟨-, supported, ordered⟩ := settings.validate_eq_ok_iff.mp h
  have bounded := (List.mem_range'_1.mp member).2
  omega

end Settings

namespace Artifact

theorem foldl_extend (blocks : List (List Block)) (artifact : Artifact) :
    blocks.foldl extend artifact =
      { artifact with blocks := artifact.blocks ++ blocks.flatten } := by
  induction blocks generalizing artifact with
  | nil => simp
  | cons head tail ih => rw [List.foldl_cons, ih]; simp [extend]

/-- Settings that are not valid are refused before anything is rendered. -/
theorem build_of_validate_error {engine : Engine State} {settings : Settings} {cause : Failure}
    (h : settings.validate = .error cause) (s : State) :
    build engine settings s = .error cause := by
  unfold build
  rw [h]
  rfl

/-- The artifact of valid settings: a frame around the blocks of the marker
lists in counting order. -/
theorem build_placeholder {settings : Settings} (h : settings.validate = .ok ()) (s : State) :
    ∃ ps : List Partition,
      ps.map markers = markerListsFrom settings.minArity
        (settings.maxArity + 1 - settings.minArity) ∧
      build Engine.placeholder settings s =
        .ok (⟨settings.target.prologueText settings.minArity settings.maxArity,
          ps.map settings.target.block, settings.target.epilogue⟩, s) := by
  obtain ⟨blocks, ps, run, order, flat⟩ :=
    exists_mapM_ofArity settings.target settings.arities (fun _ => Settings.le_of_mem_arities h) s
  refine ⟨ps, order, ?_⟩
  have frame := renderFrame_placeholder settings.target settings.minArity settings.maxArity s
  unfold build
  rw [h]
  show Except.bind
    (settings.arities.mapM (Block.ofArity Engine.placeholder settings.target) s) _ = _
  rw [run]
  show Except.bind (renderFrame Engine.placeholder settings.target _ _ s) _ = _
  rw [frame]
  show Except.ok (blocks.foldl extend (Artifact.frame _ _), s) = _
  rw [foldl_extend, flat]
  rfl

end Artifact

end FactoryOverloads
