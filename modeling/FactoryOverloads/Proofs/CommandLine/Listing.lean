import FactoryOverloads.CommandLine.Run
import FactoryOverloads.Proofs.Artifact.Building
import FactoryOverloads.Proofs.Emission.Signature
import FactoryOverloads.Proofs.Signature.Listing

/-!
# What is listed

The listing of an arity is made apart from the artifact, from plans of its own. They
are the plans that the generator makes, in the same order (`plansFor_eq`). So what a
listing shows, line by line, is what the blocks of the arity are rendered from, one
after the other, with any engine and for any target, and the built-in engine makes a
different block of each (`Lists`, `listing_shows_plans`).
-/

namespace FactoryOverloads.CommandLine

open FactoryOverloads.Partition (markers markerLists)
open Listing (Row heading plan?)
open Plan (ofPartition)

/-- A listing and the generator make the same plans, each in its own way, for an arity
that is supported. -/
theorem plansFor_eq (arity : Nat) :
    plansFor arity =
      if Settings.maxSupportedArity < arity then .error (.arityTooLarge arity)
      else (Plan.ofArity arity).mapError .generation := by
  unfold plansFor
  split
  · rfl
  · unfold Plan.ofArity Plan.all Partition.all
    cases Enumeration.ofArity arity with
    | error cause => rfl
    | ok enumeration =>
      show ((Registry.check _).mapError _ >>= _) = (Registry.check _ >>= _).mapError _
      cases Registry.check (enumeration.toList.map ofPartition) with
      | error cause => rfl
      | ok _ => rfl

/-- The plans of an arity, the lines that list them, and the blocks that are rendered
from them. -/
structure Lists (arity : Nat) (plans : List Plan) (lines : List String) : Prop where
  listed : plansFor arity = .ok plans
  /-- The generator checks the same plans. -/
  checked : Plan.ofArity arity = .ok plans
  /-- The plans are those of all partitions, in counting order. -/
  order : plans.map (fun plan => plan.partition.markers) = markerLists arity
  planned : ∀ plan ∈ plans, plan = ofPartition plan.partition
  /-- The plans are rendered one after the other, whatever the engine does with them. -/
  rendered {State : Type} (engine : Engine State) (target : Target) :
    Block.ofArity engine target arity = plans.mapM (Block.render engine target)
  /-- The built-in engine makes a block of every plan, and a different one of each. -/
  blocks (target : Target) : ∃ blocks,
    Block.ofArity Engine.placeholder target arity () = .ok (blocks, ()) ∧
      List.Forall₂
        (fun plan block => Block.render Engine.placeholder target plan () = .ok (block, ()))
        plans blocks ∧
      blocks.Nodup
  printed (tree : FileTree) : run tree (.plan arity .text) =
    .printed (.text (Listing.text arity plans ++ "\n")) [.keysUnique plans.length] tree
  split : Text.split '\n' (Listing.text arity plans) = heading arity plans.length :: "" :: lines
  shown : ∃ column, List.Forall₂ (fun plan line => (Row.ofPlan plan).Shown column line) plans lines
  /-- A line tells its plan. -/
  read : lines.map plan? = plans.map some
  distinct : lines.Nodup
  count : lines.length = 2 ^ arity

theorem plansFor_of_ofArity {arity : Nat} {plans : List Plan} (supported : arity ≤ 20)
    (h : Plan.ofArity arity = .ok plans) : plansFor arity = .ok plans := by
  have inside : ¬ Settings.maxSupportedArity < arity := Nat.not_lt.mpr supported
  rw [plansFor_eq, if_neg inside, h]
  rfl

theorem runPlan_of_plansFor {arity : Nat} {plans : List Plan} (h : plansFor arity = .ok plans)
    (format : ListingFormat) (tree : FileTree) :
    run tree (.plan arity format) =
      .printed (.text (listPlans arity plans format ++ "\n")) [.keysUnique plans.length] tree := by
  rw [run, runPlan, h]

theorem lists_ofPartition {arity : Nat} {ps : List Partition} (supported : arity ≤ 20)
    (order : ps.map markers = markerLists arity)
    (h : Plan.ofArity arity = .ok (ps.map ofPartition)) :
    Lists arity (ps.map ofPartition) (Listing.lines (ps.map ofPartition)) where
  listed := plansFor_of_ofArity supported h
  checked := h
  order := by
    rw [List.map_map, ← order]
    rfl
  planned := List.forall_mem_map.mpr fun _ _ => rfl
  rendered engine target := Block.ofArity_eq_mapM engine target h
  blocks target := by
    rw [Block.ofArity_eq_mapM _ target h]
    exact ⟨ps.map target.block, Block.renderAll_ofPartition target ps (),
      Block.forall₂_render_ofPartition target ps,
      (Partition.nodup_of_map_markers order).map (Target.block_injective target)⟩
  printed := runPlan_of_plansFor (plansFor_of_ofArity supported h) .text
  split := by rw [Listing.split_text, List.length_map]
  shown := ⟨_, Listing.shown_lines _⟩
  read := Listing.read_lines ps
  distinct := by
    have plans : (ps.map ofPartition).Nodup :=
      (Partition.nodup_of_map_markers order).map fun p q same => congrArg Plan.partition same
    refine List.Nodup.of_map plan? ?_
    rw [Listing.read_lines]
    exact plans.map (Option.some_injective Plan)
  count := by
    have sizes := congrArg List.length order
    rw [List.length_map, Partition.length_markerLists] at sizes
    rw [Listing.lines, List.length_map, List.length_map, List.length_map, sizes]

/-- Whatever plans are listed, there is a line for each of them in order, with all
its cells, and the arrows stand in one column. For every supported arity the listing
is printed, shows the plans of which the blocks are rendered, and its lines differ
and tell their plans. -/
theorem listing_shows_plans :
    (∀ (arity : Nat) (plans : List Plan), ∃ (column : Nat) (lines : List String),
      Listing.text arity plans =
        "\n".intercalate (heading arity plans.length :: "" :: lines) ∧
      List.Forall₂ (fun plan line => (Row.ofPlan plan).Shown column line) plans lines) ∧
    ∀ arity ≤ 20, ∃ plans lines, Lists arity plans lines := by
  refine ⟨fun arity plans => ?_, fun arity supported => ?_⟩
  · exact ⟨_, Listing.lines plans, Listing.text_eq arity plans, Listing.shown_lines plans⟩
  · obtain ⟨ps, order, plans⟩ := Plan.ofArity_eq (Nat.le_trans supported (by decide))
    exact ⟨_, _, lists_ofPartition supported order plans⟩

/-- The listing of two positions. -/
theorem listing_shows_plans_of_two_positions :
    let lines := [
      "  00  II/0  ()            -> (resolve<T0>, resolve<T1>)",
      "  01  IE/1  (arg0)        -> (resolve<T0>, arg0)",
      "  10  EI/1  (arg0)        -> (arg0, resolve<T1>)",
      "  11  EE/2  (arg0, arg1)  -> (arg0, arg1)"]
    2 ≤ 20 ∧ ∃ plans, Lists 2 plans lines := by
  intro lines
  obtain ⟨plans, listed, lists⟩ := listing_shows_plans.2 2 (by decide)
  let ps : List Partition := [⟨2, 0, by decide, by decide⟩, ⟨2, 1, by decide, by decide⟩,
    ⟨2, 2, by decide, by decide⟩, ⟨2, 3, by decide, by decide⟩]
  have planned : Plan.ofArity 2 = .ok (ps.map ofPartition) := rfl
  have shown : Listing.lines (ps.map ofPartition) = lines := by decide +kernel
  obtain rfl : plans = ps.map ofPartition := Except.ok.inj (lists.checked.symm.trans planned)
  have same := lists.split.symm.trans (Listing.split_text 2 ps)
  have last := (List.cons.inj (List.cons.inj same).2).2.trans shown
  exact ⟨by decide, _, last ▸ lists⟩

end FactoryOverloads.CommandLine
