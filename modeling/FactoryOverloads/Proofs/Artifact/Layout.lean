import FactoryOverloads.Proofs.Artifact.Building
import FactoryOverloads.Proofs.Emission.Signature

/-!
# The layout of an artifact

The blocks of an artifact are in bijection with the marker lists of the
generated lengths (`Artifact.Covers`): each list has its block at one place,
which is known from its length and the number it spells, and nowhere else, and
every place belongs to a list. That no block occurs at a second place is because
blocks of different partitions differ (`Target.block_injective`). The text is
the prologue, the declarations, the definitions and the epilogue
(`Artifact.bytes_eq`), and the blocks of one arity stand in counting order
(`Block.InCountingOrder`).
-/

namespace FactoryOverloads

open FactoryOverloads.Partition (value markerLists markerListsFrom placeFrom)
open Plan (ofPartition)

/-- The bytes of a text in UTF-8. -/
def utf8 (text : String) : List UInt8 := text.toUTF8.data.toList

theorem utf8_append (first second : String) :
    utf8 (first ++ second) = utf8 first ++ utf8 second := by
  simp [utf8]

theorem utf8_join (texts : List String) : utf8 (String.join texts) = texts.flatMap utf8 := by
  induction texts with
  | nil => rfl
  | cons text texts ih => rw [String.join_cons, utf8_append, ih, List.flatMap_cons]

namespace Block

/-- The block is what the plan of the markers is rendered to. -/
def IsOf (target : Target) (markers : List Bool) (block : Block) : Prop :=
  ∃ p, Partition.ofMarkers markers = .ok p ∧
    Block.render Engine.placeholder target (ofPartition p) () = .ok (block, ())

/-- The blocks are those of the marker lists of an arity, in counting order. -/
structure InCountingOrder (target : Target) (arity : Nat) (blocks : List Block) : Prop where
  size : blocks.length = 2 ^ arity
  placed : ∀ markers : List Bool, markers.length = arity →
    ∃ block, blocks[value markers]? = some block ∧ IsOf target markers block

theorem isOf_markers (target : Target) (p : Partition) : IsOf target p.markers (target.block p) :=
  ⟨p, Partition.ofMarkers_markers p, render_ofPartition target p ()⟩

end Block

/-- A block has a declaration when its target has a template for it. -/
theorem Target.isSome_declaration (target : Target) (p : Partition) :
    (target.block p).declaration.isSome = target.declaration?.isSome := by
  cases target with
  | cpp =>
    show (declarationText? p .cpp).isSome = (declaration? .cpp).isSome
    unfold declarationText? declaration?
    exact Option.isSome_some.trans Option.isSome_some.symm
  | rust => rfl

namespace Artifact

/-- The artifact has one block for every marker list of the generated lengths,
each at its own place, and is written with all declarations before all
definitions. -/
structure Covers (artifact : Artifact) (settings : Settings) : Prop where
  size : artifact.size = 2 ^ (settings.maxArity + 1) - 2 ^ settings.minArity
  placed : ∀ markers : List Bool,
    settings.minArity ≤ markers.length → markers.length ≤ settings.maxArity →
      ∃ block, Block.IsOf settings.target markers block ∧ ∀ i : Nat,
        artifact.blocks[i]? = some block ↔
          i = (2 ^ markers.length - 2 ^ settings.minArity) + value markers
  only : ∀ i < artifact.size, ∃ markers : List Bool,
    settings.minArity ≤ markers.length ∧ markers.length ≤ settings.maxArity ∧
      i = (2 ^ markers.length - 2 ^ settings.minArity) + value markers
  prologue : Template.render settings.target.prologue
    (Target.frameBindings settings.minArity settings.maxArity) = .ok artifact.prologue
  declared : ∀ block ∈ artifact.blocks,
    block.declaration.isSome = settings.target.declaration?.isSome
  epilogue : Template.render settings.target.epilogue
    (Target.frameBindings settings.minArity settings.maxArity) = .ok artifact.epilogue
  bytes : artifact.bytes.data.toList =
    utf8 artifact.prologue ++ (declarations artifact.blocks).flatMap utf8 ++
      (definitions artifact.blocks).flatMap utf8 ++ utf8 artifact.epilogue

/-- The bytes of an artifact, part by part. -/
theorem bytes_eq (artifact : Artifact) :
    artifact.bytes.data.toList =
      utf8 artifact.prologue ++ (declarations artifact.blocks).flatMap utf8 ++
        (definitions artifact.blocks).flatMap utf8 ++ utf8 artifact.epilogue := by
  show utf8 (String.join artifact.parts) = _
  rw [utf8_join, parts]
  simp only [List.flatMap_append, List.flatMap_singleton]

/-- A block stands where its partition stands, and nowhere else. -/
theorem getElem?_map_block {target : Target} {ps : List Partition} {p : Partition} {i : Nat} :
    (ps.map target.block)[i]? = some (target.block p) ↔
      (ps.map Partition.markers)[i]? = some p.markers := by
  rw [List.getElem?_map, List.getElem?_map, ← Option.map_some, ← Option.map_some,
    (Option.map_injective target.block_injective).eq_iff,
    (Option.map_injective Partition.markers_injective).eq_iff]

theorem covers_of_markers {settings : Settings} (ordered : settings.minArity ≤ settings.maxArity)
    (most : settings.maxArity ≤ 20) {ps : List Partition} (order : ps.map Partition.markers =
      markerListsFrom settings.minArity (settings.maxArity + 1 - settings.minArity)) :
    Covers ⟨settings.target.prologueText settings.minArity settings.maxArity,
      ps.map settings.target.block, settings.target.epilogue⟩ settings := by
  have last : settings.minArity + (settings.maxArity + 1 - settings.minArity) =
      settings.maxArity + 1 := by omega
  have size : ps.length = 2 ^ (settings.maxArity + 1) - 2 ^ settings.minArity := by
    rw [← List.length_map (f := Partition.markers), order, Partition.length_markerListsFrom, last]
  refine ⟨?size, fun markers least bound => ?placed, fun i below => ?only,
    Target.render_prologue _ _ _, ?declared, Target.render_epilogue _ _, bytes_eq _⟩
  case size => exact (List.length_map _).trans size
  case placed =>
    obtain ⟨p, built⟩ := Partition.exists_ofMarkers (show markers.length ≤ 32 by omega)
    have own := Partition.markers_ofMarkers built
    refine ⟨settings.target.block p, own ▸ Block.isOf_markers _ p, fun i => ?_⟩
    rw [getElem?_map_block, order, own, Partition.markerListsFrom_getElem?, last]
    exact ⟨fun h => h.2.symm, fun h => ⟨⟨least, Nat.lt_succ_of_le bound⟩, h.symm⟩⟩
  case only =>
    have inside : i < (markerListsFrom settings.minArity
        (settings.maxArity + 1 - settings.minArity)).length := by
      rw [Partition.length_markerListsFrom, last, ← size]
      simpa [Artifact.size] using below
    obtain ⟨⟨least, bound⟩, place⟩ :=
      Partition.markerListsFrom_getElem?.mp (List.getElem?_eq_getElem inside)
    exact ⟨_, least, by omega, place.symm⟩
  case declared =>
    exact List.forall_mem_map.mpr fun p _ => Target.isSome_declaration settings.target p

end Artifact

namespace Block

theorem inCountingOrder_of_markers {target : Target} {arity : Nat} (h : arity ≤ 32)
    {ps : List Partition} (order : ps.map Partition.markers = markerLists arity) :
    InCountingOrder target arity (ps.map target.block) := by
  refine ⟨?size, fun markers length => ?placed⟩
  case size =>
    rw [List.length_map, ← List.length_map (f := Partition.markers), order,
      Partition.length_markerLists]
  case placed =>
    obtain ⟨p, built⟩ := Partition.exists_ofMarkers (show markers.length ≤ 32 by omega)
    have own := Partition.markers_ofMarkers built
    refine ⟨target.block p, ?_, own ▸ isOf_markers target p⟩
    rw [Artifact.getElem?_map_block, order, own]
    exact Partition.markerLists_getElem?.mpr ⟨length, rfl⟩

end Block

/-- Valid settings have an artifact, whose blocks are those of the marker lists
of the generated lengths, each once and in counting order. The blocks of one
arity are those of its marker lists, up to the largest arity of a partition. -/
theorem Artifact.build_covers :
    (∀ settings : Settings, settings.minArity ≤ settings.maxArity → 1 ≤ settings.maxArity →
      settings.maxArity ≤ 20 → ∃ artifact,
        build Engine.placeholder settings () = .ok (artifact, ()) ∧ artifact.Covers settings) ∧
    ∀ (target : Target) (arity : Nat), arity ≤ 32 → ∃ blocks,
      Block.ofArity Engine.placeholder target arity () = .ok (blocks, ()) ∧
        Block.InCountingOrder target arity blocks := by
  constructor
  · intro settings ordered least most
    have valid := settings.validate_eq_ok_iff.mpr ⟨least, most, ordered⟩
    obtain ⟨ps, order, built⟩ := build_placeholder valid ()
    exact ⟨_, built, covers_of_markers ordered most order⟩
  · intro target arity h
    obtain ⟨ps, order, built⟩ := Block.ofArity_placeholder target h ()
    exact ⟨_, built, Block.inCountingOrder_of_markers h order⟩

theorem Artifact.build_covers_up_to_two :
    (∃ artifact, build Engine.placeholder ⟨0, 2, "out.hpp", .cpp⟩ () = .ok (artifact, ()) ∧
      artifact.size = 7 ∧
      ∃ block, Block.IsOf .cpp [true, false] block ∧ artifact.blocks[5]? = some block) ∧
    ∃ blocks, Block.ofArity Engine.placeholder .rust 2 () = .ok (blocks, ()) ∧
      ∃ block, Block.IsOf .rust [true, false] block ∧ blocks[2]? = some block := by
  constructor
  · obtain ⟨artifact, built, covers⟩ :=
      build_covers.1 ⟨0, 2, "out.hpp", .cpp⟩ (by decide) (by decide) (by decide)
    obtain ⟨block, own, place⟩ := covers.placed [true, false] (by decide) (by decide)
    exact ⟨artifact, built, covers.size, block, own, (place 5).mpr (by decide)⟩
  · obtain ⟨blocks, built, order⟩ := build_covers.2 .rust 2 (by decide)
    obtain ⟨block, place, own⟩ := order.placed [true, false] rfl
    exact ⟨blocks, built, block, own, place⟩

end FactoryOverloads
