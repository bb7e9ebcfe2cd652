import FactoryOverloads.Proofs.Partition.Word
import FactoryOverloads.Proofs.Signature.Planning

/-!
# Reading a plan back

A plan says four times which positions are explicit: by its partition, by the
slots of its call, by the tags of its key and by the number of its arguments
(`Plan.Describes`). The number is kept beside the tags, and was counted in the
walk over the markers; that it is the number of the tags and of the set bits of
the partition is `count_tags`.

The tags alone and the call alone give back the partition
(`Partition.ofTags_ofPartition`, `Partition.ofCall_ofPartition`), so that no
partition is lost in planning (`Plan.ofPartition_invertible`).
-/

namespace FactoryOverloads

namespace Partition

/-- The partition with the given tags. -/
def ofTags (tags : List Tag) : Except Defect Partition :=
  ofMarkers (tags.map (· == .explicit))

/-- The partition of the slots of a call. -/
def ofCall (call : List Slot) : Except Defect Partition :=
  ofTags (call.map Slot.tag)

theorem ofTags_ofPartition (p : Partition) : ofTags (Plan.ofPartition p).key.tags = .ok p := by
  have markers : (Plan.ofPartition p).key.tags.map (· == .explicit) = p.markers := by
    rw [Plan.tags_ofPartition, List.map_map]
    refine (List.map_congr_left fun marker _ => ?_).trans (List.map_id _)
    cases marker <;> rfl
  rw [ofTags, markers, ofMarkers_markers]

theorem ofCall_ofPartition (p : Partition) : ofCall (Plan.ofPartition p).call = .ok p :=
  ofTags_ofPartition p

end Partition

namespace Plan

/-- The explicit tags of a key are as many as the explicit positions. -/
theorem count_tags (p : Partition) :
    (ofPartition p).key.tags.count .explicit = p.explicitCount := by
  rw [tags_ofPartition, Partition.explicitCount_eq_count, List.count, List.countP_map, List.count]
  refine List.countP_congr fun marker _ => ?_
  cases marker <;> simp

/-- What a plan says of a partition. The rank of an explicit position is the
number of explicit positions before it. -/
structure Describes (plan : Plan) (p : Partition) : Prop where
  arity : plan.arity = p.arity
  partition : plan.partition = p
  size : plan.call.length = p.arity
  slot : ∀ position < p.arity, plan.call[position]? = some
    (if p.isExplicit position then .explicitRef (p.explicitBefore position)
      else .injectedResolve position)
  arguments : plan.explicitArguments = (List.range p.explicitCount).map argumentName
  populated : p.explicitCount = p.word.cpop.toNat
  count : plan.key.explicitCount = p.explicitCount
  tagged : plan.key.tags.count .explicit = p.explicitCount
  tags : plan.key.tags = plan.call.map Slot.tag
  injected : plan.injectedTypeParameters =
    ((List.range p.arity).filter fun position => !p.isExplicit position).map injectedTypeParameter

theorem describes_ofPartition (p : Partition) : (ofPartition p).Describes p where
  arity := rfl
  partition := rfl
  size := by rw [call_ofPartition, List.length_map, List.length_range]
  slot position below := by
    rw [call_ofPartition, List.getElem?_map, List.getElem?_range below]
    rfl
  arguments := explicitArguments_ofPartition p
  populated := p.toNat_cpop_word.symm
  count := length_explicitArguments p
  tagged := count_tags p
  tags := rfl
  injected := injectedTypeParameters_ofPartition p

/-- The plan of a partition describes it and gives it back, by its tags alone
and by its call alone. Plans share a key when they are of one partition. -/
theorem ofPartition_invertible :
    (∀ p : Partition, (ofPartition p).Describes p ∧
      Partition.ofTags (ofPartition p).key.tags = .ok p ∧
      Partition.ofCall (ofPartition p).call = .ok p) ∧
    ∀ p q : Partition, (ofPartition p).key = (ofPartition q).key ↔ p = q :=
  ⟨fun p => ⟨describes_ofPartition p, p.ofTags_ofPartition, p.ofCall_ofPartition⟩,
    fun _ _ => key_injective.eq_iff⟩

end Plan

end FactoryOverloads
