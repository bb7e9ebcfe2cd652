import FactoryOverloads.Proofs.Partition.Markers
import FactoryOverloads.Signature

/-!
# The plan of a partition

Planning walks the markers once, with a running position and a running index of
the explicit arguments. The index is the rank of the position
(`place_eq`, by induction on the positions left), so that every part of a plan
can be said of the partition itself:

* `call_ofPartition`, `explicitArguments_ofPartition`: the slots and the
  arguments;
* `injectedTypeParameters_ofPartition`, `explicitTypeParameters_ofPartition`:
  the type parameters, which are read off the slots and the arguments;
* `tags_ofPartition`, `key_injective`: the tags of the key spell the markers,
  so that no two partitions share a key.
-/

namespace FactoryOverloads

namespace Partition

/-- The slot of a position: an explicit one takes the argument of its rank. -/
def slot (p : Partition) (position : Nat) : Slot :=
  if p.isExplicit position then .explicitRef (p.explicitBefore position)
  else .injectedResolve position

/-- The positions that are resolved, ascending. -/
def injectedPositions (p : Partition) : List Nat :=
  (List.range p.arity).filter fun position => !p.isExplicit position

theorem slot_of_explicit {p : Partition} {position : Nat} (h : p.isExplicit position = true) :
    p.slot position = .explicitRef (p.explicitBefore position) := by
  simp [slot, h]

theorem slot_of_injected {p : Partition} {position : Nat} (h : p.isExplicit position = false) :
    p.slot position = .injectedResolve position := by
  simp [slot, h]

theorem mem_injectedPositions {p : Partition} {position : Nat} :
    position ∈ p.injectedPositions ↔ position < p.arity ∧ p.isExplicit position = false := by
  simp [injectedPositions]

end Partition

namespace Plan

/-- A walk over the positions from `first` on. What carries the induction is
that the running index is the rank of the running position. -/
theorem place_eq (p : Partition) (first count : Nat) :
    place first (p.explicitBefore first) ((List.range' first count).map p.isExplicit) =
      ((List.range' (p.explicitBefore first)
          (p.explicitBefore (first + count) - p.explicitBefore first)).map argumentName,
        (List.range' first count).map p.slot) := by
  induction count generalizing first with
  | zero => simp [place]
  | succ count ih =>
    have rest := ih (first + 1)
    have more : first + 1 + count = first + (count + 1) := by omega
    have mono := p.explicitBefore_mono (show first + 1 ≤ first + 1 + count by omega)
    rw [more] at rest mono
    rw [List.range'_succ, List.map_cons, List.map_cons]
    rw [p.explicitBefore_succ first] at rest mono
    cases h : p.isExplicit first with
    | true =>
      simp only [h, Bool.toNat_true] at rest mono
      rw [place, rest, Partition.slot_of_explicit h,
        show p.explicitBefore (first + (count + 1)) - p.explicitBefore first =
          p.explicitBefore (first + (count + 1)) - (p.explicitBefore first + 1) + 1 by omega,
        List.range'_succ, List.map_cons]
    | false =>
      simp only [h, Bool.toNat_false, Nat.add_zero] at rest
      rw [place, rest, Partition.slot_of_injected h]

theorem place_markers (p : Partition) :
    place 0 0 p.markers =
      ((List.range p.explicitCount).map argumentName, (List.range p.arity).map p.slot) := by
  have walk := place_eq p 0 p.arity
  rw [p.explicitBefore_zero, Nat.zero_add, Nat.sub_zero, ← p.explicitCount_eq,
    ← List.range_eq_range', ← List.range_eq_range'] at walk
  exact walk

@[simp] theorem arity_ofPartition (p : Partition) : (ofPartition p).arity = p.arity := rfl

@[simp] theorem partition_ofPartition (p : Partition) : (ofPartition p).partition = p := rfl

/-- The call has one slot per position. -/
theorem call_ofPartition (p : Partition) :
    (ofPartition p).call = (List.range p.arity).map p.slot :=
  congrArg Prod.snd (place_markers p)

theorem explicitArguments_ofPartition (p : Partition) :
    (ofPartition p).explicitArguments = (List.range p.explicitCount).map argumentName :=
  congrArg Prod.fst (place_markers p)

theorem length_explicitArguments (p : Partition) :
    (ofPartition p).explicitArguments.length = p.explicitCount := by
  rw [explicitArguments_ofPartition, List.length_map, List.length_range]

theorem injectedTypeParameters_ofPartition (p : Partition) :
    (ofPartition p).injectedTypeParameters = p.injectedPositions.map injectedTypeParameter := by
  rw [injectedTypeParameters, call_ofPartition, List.filter_map, List.map_map,
    Partition.injectedPositions]
  have tags : ((fun slot : Slot => slot.tag == .injected) ∘ p.slot) =
      fun position => !p.isExplicit position := by
    funext position
    cases h : p.isExplicit position <;> simp [Partition.slot, h, Slot.tag]
  rw [tags]
  refine List.map_congr_left fun position mem => ?_
  have injected : p.isExplicit position = false := by simpa using (List.mem_filter.mp mem).2
  rw [Function.comp_apply, Partition.slot_of_injected injected, Slot.typeParameter]

theorem explicitTypeParameters_ofPartition (p : Partition) :
    (ofPartition p).explicitTypeParameters =
      (List.range p.explicitCount).map explicitTypeParameter := by
  rw [explicitTypeParameters, length_explicitArguments]

/-! ## Keys -/

/-- The tags of the key are the markers under another name. -/
theorem tags_ofPartition (p : Partition) :
    (ofPartition p).key.tags =
      p.markers.map fun marker => if marker then .explicit else .injected := by
  show (ofPartition p).call.map Slot.tag = _
  rw [call_ofPartition, Partition.markers, List.map_map, List.map_map]
  refine List.map_congr_left fun position _ => ?_
  cases h : p.isExplicit position <;> simp [Partition.slot, h, Slot.tag]

/-- The key of a plan determines its partition, already by its tags. -/
theorem key_injective : Function.Injective fun p => (ofPartition p).key := by
  intro p q h
  have tags : (ofPartition p).key.tags = (ofPartition q).key.tags := congrArg Key.tags h
  rw [tags_ofPartition, tags_ofPartition] at tags
  refine Partition.markers_injective (List.map_injective_iff.mpr ?_ tags)
  intro first second
  cases first <;> cases second <;> simp

end Plan

end FactoryOverloads
