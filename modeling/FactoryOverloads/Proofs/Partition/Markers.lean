import Mathlib.Data.List.Range
import Mathlib.Data.Nat.Bitwise
import FactoryOverloads.Partition

/-!
# The markers of a partition

A partition is stored as a number and read as a list of markers. The two views
determine each other:

* `testBit_value`: a bit of the number that markers spell is a marker;
* `ofMarkers_markers`, `markers_ofMarkers`: reading the markers of a partition
  and building the partition of markers are inverse to each other, so
  `markers_injective` and `pattern_injective`;
* `explicitCount_eq`: the set bits are as many as the explicit positions.

The rank of a position (`explicitBefore`) is the number of explicit positions
before it. The ranks of the explicit positions are `0, 1, 2, …`, each once and
in order (`map_explicitBefore`).
-/

namespace FactoryOverloads.Partition

/-! ## Markers and bits -/

/-- What is spelled so far moves up by as many bits as there are markers left. -/
theorem foldl_value (markers : List Bool) (number : Nat) :
    markers.foldl (fun n m => 2 * n + m.toNat) number =
      2 ^ markers.length * number + value markers := by
  induction markers generalizing number with
  | nil => simp [value]
  | cons marker markers ih =>
    simp only [value, List.foldl_cons, List.length_cons, Nat.mul_zero, Nat.zero_add]
    rw [ih, ih marker.toNat, Nat.pow_succ, Nat.mul_add, ← Nat.mul_assoc, Nat.add_assoc]

theorem value_cons (marker : Bool) (markers : List Bool) :
    value (marker :: markers) = 2 ^ markers.length * marker.toNat + value markers := by
  rw [← foldl_value]
  simp [value]

/-- The marker of a position is the bit that lies as far from the top as the
position from the front. -/
theorem testBit_value (markers : List Bool) {position : Nat} (h : position < markers.length) :
    (value markers).testBit (markers.length - 1 - position) = markers[position] := by
  induction markers generalizing position with
  | nil => simp at h
  | cons marker markers ih =>
    rw [value_cons, Nat.testBit_two_pow_mul_add _ (value_lt markers)]
    cases position with
    | zero => cases marker <;> simp
    | succ position =>
      simp only [List.length_cons, Nat.add_lt_add_iff_right] at h
      rw [if_pos (by simp only [List.length_cons]; omega), List.getElem_cons_succ, ← ih h]
      congr 1
      simp only [List.length_cons]
      omega

@[simp] theorem length_markers (p : Partition) : p.markers.length = p.arity := by
  simp [markers]

theorem getElem_markers (p : Partition) {position : Nat} (h : position < p.markers.length) :
    p.markers[position] = p.isExplicit position := by
  simp [markers]

/-- A partition whose bits the markers spell has these markers. -/
theorem markers_eq {p : Partition} {m : List Bool} (length : p.arity = m.length)
    (bits : p.bits = value m) : p.markers = m := by
  refine List.ext_getElem (by rw [length_markers, length]) fun position _ h => ?_
  rw [getElem_markers, isExplicit, length, bits, testBit_value m h]

theorem markers_ofMarkers {m : List Bool} {p : Partition} (h : ofMarkers m = .ok p) :
    p.markers = m := by
  unfold ofMarkers at h
  split at h
  · cases h
    exact markers_eq rfl rfl
  · cases h

theorem exists_ofMarkers {m : List Bool} (h : m.length ≤ 32) : ∃ p, ofMarkers m = .ok p :=
  ⟨_, dif_pos h⟩

/-- The markers of a partition spell its bits. -/
theorem value_markers (p : Partition) : value p.markers = p.bits := by
  refine Nat.eq_of_testBit_eq fun i => ?_
  by_cases h : i < p.arity
  · have below : p.arity - 1 - i < p.markers.length := by rw [length_markers]; omega
    have bit := testBit_value p.markers below
    rw [getElem_markers, isExplicit, length_markers,
      show p.arity - 1 - (p.arity - 1 - i) = i by omega] at bit
    exact bit
  · have above := value_lt p.markers
    rw [length_markers] at above
    have power : 2 ^ p.arity ≤ 2 ^ i := Nat.pow_le_pow_right (by decide) (by omega)
    rw [Nat.testBit_eq_false_of_lt (by omega),
      Nat.testBit_eq_false_of_lt (Nat.lt_of_lt_of_le p.bits_lt power)]

/-- A partition is determined by its markers. -/
theorem markers_injective : Function.Injective markers := by
  intro p q h
  have arity : p.arity = q.arity := by rw [← length_markers p, h, length_markers]
  have bits : p.bits = q.bits := by rw [← value_markers p, h, value_markers]
  cases p
  cases q
  simp only at arity bits
  subst arity bits
  rfl

/-- There is one partition of no positions. -/
theorem eq_of_arity_eq_zero {p q : Partition} (hp : p.arity = 0) (hq : q.arity = 0) : p = q :=
  markers_injective (by rw [markers, markers, hp, hq]; rfl)

/-- A partition is determined by its pattern. -/
theorem pattern_injective : Function.Injective pattern := by
  intro p q h
  refine markers_injective (List.map_injective_iff.mpr ?_ (String.ofList_injective h))
  intro first second
  cases first <;> cases second <;> simp

theorem ofMarkers_markers (p : Partition) : ofMarkers p.markers = .ok p := by
  obtain ⟨q, h⟩ := exists_ofMarkers (m := p.markers) (by rw [length_markers]; exact p.arity_le)
  rw [h, markers_injective (markers_ofMarkers h)]

/-! ## Ranks -/

/-- The number of explicit positions before a position. -/
def explicitBefore (p : Partition) (position : Nat) : Nat :=
  (List.range position).countP p.isExplicit

@[simp] theorem explicitBefore_zero (p : Partition) : p.explicitBefore 0 = 0 := rfl

theorem explicitBefore_succ (p : Partition) (position : Nat) :
    p.explicitBefore (position + 1) =
      p.explicitBefore position + (p.isExplicit position).toNat := by
  simp only [explicitBefore, List.range_succ, List.countP_append]
  cases h : p.isExplicit position <;> simp [h]

theorem explicitBefore_mono (p : Partition) {first last : Nat} (h : first ≤ last) :
    p.explicitBefore first ≤ p.explicitBefore last := by
  induction last, h using Nat.le_induction with
  | base => exact Nat.le_refl _
  | succ last _ ih =>
    rw [explicitBefore_succ]
    omega

/-- An explicit position has a smaller rank than everything behind it. -/
theorem explicitBefore_lt (p : Partition) {first last : Nat} (h : first < last)
    (explicit : p.isExplicit first = true) : p.explicitBefore first < p.explicitBefore last := by
  have := p.explicitBefore_mono (Nat.succ_le_of_lt h)
  rw [Nat.succ_eq_add_one, explicitBefore_succ, explicit] at this
  simp only [Bool.toNat_true] at this
  omega

/-- The explicit positions have the ranks `0, 1, 2, …`, in order. -/
theorem map_explicitBefore (p : Partition) (bound : Nat) :
    ((List.range bound).filter p.isExplicit).map p.explicitBefore =
      List.range (p.explicitBefore bound) := by
  induction bound with
  | zero => rfl
  | succ bound ih =>
    rw [List.range_succ, List.filter_append, List.map_append, ih, explicitBefore_succ]
    cases h : p.isExplicit bound <;> simp [h, List.range_succ]

/-- The set bits among the low bits of a number are counted bit by bit. -/
theorem populationCount_eq (width number : Nat) :
    populationCount width number = (List.range width).countP number.testBit := by
  induction width generalizing number with
  | zero => rfl
  | succ width ih =>
    rw [populationCount, ih, List.range_succ_eq_map, List.countP_cons, List.countP_map,
      Nat.add_comm]
    congr 1
    · refine List.countP_congr fun i _ => ?_
      rw [Function.comp_apply, Nat.succ_eq_add_one, Nat.testBit_succ]
    · rw [Nat.testBit_zero]
      rcases Nat.mod_two_eq_zero_or_one number with h | h <;> simp [h]

/-- The set bits are counted from the last position to the first, the explicit
positions from the first to the last. -/
theorem explicitCount_eq (p : Partition) : p.explicitCount = p.explicitBefore p.arity := by
  rw [explicitCount, populationCount_eq, explicitBefore, ← List.countP_reverse,
    List.range_eq_range', List.reverse_range', List.countP_map, ← List.range_eq_range']
  refine List.countP_congr fun position _ => ?_
  rw [Function.comp_apply, Nat.zero_add, isExplicit]

end FactoryOverloads.Partition
