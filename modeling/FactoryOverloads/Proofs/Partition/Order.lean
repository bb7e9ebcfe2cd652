import Mathlib.Data.List.Dedup
import Mathlib.Data.List.Sort
import FactoryOverloads.Proofs.Partition.Counting

/-!
# Canonical order

Partitions are ordered as pairs of numbers, by arity and then by bits
(`before_iff_bits`). The numbers are those that the markers spell, so that two
partitions of one arity are ordered as their patterns are, character by character
from the front (`before_iff`, from `value_lt_value_iff`, by induction on the
markers).

Enumerating several arities one after the other goes through their partitions in this
order. A partition has its place among them by the length of its markers and the
number they spell, and the places count up (`pairwise_before`). A list in strict order
is determined by its members, so that sorting all partitions of these arities, in
whatever order and however often they are given, ends with the same list
(`dedup_sorted_eq`).
-/

namespace FactoryOverloads.Partition

/-! ## The order -/

/-- A partition stands before another one, and not at its place. -/
def Before (p q : Partition) : Prop := p.le q = true ∧ q.le p = false

theorem le_iff {p q : Partition} :
    p.le q = true ↔ p.arity < q.arity ∨ p.arity = q.arity ∧ p.bits ≤ q.bits := by
  simp only [le, Bool.or_eq_true, Bool.and_eq_true, decide_eq_true_eq, beq_iff_eq]

theorem before_iff_bits {p q : Partition} :
    p.Before q ↔ p.arity < q.arity ∨ p.arity = q.arity ∧ p.bits < q.bits := by
  rw [Before, ← Bool.not_eq_true, le_iff, le_iff]
  omega

theorem ext_bits {p q : Partition} (arity : p.arity = q.arity) (bits : p.bits = q.bits) :
    p = q := by
  apply markers_injective
  exact markers_eq (by rw [length_markers, arity]) (by rw [value_markers, bits])

theorem le_iff_eq_or_before {p q : Partition} : p.le q = true ↔ p = q ∨ p.Before q := by
  rw [le_iff, before_iff_bits]
  constructor
  · intro h
    by_cases same : p.arity = q.arity ∧ p.bits = q.bits
    · exact .inl (ext_bits same.1 same.2)
    · right
      omega
  · rintro (rfl | h)
    · omega
    · omega

theorem le_trans (p q r : Partition) (first : p.le q = true) (second : q.le r = true) :
    p.le r = true := by
  rw [le_iff] at *
  omega

theorem le_total (p q : Partition) : (p.le q || q.le p) = true := by
  rw [Bool.or_eq_true, le_iff, le_iff]
  omega

instance : Std.Irrefl Before where
  irrefl p h := by
    rw [before_iff_bits] at h
    omega

instance : Std.Antisymm Before where
  antisymm p q first second := by
    rw [before_iff_bits] at first second
    omega

/-- Markers spell a smaller number if, at the first difference, theirs is that of an
injected position. -/
theorem value_lt_value_iff {first second : List Bool} (h : first.length = second.length) :
    value first < value second ↔
      (first.map fun explicit => if explicit then '1' else '0') <
        second.map fun explicit => if explicit then '1' else '0' := by
  induction first generalizing second with
  | nil =>
    cases second with
    | nil => simp [value]
    | cons marker markers => cases h
  | cons marker markers ih =>
    cases second with
    | nil => cases h
    | cons other others =>
      have length : markers.length = others.length := Nat.succ.inj h
      have below := value_lt markers
      have above := value_lt others
      have rest := ih length
      rw [value_cons, value_cons, List.map_cons, List.map_cons, List.cons_lt_cons_iff, ← rest]
      rw [length] at below ⊢
      cases marker <;> cases other
      · simp
      · have less : '0' < '1' := by decide
        simp [less]
        omega
      · have more : ¬ '1' < '0' := by decide
        simp [more]
        omega
      · simp

/-- The order of the patterns is the lexicographic one of their characters. -/
theorem pattern_lt_pattern_iff {p q : Partition} (h : p.arity = q.arity) :
    p.pattern < q.pattern ↔ p.bits < q.bits := by
  have length : p.markers.length = q.markers.length := by
    rw [length_markers, length_markers, h]
  rw [String.lt_iff, pattern, pattern, String.toList_ofList, String.toList_ofList,
    ← value_lt_value_iff length, value_markers, value_markers]

theorem before_iff {p q : Partition} :
    p.Before q ↔ p.arity < q.arity ∨ p.arity = q.arity ∧ p.pattern < q.pattern := by
  rw [before_iff_bits]
  refine or_congr_right (and_congr_right fun same => ?_)
  rw [pattern_lt_pattern_iff same]

/-! ## Enumerations in a row -/

/-- Enumerations of arities, by induction on them. -/
theorem exists_mapM_all {arities : List Nat} (h : ∀ arity ∈ arities, arity ≤ 32) :
    ∃ enumerations, arities.mapM Partition.all = .ok enumerations ∧
      enumerations.flatten.map markers = arities.flatMap markerLists := by
  induction arities with
  | nil => exact ⟨[], rfl, rfl⟩
  | cons arity arities ih =>
    obtain ⟨head, tail⟩ := List.forall_mem_cons.mp h
    obtain ⟨ps, all, order⟩ := all_markers head
    obtain ⟨enumerations, rest, orders⟩ := ih tail
    refine ⟨ps :: enumerations, ?_, ?_⟩
    · rw [List.mapM_cons, all, rest]
      rfl
    · rw [List.flatten_cons, List.map_append, order, orders, List.flatMap_cons]

variable {first count : Nat} {ps : List Partition}

/-- Among partitions with at least a number of positions, smaller places come
before greater ones. -/
theorem before_of_placeFrom_lt {p q : Partition} (least : first ≤ q.arity)
    (h : placeFrom first p.markers < placeFrom first q.markers) : p.Before q := by
  have own := p.bits_lt
  have other := q.bits_lt
  have base : 2 ^ first ≤ 2 ^ q.arity := Nat.pow_le_pow_right (by decide) least
  rw [placeFrom, placeFrom, value_markers, value_markers, length_markers, length_markers] at h
  rw [before_iff_bits]
  rcases Nat.lt_trichotomy p.arity q.arity with less | same | more
  · exact .inl less
  · rw [same] at h ⊢
    omega
  · have power : 2 ^ (q.arity + 1) ≤ 2 ^ p.arity := Nat.pow_le_pow_right (by decide) more
    rw [Nat.pow_succ] at power
    omega

theorem mem_of_markers (order : ps.map markers = markerListsFrom first count) {p : Partition} :
    p ∈ ps ↔ first ≤ p.arity ∧ p.arity < first + count := by
  rw [← List.mem_map_of_injective markers_injective, order, mem_markerListsFrom, length_markers]

theorem pairwise_before (order : ps.map markers = markerListsFrom first count) :
    ps.Pairwise Before := by
  have places : ps.map (fun p => placeFrom first p.markers) =
      List.range (2 ^ (first + count) - 2 ^ first) := by
    rw [← map_placeFrom_markerListsFrom, ← order, List.map_map]
    rfl
  have increasing : (ps.map fun p => placeFrom first p.markers).Pairwise (· < ·) := by
    rw [places]
    exact List.pairwise_lt_range
  refine (List.pairwise_map.mp increasing).imp_of_mem fun _ member less => ?_
  exact before_of_placeFrom_lt ((mem_of_markers order).mp member).1 less

/-- Sorted and without repetition, partitions are in strict order. -/
theorem pairwise_dedup_sorted (ps : List Partition) : (sorted ps).dedup.Pairwise Before := by
  have weak : (sorted ps).Pairwise fun p q => p.le q = true :=
    List.pairwise_mergeSort le_trans le_total ps
  have apart : (sorted ps).dedup.Nodup := List.nodup_dedup _
  refine ((weak.sublist (List.dedup_sublist _)).and apart).imp fun {p q} ⟨ordered, differ⟩ => ?_
  exact (le_iff_eq_or_before.mp ordered).resolve_left differ

theorem dedup_sorted_eq {qs : List Partition} (ordered : ps.Pairwise Before)
    (same : ∀ p, p ∈ qs ↔ p ∈ ps) : (sorted qs).dedup = ps := by
  refine (pairwise_dedup_sorted qs).eq_of_mem_iff ordered fun p => ?_
  rw [List.mem_dedup, sorted, List.mem_mergeSort, same]

/-- A partition stands before another one if it has fewer positions, or as many and
the pattern that comes first. The enumerations of arities that follow each other go
through all partitions of these arities in this order, and whoever sorts those
partitions and leaves out repetitions gets the same list. -/
theorem enumeration_is_sorted :
    (∀ p q : Partition,
      (p.Before q ↔ p.arity < q.arity ∨ p.arity = q.arity ∧ p.pattern < q.pattern) ∧
      (p.le q = true ↔ p = q ∨ p.Before q)) ∧
    ∀ first last : Nat, first ≤ last → last ≤ 32 →
      ∃ enumerations,
        (List.range' first (last + 1 - first)).mapM Partition.all = .ok enumerations ∧
        enumerations.flatten.Pairwise Before ∧
        (∀ p : Partition, p ∈ enumerations.flatten ↔ first ≤ p.arity ∧ p.arity ≤ last) ∧
        ∀ ps : List Partition, (∀ p, p ∈ ps ↔ first ≤ p.arity ∧ p.arity ≤ last) →
          (sorted ps).dedup = enumerations.flatten := by
  refine ⟨fun p q => ⟨before_iff, le_iff_eq_or_before⟩, fun first last ordered most => ?_⟩
  have supported : ∀ arity ∈ List.range' first (last + 1 - first), arity ≤ 32 := by
    intro arity member
    have bound := (List.mem_range'_1.mp member).2
    omega
  obtain ⟨enumerations, enumerated, order⟩ := exists_mapM_all supported
  have members (p : Partition) :
      p ∈ enumerations.flatten ↔ first ≤ p.arity ∧ p.arity ≤ last := by
    rw [mem_of_markers order]
    omega
  have strict : enumerations.flatten.Pairwise Before := pairwise_before order
  refine ⟨enumerations, enumerated, strict, members, fun ps all => ?_⟩
  exact dedup_sorted_eq strict fun p => (all p).trans (members p).symm

/-- The two largest arities, listed backwards and once more. -/
theorem enumeration_is_sorted_at_whole_width :
    ∃ enumerations, (List.range' 31 2).mapM Partition.all = .ok enumerations ∧
      (sorted (enumerations.flatten.reverse ++ enumerations.flatten)).dedup =
        enumerations.flatten := by
  obtain ⟨enumerations, enumerated, -, members, sorts⟩ :=
    enumeration_is_sorted.2 31 32 (by decide) (by decide)
  refine ⟨enumerations, enumerated, sorts _ fun p => ?_⟩
  rw [List.mem_append, List.mem_reverse, or_self, members]

end FactoryOverloads.Partition
