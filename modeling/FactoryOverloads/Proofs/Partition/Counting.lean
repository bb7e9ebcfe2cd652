import FactoryOverloads.Partition.Enumeration
import FactoryOverloads.Proofs.Partition.Markers

/-!
# Counting order

The marker lists of a length, in the order in which the numbers they spell
count up (`markerLists`), and the lists of several lengths one after the other
(`markerListsFrom`). The enumeration of an arity steps through a counter, and
cuts every place down to a machine word and then to the bits of the arity:

* `markerLists_getElem?`, `markerListsFrom_getElem?`: where a marker list
  stands, from its length and the number it spells;
* `takeOnto_eq`: what repeated steps of an enumeration give, by induction on
  the steps;
* `all_markers`: nothing is cut off, so the partitions of an arity are those
  of the marker lists in counting order.
-/

namespace FactoryOverloads

namespace Partition

/-- The marker lists of a length, in counting order. -/
def markerLists : Nat → List (List Bool)
  | 0 => [[]]
  | length + 1 =>
    (markerLists length).map (false :: ·) ++ (markerLists length).map (true :: ·)

theorem mem_markerLists {length : Nat} {markers : List Bool} :
    markers ∈ markerLists length ↔ markers.length = length := by
  induction length generalizing markers with
  | zero => simp [markerLists]
  | succ length ih =>
    cases markers with
    | nil => simp [markerLists]
    | cons marker markers => cases marker <;> simp [markerLists, ih]

@[simp] theorem length_markerLists (length : Nat) : (markerLists length).length = 2 ^ length := by
  induction length with
  | zero => rfl
  | succ length ih => simp only [markerLists, List.length_append, List.length_map, ih]; omega

/-- The marker lists of a length spell the numbers of as many bits, in order. -/
theorem map_value_markerLists (length : Nat) :
    (markerLists length).map value = List.range (2 ^ length) := by
  induction length with
  | zero => rfl
  | succ length ih =>
    have low : ((markerLists length).map (false :: ·)).map value =
        (markerLists length).map value := by
      rw [List.map_map]
      exact List.map_congr_left fun m _ => by simp [value_cons]
    have high : ((markerLists length).map (true :: ·)).map value =
        ((markerLists length).map value).map (2 ^ length + ·) := by
      rw [List.map_map, List.map_map]
      exact List.map_congr_left fun m h => by simp [value_cons, mem_markerLists.mp h]
    rw [markerLists, List.map_append, low, high, ih, ← List.range_add, Nat.pow_succ, Nat.mul_two]

/-- A list whose members stand at their own places. -/
theorem getElem?_iff_of_map {α : Type} {l : List α} {place : α → Nat}
    (h : l.map place = List.range l.length) {i : Nat} {a : α} :
    l[i]? = some a ↔ a ∈ l ∧ place a = i := by
  have own : ∀ i a, l[i]? = some a → place a = i := by
    intro i a found
    obtain ⟨bound, -⟩ := List.getElem?_eq_some_iff.mp found
    have image : (l.map place)[i]? = some (place a) := by rw [List.getElem?_map, found]; rfl
    rw [h, List.getElem?_range bound] at image
    exact (Option.some_inj.mp image).symm
  refine ⟨fun found => ⟨List.mem_of_getElem? found, own i a found⟩, fun ⟨mem, e⟩ => ?_⟩
  obtain ⟨j, found⟩ := List.mem_iff_getElem?.mp mem
  rw [← e, own j a found, found]

/-- Among the lists of its length, a marker list stands at the number it
spells. -/
theorem markerLists_getElem? {length i : Nat} {markers : List Bool} :
    (markerLists length)[i]? = some markers ↔ markers.length = length ∧ value markers = i := by
  rw [getElem?_iff_of_map (by rw [map_value_markerLists, length_markerLists]), mem_markerLists]

/-- The marker lists of `count` lengths from `first` on, in counting order. -/
def markerListsFrom (first count : Nat) : List (List Bool) :=
  (List.range' first count).flatMap markerLists

/-- The place of a marker list: behind all shorter ones from the length `first`
on, and behind those of its own length that spell smaller numbers. -/
def placeFrom (first : Nat) (markers : List Bool) : Nat :=
  2 ^ markers.length - 2 ^ first + value markers

theorem markerListsFrom_succ (first count : Nat) :
    markerListsFrom first (count + 1) =
      markerListsFrom first count ++ markerLists (first + count) := by
  rw [markerListsFrom, List.range'_concat, List.flatMap_append]
  simp [markerListsFrom]

theorem mem_markerListsFrom {first count : Nat} {markers : List Bool} :
    markers ∈ markerListsFrom first count ↔
      first ≤ markers.length ∧ markers.length < first + count := by
  simp only [markerListsFrom, List.mem_flatMap, List.mem_range'_1, mem_markerLists]
  exact ⟨fun ⟨_, h, e⟩ => e ▸ h, fun h => ⟨_, h, rfl⟩⟩

theorem length_markerListsFrom (first count : Nat) :
    (markerListsFrom first count).length = 2 ^ (first + count) - 2 ^ first := by
  induction count with
  | zero => simp [markerListsFrom]
  | succ count ih =>
    have := Nat.pow_le_pow_right (show 2 > 0 by decide) (Nat.le_add_right first count)
    rw [markerListsFrom_succ, List.length_append, ih, length_markerLists, ← Nat.add_assoc,
      Nat.pow_succ]
    omega

/-- The places count up from one length to the next. -/
theorem map_placeFrom_markerListsFrom (first count : Nat) :
    (markerListsFrom first count).map (placeFrom first) =
      List.range (2 ^ (first + count) - 2 ^ first) := by
  induction count with
  | zero => simp [markerListsFrom]
  | succ count ih =>
    have last : (markerLists (first + count)).map (placeFrom first) =
        ((markerLists (first + count)).map value).map (2 ^ (first + count) - 2 ^ first + ·) := by
      rw [List.map_map]
      exact List.map_congr_left fun m mem => by
        rw [placeFrom, mem_markerLists.mp mem, Function.comp_apply]
    have := Nat.pow_le_pow_right (show 2 > 0 by decide) (Nat.le_add_right first count)
    rw [markerListsFrom_succ, List.map_append, ih, last, map_value_markerLists, ← List.range_add,
      ← Nat.add_assoc, Nat.pow_succ]
    congr 1
    omega

theorem markerListsFrom_getElem? {first count i : Nat} {markers : List Bool} :
    (markerListsFrom first count)[i]? = some markers ↔
      (first ≤ markers.length ∧ markers.length < first + count) ∧ placeFrom first markers = i := by
  rw [getElem?_iff_of_map (by rw [map_placeFrom_markerListsFrom, length_markerListsFrom]),
    mem_markerListsFrom]

end Partition

namespace Enumeration

open FactoryOverloads.Partition (value markerLists)

/-- No bit of a place of the sequence is cut off. -/
theorem bits_partitionAt (e : Enumeration) {place : Nat} (h : place < 2 ^ e.arity) :
    (e.partitionAt place).bits = place := by
  have word : 2 ^ e.arity ≤ 2 ^ 32 := Nat.pow_le_pow_right (by decide) e.arity_le
  show place % 2 ^ 32 % 2 ^ e.arity = place
  rw [Nat.mod_eq_of_lt (Nat.lt_of_lt_of_le h word), Nat.mod_eq_of_lt h]

theorem markers_partitionAt (e : Enumeration) {markers : List Bool}
    (h : markers.length = e.arity) : (e.partitionAt (value markers)).markers = markers := by
  refine Partition.markers_eq h.symm (e.bits_partitionAt ?_)
  rw [← h]
  exact Partition.value_lt markers

/-- A step reads the partition at the counter, and counts up. -/
theorem next?_eq_some {e rest : Enumeration} {p : Partition} (h : e.next? = some (p, rest)) :
    p = e.partitionAt e.consumed ∧ rest.arity = e.arity ∧ rest.consumed = e.consumed + 1 ∧
      e.consumed < 2 ^ e.arity := by
  unfold next? at h
  split at h
  · cases h
    exact ⟨rfl, rfl, rfl, by assumption⟩
  · cases h

theorem next?_eq_none {e : Enumeration} (h : e.next? = none) : e.remaining = 0 := by
  unfold next? at h
  split at h
  · cases h
  · exact Nat.sub_eq_zero_of_le (by omega)

/-- What steps give, by induction on them: the partitions at the places from
the counter on, until the sequence ends. -/
theorem takeOnto_eq (n : Nat) (e : Enumeration) (taken : List Partition) :
    e.takeOnto taken n =
      taken.reverse ++ (List.range' e.consumed (min n e.remaining)).map e.partitionAt := by
  induction n generalizing e taken with
  | zero => simp [takeOnto]
  | succ n ih =>
    rw [takeOnto]
    cases step : e.next? with
    | none => simp [next?_eq_none step]
    | some next =>
      obtain ⟨p, rest⟩ := next
      obtain ⟨rfl, arity, consumed, more⟩ := next?_eq_some step
      have places : rest.partitionAt = e.partitionAt := by
        funext place
        simp only [partitionAt, arity]
      have left : min (n + 1) e.remaining = min n rest.remaining + 1 := by
        simp only [remaining, arity, consumed]
        omega
      simp only [ih, places, consumed, left, List.range'_succ, List.map_cons, List.reverse_cons,
        List.append_assoc, List.singleton_append]

theorem take_eq (n : Nat) (e : Enumeration) :
    e.take n = (List.range' e.consumed (min n e.remaining)).map e.partitionAt := by
  rw [take, takeOnto_eq]
  rfl

end Enumeration

namespace Partition

/-- The partitions of an arity are those of the marker lists in counting
order. -/
theorem all_markers {arity : Nat} (h : arity ≤ 32) :
    ∃ ps, Partition.all arity = .ok ps ∧ ps.map markers = markerLists arity := by
  have start : Enumeration.ofArity arity = .ok ⟨arity, 0, h, Nat.zero_le _⟩ := dif_pos h
  refine ⟨_, by rw [Partition.all, start]; rfl, ?_⟩
  rw [Enumeration.toList, Enumeration.take_eq, Nat.min_self, Enumeration.remaining,
    Nat.sub_zero, ← List.range_eq_range', ← map_value_markerLists, List.map_map, List.map_map]
  refine (List.map_congr_left fun m mem => ?_).trans (List.map_id _)
  exact Enumeration.markers_partitionAt _ (mem_markerLists.mp mem)

end Partition

end FactoryOverloads
