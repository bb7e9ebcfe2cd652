import FactoryOverloads.Failure.Cause

/-!
# Partitions of constructor positions

A partition marks every position of a constructor as explicit (supplied by the caller) or injected
(resolved from the container). It is stored as a number of `arity` bits, the first position being
the most significant bit, and read as a list of markers.

- `Partition.ofBits` and `Partition.ofMarkers` build a partition from either view and refuse an
  arity above `Partition.maxArity`.
- `Partition.markers`, `Partition.pattern` and `Partition.text` read it back.
- Partitions are ordered by arity, then by their bits.
-/

namespace FactoryOverloads

attribute [local instance (high)] instPowNat

/-- A marking of `arity` constructor positions, position `0` in the most significant bit. A set
bit marks an explicit position. -/
structure Partition where
  arity : Nat
  bits : Nat
  arity_le : arity ≤ 32
  bits_lt : bits < 2 ^ arity
  deriving DecidableEq, Repr

namespace Partition

/-- The largest arity a partition can hold. -/
def maxArity : Nat := 32

/-- The number a marker list spells, first marker most significant. -/
def value (markers : List Bool) : Nat :=
  markers.foldl (fun number marker => 2 * number + marker.toNat) 0

theorem foldl_value_lt (markers : List Bool) (number : Nat) :
    markers.foldl (fun n m => 2 * n + m.toNat) number < (number + 1) * 2 ^ markers.length := by
  induction markers generalizing number with
  | nil => simp
  | cons marker markers ih =>
    have step := ih (2 * number + marker.toNat)
    have bound : 2 * number + marker.toNat + 1 ≤ 2 * (number + 1) := by
      have := Bool.toNat_le marker
      omega
    have scaled := Nat.mul_le_mul_right (2 ^ markers.length) bound
    simp only [List.foldl_cons, List.length_cons, Nat.pow_succ]
    have shape : (number + 1) * (2 ^ markers.length * 2) =
        2 * (number + 1) * 2 ^ markers.length := by
      rw [Nat.mul_comm (2 ^ markers.length) 2, ← Nat.mul_assoc, Nat.mul_comm (number + 1) 2]
    omega

/-- A marker list spells a number of as many bits as it has markers. -/
theorem value_lt (markers : List Bool) : value markers < 2 ^ markers.length := by
  simpa [value] using foldl_value_lt markers 0

/-- The partition with the low `arity` bits of `bits`. -/
def ofBits (arity bits : Nat) : Except Defect Partition :=
  if arity_le : arity ≤ 32 then
    .ok ⟨arity, bits % 2 ^ arity, arity_le, Nat.mod_lt _ (Nat.two_pow_pos arity)⟩
  else .error (.arityLimit arity)

/-- The partition with the given markers, `true` for explicit. -/
def ofMarkers (markers : List Bool) : Except Defect Partition :=
  if arity_le : markers.length ≤ 32 then
    .ok ⟨markers.length, value markers, arity_le, value_lt markers⟩
  else .error (.arityLimit markers.length)

/-- Whether the position is explicit. -/
def isExplicit (p : Partition) (position : Nat) : Bool :=
  p.bits.testBit (p.arity - 1 - position)

/-- The marker of a position, which has to be below the arity. -/
def marker (p : Partition) (position : Nat) : Except Defect Bool :=
  if position < p.arity then .ok (p.isExplicit position) else .error .position

/-- The markers in position order. -/
def markers (p : Partition) : List Bool :=
  (List.range p.arity).map p.isExplicit

/-- The number of set bits among the low `width` bits of a number. -/
def populationCount : (width number : Nat) → Nat
  | 0, _ => 0
  | width + 1, number => number % 2 + populationCount width (number / 2)

/-- The number of explicit positions. -/
def explicitCount (p : Partition) : Nat :=
  populationCount p.arity p.bits

/-- One character per position, `1` for explicit and `0` for injected. -/
def pattern (p : Partition) : String :=
  String.ofList (p.markers.map fun explicit => if explicit then '1' else '0')

/-- The pattern, with a visible form for the partition of no positions. -/
def text (p : Partition) : String :=
  if p.arity = 0 then "<empty>" else p.pattern

/-- The canonical order: by arity, then by bits. -/
def le (p q : Partition) : Bool :=
  p.arity < q.arity || (p.arity == q.arity && p.bits ≤ q.bits)

/-- The partitions in canonical order. -/
def sorted (ps : List Partition) : List Partition :=
  ps.mergeSort le

end Partition

end FactoryOverloads
