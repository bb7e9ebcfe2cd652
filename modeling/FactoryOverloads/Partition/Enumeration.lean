import FactoryOverloads.Partition

/-!
# Enumeration of the partitions of one arity

The partitions of an arity are counted from the one without explicit positions to the one without
injected positions. An `Enumeration` is a cursor into that sequence: it holds only how many
partitions have been consumed, so that the largest arity can be streamed.

- `Enumeration.next?` reads and consumes one partition, and `Enumeration.take` lists several.
- `Enumeration.drop` passes over partitions without reading them.
- `Partition.count` is the length of the whole sequence as a machine word.
-/

namespace FactoryOverloads

attribute [local instance (high)] instPowNat

/-- A cursor into the counting sequence of the partitions of `arity`. -/
structure Enumeration where
  arity : Nat
  consumed : Nat
  arity_le : arity ≤ 32
  consumed_le : consumed ≤ 2 ^ arity
  deriving Repr

namespace Enumeration

/-- The whole sequence of an arity. -/
def ofArity (arity : Nat) : Except Defect Enumeration :=
  if arity_le : arity ≤ 32 then .ok ⟨arity, 0, arity_le, Nat.zero_le _⟩
  else .error (.arityLimit arity)

/-- The number of partitions not yet consumed. -/
def remaining (e : Enumeration) : Nat :=
  2 ^ e.arity - e.consumed

/-- The partition at a place of the sequence. The place is cut down to a word of 32 bits, of which a
partition keeps as many as it has positions. -/
def partitionAt (e : Enumeration) (place : Nat) : Partition :=
  ⟨e.arity, place % 2 ^ (32 : Nat) % 2 ^ e.arity, e.arity_le,
    Nat.mod_lt _ (Nat.two_pow_pos e.arity)⟩

/-- The next partition, and the cursor behind it. -/
def next? (e : Enumeration) : Option (Partition × Enumeration) :=
  if consumed_lt : e.consumed < 2 ^ e.arity then
    some (e.partitionAt e.consumed, ⟨e.arity, e.consumed + 1, e.arity_le, consumed_lt⟩)
  else none

/-- The partitions `taken` before, last one first, and the next `n`, fewer if the sequence ends
before. -/
def takeOnto (taken : List Partition) : (n : Nat) → Enumeration → List Partition
  | 0, _ => taken.reverse
  | n + 1, e =>
    match e.next? with
    | some (p, rest) => takeOnto (p :: taken) n rest
    | none => taken.reverse

/-- The next `n` partitions, fewer if the sequence ends before. -/
def take (n : Nat) (e : Enumeration) : List Partition := takeOnto [] n e

/-- All partitions not yet consumed. -/
def toList (e : Enumeration) : List Partition :=
  e.take e.remaining

/-- The next partition. -/
def head? (e : Enumeration) : Option Partition :=
  e.next?.map Prod.fst

/-- The cursor after `n` more partitions, at the end if there are fewer. -/
def drop (n : Nat) (e : Enumeration) : Enumeration :=
  { e with
    consumed := min (e.consumed + n) (2 ^ e.arity)
    consumed_le := Nat.min_le_right _ _ }

/-- The last partition not yet consumed. -/
def last? (e : Enumeration) : Option Partition :=
  (e.drop (e.remaining - 1)).head?

end Enumeration

/-- Every partition of an arity, in counting order. -/
def Partition.all (arity : Nat) : Except Defect (List Partition) :=
  (Enumeration.ofArity arity).map Enumeration.toList

/-- The number of partitions of an arity, which has to fit a word of 64 bits. -/
def Partition.count (arity : Nat) : Except Defect Nat :=
  if arity < 64 then .ok (2 ^ arity) else .error .shift

end FactoryOverloads
