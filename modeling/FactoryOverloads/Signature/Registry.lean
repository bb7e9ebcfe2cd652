import FactoryOverloads.Failure
import FactoryOverloads.Partition.Enumeration
import FactoryOverloads.Signature.Trie

/-!
# Registry of signature keys

Two overloads with one key would be ambiguous, or the wrong one would be chosen silently. A registry
holds the partition that first introduced each key; `Registry.register` refuses a plan whose key is
held already and then leaves the registry as it is.

- `Registry.check` registers plans in an empty registry.
- `Plan.ofArity` lists the plans of an arity, checked.
-/

namespace FactoryOverloads

/-- The keys registered so far, each with the partition that introduced it. -/
structure Registry where
  holders : Trie Partition
  /-- The number of keys. -/
  size : Nat
  deriving Repr

namespace Registry

/-- The registry without keys. -/
def empty : Registry := ⟨.empty, 0⟩

/-- The partition that holds a key. -/
def holder? (registry : Registry) (key : Key) : Option Partition := registry.holders.find? key

/-- The registry with the key of a plan, which no earlier plan may hold. -/
def register (registry : Registry) (plan : Plan) : Except Failure Registry :=
  match registry.holder? plan.key with
  | some holder =>
    .error (.collision plan.arity holder.text plan.partition.text plan.key.text)
  | none => .ok ⟨registry.holders.insert plan.key plan.partition, registry.size + 1⟩

/-- The registry with the keys of plans, registered in order. -/
def registerAll (registry : Registry) (plans : List Plan) : Except Failure Registry :=
  plans.foldlM register registry

/-- Whether the keys of the plans differ from one another. -/
def check (plans : List Plan) : Except Failure Unit := do
  let _ ← empty.registerAll plans

end Registry

/-- The plans of an arity, one per partition in counting order. -/
def Plan.all (arity : Nat) : Except Defect (List Plan) :=
  (Partition.all arity).map (·.map Plan.ofPartition)

/-- The plans of an arity, whose keys have been checked. -/
def Plan.ofArity (arity : Nat) : Except Failure (List Plan) := do
  let plans ← (Plan.all arity).mapError .defect
  Registry.check plans
  return plans

end FactoryOverloads
