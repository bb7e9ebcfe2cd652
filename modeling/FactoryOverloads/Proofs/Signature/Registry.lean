import Mathlib.Data.List.Nodup
import FactoryOverloads.Proofs.Signature.Planning
import FactoryOverloads.Signature.Registry

/-!
# Registered keys

A trie of keys is a map (`Trie.find?_insert`). Registering a plan adds its key
and no other (`Registry.holder?_of_register`), or fails because the key is held.
A whole run of registrations therefore succeeds exactly when no key occurs twice
or was held before (`Registry.exists_registerAll`, by induction on the plans),
and of plans that were made from partitions exactly when no partition occurs
twice (`Registry.check_ofPartition`).
-/

namespace FactoryOverloads

namespace Trie

variable {α : Type}

theorem findTags?_empty (tags : List Tag) (count : Nat) :
    (empty : Trie α).findTags? tags count = none := by
  cases tags <;> rfl

theorem findTags?_insertTags (count count' : Nat) (value : α) (tags tags' : List Tag)
    (trie : Trie α) :
    (insertTags count value tags trie).findTags? tags' count' =
      if tags = tags' ∧ count = count' then some value else trie.findTags? tags' count' := by
  induction tags generalizing trie tags' with
  | nil =>
    cases tags' with
    | nil =>
      by_cases h : count = count'
      · cases trie <;> simp [insertTags, findTags?, h]
      · have other : (count' == count) = false := by simpa using Ne.symm h
        cases trie <;> simp [insertTags, findTags?, List.lookup_cons, h, other]
    | cons tag' tags' => cases trie <;> cases tag' <;> simp [insertTags, findTags?]
  | cons tag tags ih =>
    cases tags' with
    | nil => cases trie <;> cases tag <;> simp [insertTags, findTags?]
    | cons tag' tags' =>
      cases trie <;> cases tag <;> cases tag' <;>
        simp [insertTags, findTags?, ih]

/-- A key that has been inserted is found, every other key as before. -/
theorem find?_insert (trie : Trie α) (key key' : Key) (value : α) :
    (trie.insert key value).find? key' = if key = key' then some value else trie.find? key' := by
  rw [insert, find?, findTags?_insertTags, find?]
  cases key
  cases key'
  simp only [Key.mk.injEq]

end Trie

namespace Registry

@[simp] theorem holder?_empty (key : Key) : empty.holder? key = none :=
  Trie.findTags?_empty key.tags key.explicitCount

/-- Registering fails exactly when the key is held, and else adds the key. -/
theorem register_eq_ok_iff {registry next : Registry} {plan : Plan} :
    registry.register plan = .ok next ↔ registry.holder? plan.key = none ∧
      next = ⟨registry.holders.insert plan.key plan.partition, registry.size + 1⟩ := by
  unfold register
  cases h : registry.holder? plan.key with
  | some holder => simp
  | none => simp [eq_comm]

theorem holder?_of_register {registry next : Registry} {plan : Plan}
    (h : registry.register plan = .ok next) (key : Key) :
    next.holder? key = if plan.key = key then some plan.partition else registry.holder? key := by
  obtain ⟨-, rfl⟩ := register_eq_ok_iff.mp h
  exact Trie.find?_insert _ _ _ _

/-- A run of registrations succeeds exactly when each key is new: neither held
before the run nor brought by an earlier plan. -/
theorem exists_registerAll (registry : Registry) (plans : List Plan) :
    (∃ next, registry.registerAll plans = .ok next) ↔
      (plans.map Plan.key).Nodup ∧ ∀ plan ∈ plans, registry.holder? plan.key = none := by
  induction plans generalizing registry with
  | nil => exact ⟨fun _ => ⟨List.nodup_nil, by simp⟩, fun _ => ⟨registry, rfl⟩⟩
  | cons plan plans ih =>
    rw [registerAll, List.foldlM_cons, List.map_cons, List.nodup_cons, List.forall_mem_cons]
    cases step : registry.register plan with
    | error cause =>
      refine ⟨fun ⟨_, h⟩ => (nomatch h), fun ⟨_, free, _⟩ => ?_⟩
      rw [register_eq_ok_iff.mpr ⟨free, rfl⟩] at step
      cases step
    | ok next =>
      have held := holder?_of_register step
      have rest := ih next
      rw [registerAll] at rest
      refine rest.trans ⟨fun ⟨nodup, free⟩ => ?_, fun ⟨⟨fresh, nodup⟩, _, free⟩ => ⟨nodup, ?_⟩⟩
      · refine ⟨⟨fun mem => ?_, nodup⟩, (register_eq_ok_iff.mp step).1, fun other mem => ?_⟩
        · obtain ⟨other, mem, same⟩ := List.mem_map.mp mem
          have := free other mem
          rw [held, if_pos same.symm] at this
          cases this
        · have := free other mem
          rw [held] at this
          split at this
          · cases this
          · exact this
      · intro other mem
        rw [held, if_neg fun same => fresh (List.mem_map.mpr ⟨other, mem, same.symm⟩)]
        exact free other mem

/-- Plans pass the check exactly when their keys differ from one another. -/
theorem check_eq_ok_iff (plans : List Plan) :
    check plans = .ok () ↔ (plans.map Plan.key).Nodup := by
  have run := exists_registerAll empty plans
  simp only [holder?_empty, implies_true, and_true] at run
  rw [← run, check]
  cases h : empty.registerAll plans with
  | error cause => exact ⟨fun h => (nomatch h), fun ⟨_, h⟩ => nomatch h⟩
  | ok next => exact ⟨fun _ => ⟨next, rfl⟩, fun _ => rfl⟩

/-- The plans of partitions pass the check exactly when no partition occurs
twice. -/
theorem check_ofPartition (ps : List Partition) :
    check (ps.map Plan.ofPartition) = .ok () ↔ ps.Nodup := by
  rw [check_eq_ok_iff, List.map_map]
  exact List.nodup_map_iff Plan.key_injective

end Registry

end FactoryOverloads
