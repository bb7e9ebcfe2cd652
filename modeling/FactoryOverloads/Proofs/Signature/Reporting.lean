import FactoryOverloads.Proofs.Signature.History
import FactoryOverloads.Proofs.Text.Number

/-!
# What a collision reports

A refused plan is reported by texts: that of its key, and those of its partition
and of the partition that holds the key. No two keys have one text, whatever
number stands beside the tags: the letters of the tags end at the slash, and the
digits of the number hold none (`Key.text_injective`). Nor have two partitions,
since the form for no positions is no pattern (`Partition.text_injective`). So a
report names one key and two partitions (`Failure.Names.unique`), and they are
those of the plans that collided (`Registry.collision_names_subjects`), also when
a plan's key has nothing to do with its partition.
-/

namespace FactoryOverloads

/-! ## Keys -/

theorem Tag.letter_injective : Function.Injective letter := by
  intro first second h
  cases first <;> cases second <;> simp [letter] at h ⊢

namespace Key

theorem toList_text (key : Key) :
    key.text.toList = key.tags.map Tag.letter ++ '/' :: (toString key.explicitCount).toList := by
  simp [text]

theorem slash_notMem_letters (tags : List Tag) : '/' ∉ tags.map Tag.letter := by
  intro mem
  obtain ⟨tag, -, slash⟩ := List.mem_map.mp mem
  cases tag <;> exact absurd slash (by decide)

theorem slash_notMem_toString (n : Nat) : '/' ∉ (toString n).toList := fun mem =>
  absurd (isDigit_of_mem_toString mem) (by decide)

theorem text_injective : Function.Injective text := by
  intro first second h
  have characters := congrArg String.toList h
  rw [toList_text, toList_text, List.append_cons_inj_of_notMem
    (slash_notMem_letters first.tags) (slash_notMem_toString first.explicitCount)] at characters
  obtain ⟨letters, -, digits⟩ := characters
  have tags := List.map_injective_iff.mpr Tag.letter_injective letters
  have count := toString_nat_injective digits
  cases first
  cases second
  exact congrArg₂ mk tags count

end Key

/-! ## Partitions -/

namespace Partition

theorem mem_pattern {p : Partition} {c : Char} (h : c ∈ p.pattern.toList) : c = '1' ∨ c = '0' := by
  rw [pattern, String.toList_ofList] at h
  obtain ⟨marker, -, rfl⟩ := List.mem_map.mp h
  cases marker
  · exact .inr rfl
  · exact .inl rfl

/-- The form for no positions is no pattern. -/
theorem pattern_ne_empty_form (p : Partition) : p.pattern ≠ "<empty>" := by
  intro h
  have mem : '<' ∈ p.pattern.toList := by rw [h]; decide
  exact absurd (mem_pattern mem) (by decide)

theorem text_injective : Function.Injective text := by
  intro p q h
  simp only [text] at h
  by_cases hp : p.arity = 0 <;> by_cases hq : q.arity = 0
  · exact eq_of_arity_eq_zero hp hq
  · rw [if_pos hp, if_neg hq] at h
    exact absurd h.symm q.pattern_ne_empty_form
  · rw [if_neg hp, if_pos hq] at h
    exact absurd h p.pattern_ne_empty_form
  · rw [if_neg hp, if_neg hq] at h
    exact pattern_injective h

end Partition

/-! ## Reports -/

/-- A report of a collision has the texts of a key and of two partitions. -/
def Failure.Names (cause : Failure) (key : Key) (first second : Partition) : Prop :=
  ∃ arity, cause = .collision arity first.text second.text key.text

/-- A report names no other key and no other partitions. -/
theorem Failure.Names.unique {cause : Failure} {key key' : Key} {first second : Partition}
    {first' second' : Partition} (h : cause.Names key first second)
    (h' : cause.Names key' first' second') : key = key' ∧ first = first' ∧ second = second' := by
  obtain ⟨arity, rfl⟩ := h
  obtain ⟨arity', same⟩ := h'
  simp only [Failure.collision.injEq] at same
  obtain ⟨-, one, other, shared⟩ := same
  exact ⟨Key.text_injective shared, Partition.text_injective one, Partition.text_injective other⟩

namespace Registry

theorem names_collision_iff {first second : Plan} {key : Key} {p q : Partition} :
    (collision first second).Names key p q ↔
      key = second.key ∧ p = first.partition ∧ q = second.partition := by
  have own : (collision first second).Names second.key first.partition second.partition := ⟨_, rfl⟩
  constructor
  · intro named
    exact named.unique own
  · rintro ⟨rfl, rfl, rfl⟩
    exact own

/-- Two plans with one key are reported as a collision. -/
theorem check_pair_of_key_eq {first second : Plan} (same : first.key = second.key) :
    check [first, second] = .error (collision first second) := by
  refine check_eq_error_iff.mpr ⟨0, 1, first, second, ?_, rfl, rfl, rfl⟩
  have known : [first.key][0]? = some second.key := by rw [same]; rfl
  exact FirstRepetition.of_nodup (List.nodup_singleton _) known []

/-- The texts of keys and of partitions differ, so that a report of two plans with
one key names this key and their partitions and nothing else. The same goes for a
plan that is refused after a history, and the plan that introduced its key. -/
theorem collision_names_subjects :
    Function.Injective Key.text ∧ Function.Injective Partition.text ∧
    (∀ first second : Plan, first.key = second.key →
      check [first, second] = .error (collision first second) ∧
      ∀ key p q, (collision first second).Names key p q ↔
        (key = first.key ∧ key = second.key) ∧ p = first.partition ∧ q = second.partition) ∧
    ∀ (history : List Plan) (plan : Plan) (cause : Failure),
      ((after history).offer plan).1 = .error cause →
      ∃ first, introducer? history plan.key = some first ∧
        ∀ key p q, cause.Names key p q ↔
          key = plan.key ∧ p = first.partition ∧ q = plan.partition := by
  refine ⟨Key.text_injective, Partition.text_injective, fun first second same => ?_,
    fun history plan cause refused => ?_⟩
  · refine ⟨check_pair_of_key_eq same, fun key p q => ?_⟩
    rw [names_collision_iff, same, and_self]
  · obtain ⟨first, known, rfl⟩ := offer_eq_error_iff.mp refused
    exact ⟨first, known, fun key p q => names_collision_iff⟩

/-- Two plans of different arities, with a key whose count is not that of its
tags. -/
theorem collision_names_subjects_of_miscounted_key :
    let key : Key := ⟨[.explicit], 7⟩
    let first := { Plan.ofPartition ⟨3, 4, by decide, by decide⟩ with key := key }
    let second := { Plan.ofPartition ⟨0, 0, by decide, by decide⟩ with key := key }
    first.key = second.key ∧
      check [first, second] = .error (.collision 0 "100" "<empty>" "E/7") ∧
      ∀ named p q, (Failure.collision 0 "100" "<empty>" "E/7").Names named p q ↔
        named = key ∧ p = first.partition ∧ q = second.partition := by
  intro key first second
  have texts : collision first second = .collision 0 "100" "<empty>" "E/7" := by
    have one : first.partition.text = "100" := by decide
    have other : second.partition.text = "<empty>" := by decide
    have shared : second.key.text = "E/7" := by decide
    rw [collision, one, other, shared]
    rfl
  obtain ⟨reported, named⟩ := collision_names_subjects.2.2.1 first second rfl
  rw [texts] at reported named
  refine ⟨rfl, reported, fun own p q => (named own p q).trans ?_⟩
  rw [show first.key = key from rfl, and_self]

end Registry

end FactoryOverloads
