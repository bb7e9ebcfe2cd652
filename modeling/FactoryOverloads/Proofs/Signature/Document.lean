import FactoryOverloads.Proofs.Json.Compact
import FactoryOverloads.Proofs.Partition.Markers
import FactoryOverloads.Signature.Json

/-!
# The document of a plan

A plan is written as a document that gives all of it back, whatever its fields
say: they need not agree with one another. Each form below is told from every
other of its kind (`Slot.toJson_injective`, `Key.toJson_injective`,
`Plan.toJson_injective`). A partition is written as its pattern alone. Its length
is the arity and it spells the bits, so that the partition is read back from it
(`Partition.ofPattern_pattern`), also when there are no positions.
-/

namespace FactoryOverloads

/-- The partition that a pattern shows. -/
def Partition.ofPattern (pattern : String) : Except Defect Partition :=
  ofMarkers (pattern.toList.map (· == '1'))

theorem Partition.ofPattern_pattern (p : Partition) : ofPattern p.pattern = .ok p := by
  have markers : p.pattern.toList.map (· == '1') = p.markers := by
    rw [pattern, String.toList_ofList, List.map_map]
    refine (List.map_congr_left fun marker _ => ?_).trans (List.map_id _)
    cases marker <;> rfl
  rw [ofPattern, markers, ofMarkers_markers]

theorem Tag.name_injective : Function.Injective name := by
  intro first second h
  cases first <;> cases second <;> simp [name] at h ⊢

theorem Slot.toJson_injective : Function.Injective toJson := by
  intro first second h
  cases first with
  | explicitRef index =>
    cases second with
    | explicitRef index' => simpa [toJson] using h
    | injectedResolve position' => simp [toJson] at h
  | injectedResolve position =>
    cases second with
    | explicitRef index' => simp [toJson] at h
    | injectedResolve position' => simpa [toJson] using h

theorem Key.toJson_injective : Function.Injective toJson := by
  intro first second h
  simp only [toJson, Json.object.injEq, List.cons.injEq, Prod.mk.injEq, Json.array.injEq,
    Json.number.injEq, true_and, and_true] at h
  obtain ⟨names, count⟩ := h
  have name : Function.Injective fun tag : Tag => Json.string tag.name := fun _ _ same =>
    Tag.name_injective (Json.string.inj same)
  have tags := List.map_injective_iff.mpr name names
  cases first
  cases second
  exact congrArg₂ mk tags count

/-- The member of a name. -/
def Json.member? : Json → (name : String) → Option Json
  | .object members, name => members.lookup name
  | _, _ => none

namespace Plan

theorem toJson_injective : Function.Injective toJson := by
  intro first second h
  simp only [toJson, Json.object.injEq, List.cons.injEq, Prod.mk.injEq, Json.array.injEq,
    Json.number.injEq, Json.string.injEq, true_and, and_true] at h
  obtain ⟨arity, pattern, arguments, call, key⟩ := h
  have string : Function.Injective Json.string := fun _ _ => Json.string.inj
  replace pattern := Partition.pattern_injective pattern
  replace arguments := List.map_injective_iff.mpr string arguments
  replace call := List.map_injective_iff.mpr Slot.toJson_injective call
  replace key := Key.toJson_injective key
  cases first
  cases second
  simp only at arity pattern arguments call key
  rw [arity, pattern, arguments, call, key]

/-- Plans with one compact text are equal, and the member for the partition alone
gives the partition back. -/
theorem compact_determines :
    Function.Injective (fun plan : Plan => plan.toJson.compact) ∧
    ∀ plan : Plan, ∃ pattern, plan.toJson.member? "partition" = some (.string pattern) ∧
      Partition.ofPattern pattern = .ok plan.partition :=
  ⟨Json.compact_injective.comp toJson_injective,
    fun plan => ⟨plan.partition.pattern, rfl, plan.partition.ofPattern_pattern⟩⟩

/-- Quotes and commas inside of an argument do not make it two arguments. -/
theorem compact_determines_of_quoting_argument :
    let plan (arguments : List String) : Plan :=
      { Plan.ofPartition ⟨0, 0, by decide, by decide⟩ with explicitArguments := arguments }
    (plan ["a\",\"b"]).toJson.compact ≠ (plan ["a", "b"]).toJson.compact := by
  intro plan same
  have arguments := congrArg Plan.explicitArguments (compact_determines.1 same)
  exact absurd arguments (by decide)

end Plan

end FactoryOverloads
