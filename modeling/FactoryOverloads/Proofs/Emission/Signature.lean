import FactoryOverloads.Proofs.Emission.Words

/-!
# The signature of an overload

What keeps overloads of one set apart: in `rust` their names, in `cpp` their
parameter lists (`Target.signature`). Both determine the partition, across all
arities:

* `functionName_injective`: behind the stem, a name is either `0` alone, or a
  decimal number, an underscore and a pattern, and neither the number nor the
  pattern has an underscore;
* `parameters_injective`: the pattern's type is found by its name, and ends with
  the first angle bracket.

A definition shows its signature (`signature?_definitionText`), so that blocks
of different partitions differ (`block_injective`).
-/

namespace FactoryOverloads

open Text (Avoids Spelled avoids_join between? between?_append itemsOf)
open Plan (ofPartition)

namespace Target

/-! ## Names -/

/-- A name behind its stem. -/
def nameTail (p : Partition) : List Char :=
  if p.arity = 0 then ['0'] else (toString p.arity).toList ++ '_' :: p.pattern.toList

theorem toList_functionName (p : Partition) :
    (functionName (ofPartition p)).toList = "make_".toList ++ nameTail p := by
  rw [functionName, nameTail, Plan.arity_ofPartition, Plan.partition_ofPartition]
  split
  · rfl
  · simp

theorem underscore_notMem {text : List Char} (h : Spelled [] text) : '_' ∉ text :=
  Text.notMem_of_avoids (h.avoids (by simp) rfl)

theorem underscore_mem_nameTail {p : Partition} (h : p.arity ≠ 0) : '_' ∈ nameTail p := by
  simp [nameTail, h]

/-- The partition of a name: none of its numbers can be taken apart in another
way. -/
theorem functionName_injective : Function.Injective fun p => functionName (ofPartition p) := by
  intro p q h
  have tails : nameTail p = nameTail q := by
    have := congrArg String.toList h
    rwa [toList_functionName, toList_functionName, List.append_cancel_left_eq] at this
  by_cases hp : p.arity = 0 <;> by_cases hq : q.arity = 0
  · exact Partition.eq_of_arity_eq_zero hp hq
  · have mem := underscore_mem_nameTail hq
    rw [← tails, nameTail, if_pos hp] at mem
    simp at mem
  · have mem := underscore_mem_nameTail hp
    rw [tails, nameTail, if_pos hq] at mem
    simp at mem
  · rw [nameTail, nameTail, if_neg hp, if_neg hq, List.append_cons_inj_of_notMem
      (underscore_notMem (spelled_toString p.arity))
      (underscore_notMem (spelled_pattern p))] at tails
    exact Partition.pattern_injective (String.toList_injective tails.2.2)

/-! ## Parameter lists -/

theorem itemsOf_markerArguments (p : Partition) :
    itemsOf .ignored ", ".toList (markerArguments p).toList =
      p.markers.map fun marker => (markerText marker).toList := by
  have filled : p.markers.map markerText ≠ [""] := by
    intro e
    obtain ⟨marker, -, empty⟩ := List.mem_map.mp (e ▸ List.mem_singleton_self "")
    cases marker <;> simp [markerText] at empty
  have items := itemsOf_commaSeparated (spelled_markerTexts p) (by decide) filled
  rw [List.map_map] at items
  exact items

theorem markerArguments_injective : Function.Injective markerArguments := by
  intro p q h
  have items := congrArg (fun text => itemsOf .ignored ", ".toList text.toList) h
  simp only [itemsOf_markerArguments] at items
  refine Partition.markers_injective (List.map_injective_iff.mpr ?_ items)
  intro first second
  cases first with
  | false => cases second <;> decide
  | true => cases second <;> decide

/-- The arguments of the pattern's type are found in a parameter list. -/
theorem between?_parameters (p : Partition) :
    between? "pattern_tag<".toList ">".toList
      (commaSeparated (parameters (ofPartition p) .cpp)).toList =
        some (markerArguments p).toList := by
  obtain ⟨rest, tail⟩ := exists_commaSeparated_cons ("pattern_tag<" ++ markerArguments p ++ ">")
    ((List.range p.explicitCount).map fun index =>
      explicitTypeParameter index ++ "&& " ++ argumentName index)
  have shape : commaSeparated (parameters (ofPartition p) .cpp) =
      "const Container_& container, " ++
        ("pattern_tag<" ++ (markerArguments p ++ (">" ++ rest))) := by
    rw [parameters_ofPartition]
    simp only [List.cons_append, List.nil_append]
    rw [commaSeparated_cons_cons, tail, ← String.append_assoc, String.append_assoc,
      String.append_assoc]
    rfl
  rw [shape]
  exact between?_append (by decide) ((spelled_markerArguments p).avoids (by decide) rfl) rest

/-- The partition of a parameter list. -/
theorem parameters_injective :
    Function.Injective fun p => commaSeparated (parameters (ofPartition p) .cpp) := by
  intro p q h
  have tag := between?_parameters p
  simp only at h
  rw [h, between?_parameters q, Option.some_inj] at tag
  exact markerArguments_injective (String.toList_injective tag.symm)

/-! ## Signatures -/

/-- What keeps the overload of a partition apart from others. -/
def signature (p : Partition) : Target → String
  | .cpp => commaSeparated (parameters (ofPartition p) .cpp)
  | .rust => functionName (ofPartition p)

theorem signature_injective (target : Target) : Function.Injective fun p => signature p target := by
  cases target with
  | cpp => exact parameters_injective
  | rust => exact functionName_injective

/-- What stands in front of the signature in a definition, and what ends it. -/
def signatureMarks : Target → String × String
  | .cpp => ("make_impl(", ")")
  | .rust => ("pub fn ", "<")

/-- The signature that a definition shows. -/
def signature? (target : Target) (definition : String) : Option String :=
  (between? target.signatureMarks.1.toList target.signatureMarks.2.toList definition.toList).map
    String.ofList

theorem between?_signature_cpp (p : Partition) :
    between? "make_impl(".toList ")".toList (definitionText p .cpp).toList =
      some (signature p .cpp).toList := by
  obtain ⟨rest, shape⟩ : ∃ rest, definitionText p .cpp =
      String.join ["template<", commaSeparated (typeParameters (ofPartition p) .cpp), ">\n",
        "Impl_* "] ++ ("make_impl(" ++ (signature p .cpp ++ (")" ++ rest))) := by
    unfold definitionText signature
    rw [show "Impl_* make_impl(" = "Impl_* " ++ "make_impl(" from rfl,
      show ")\n" = ")" ++ "\n" from rfl]
    simp only [String.join_cons, String.join_nil, String.append_assoc, String.empty_append]
    exact ⟨_, rfl⟩
  have types : Avoids "make_impl(".toList
      (commaSeparated (typeParameters (ofPartition p) .cpp)).toList :=
    avoids_commaSeparated (spelled_typeParameters .cpp p) (by decide) rfl
  rw [shape]
  refine between?_append (avoids_join ?_) ((spelled_parameters .cpp p).avoids (by decide) rfl) rest
  simp only [List.forall_mem_cons]
  exact ⟨by decide, types, by decide, by decide, by simp⟩

theorem between?_signature_rust (p : Partition) :
    between? "pub fn ".toList "<".toList (definitionText p .rust).toList =
      some (signature p .rust).toList := by
  obtain ⟨rest, shape⟩ : ∃ rest, definitionText p .rust =
      String.join ["/// Arity ", toString p.arity, ", pattern `", p.text, "`.\n",
        "#[allow(clippy::too_many_arguments, unused_variables)]\n"] ++
        ("pub fn " ++ (signature p .rust ++ ("<" ++ rest))) := by
    unfold definitionText signature
    simp only [String.join_cons, String.join_nil, String.append_assoc, String.empty_append]
    exact ⟨_, rfl⟩
  have arity : Spelled [] (toString p.arity).toList := spelled_toString p.arity
  have pattern : Spelled ["<empty>"] p.text.toList := spelled_text (by decide) p
  rw [shape]
  refine between?_append (avoids_join ?_) ((spelled_functionName p).avoids (by decide) rfl) rest
  simp only [List.forall_mem_cons]
  exact ⟨by decide, arity.avoids (by decide) rfl, by decide, pattern.avoids (by decide) rfl,
    by decide, by decide +kernel, by simp⟩

/-- A definition shows the signature of its partition. -/
theorem signature?_definitionText (target : Target) (p : Partition) :
    target.signature? (definitionText p target) = some (signature p target) := by
  have found : between? target.signatureMarks.1.toList target.signatureMarks.2.toList
      (definitionText p target).toList = some (signature p target).toList := by
    cases target with
    | cpp => exact between?_signature_cpp p
    | rust => exact between?_signature_rust p
  rw [signature?, found, Option.map_some, String.ofList_toList]

/-- Overloads of different partitions have different texts. -/
theorem block_injective (target : Target) : Function.Injective target.block := by
  intro p q h
  have shown := congrArg (fun block => target.signature? block.definition) h
  simp only [block, signature?_definitionText, Option.some_inj] at shown
  exact signature_injective target shown

end Target

end FactoryOverloads
