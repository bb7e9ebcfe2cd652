import FactoryOverloads.Proofs.Artifact.Building
import FactoryOverloads.Proofs.Emission.Words
import FactoryOverloads.Proofs.Partition.Word

/-!
# Building is total

Whether an artifact is built depends on the bounds alone: they are refused as
settings, or nothing after them fails (`Artifact.build_total`). With valid bounds
every operation that has a domain is used inside of it (`Plan.InDomain`), and no
placeholder is left in the text, since neither the fixed parts of an emitted text
nor what is bound in them holds a dollar sign (`Target.dollar_notMem_definitionText`,
`Target.dollar_notMem_prologueText`).
-/

namespace FactoryOverloads

open Plan (ofPartition)
open Text (Spelled notMem_of_avoids)

/-! ## Dollar signs -/

/-- A character that a fixed text does not hold, looked for in the list of its
characters. -/
theorem Text.notMem_of_eq_ofList {text : String} {characters : List Char} {c : Char}
    (e : text = String.ofList characters) (h : c ∉ characters) : c ∉ text.toList := by
  rwa [e, String.toList_ofList]

theorem Text.dollar_notMem_of_spelled {words : List String} {text : List Char}
    (h : Spelled words text) (hw : ∀ word ∈ words, Avoids ['$'] word.toList) : '$' ∉ text :=
  notMem_of_avoids (h.avoids hw rfl)

namespace Target

section Bound

variable (target : Target) (p : Partition)

theorem dollar_notMem_toString (n : Nat) : '$' ∉ (toString n).toList :=
  Text.dollar_notMem_of_spelled (spelled_toString n) (List.forall_mem_nil _)

theorem dollar_notMem_text : '$' ∉ p.text.toList := by
  have spelled : Spelled ["<empty>"] p.text.toList := spelled_text (by decide) p
  exact Text.dollar_notMem_of_spelled spelled (by decide)

theorem dollar_notMem_typeParameters :
    '$' ∉ (commaSeparated (typeParameters (ofPartition p) target)).toList :=
  notMem_of_avoids (avoids_commaSeparated (spelled_typeParameters target p)
    (by cases target <;> decide) rfl)

theorem dollar_notMem_parameters :
    '$' ∉ (commaSeparated (parameters (ofPartition p) target)).toList :=
  Text.dollar_notMem_of_spelled (spelled_parameters target p) (by cases target <;> decide)

theorem dollar_notMem_argumentTexts : '$' ∉ (commaSeparated (target.argumentTexts p)).toList :=
  notMem_of_avoids (avoids_commaSeparated (spelled_argumentTexts target p)
    (by cases target <;> decide) rfl)

theorem dollar_notMem_functionName : '$' ∉ (functionName (ofPartition p)).toList :=
  Text.dollar_notMem_of_spelled (spelled_functionName p) (by decide)

theorem dollar_notMem_bounds : '$' ∉ (bounds (ofPartition p)).toList :=
  Text.dollar_notMem_of_spelled (spelled_bounds p) (by decide)

end Bound

theorem dollar_notMem_definitionText (p : Partition) (target : Target) :
    '$' ∉ (definitionText p target).toList := by
  cases target with
  | cpp =>
    unfold definitionText
    simp only [String.toList_append, List.mem_append, not_or, dollar_notMem_typeParameters,
      dollar_notMem_parameters, dollar_notMem_argumentTexts, not_false_eq_true, and_true]
    and_intros <;> exact Text.notMem_of_eq_ofList rfl (by decide +kernel)
  | rust =>
    unfold definitionText
    simp only [String.toList_append, List.mem_append, not_or, dollar_notMem_toString,
      dollar_notMem_text, dollar_notMem_functionName, dollar_notMem_typeParameters,
      dollar_notMem_parameters, dollar_notMem_bounds, dollar_notMem_argumentTexts,
      not_false_eq_true, and_true]
    and_intros <;> exact Text.notMem_of_eq_ofList rfl (by decide +kernel)

theorem dollar_notMem_declarationText {p : Partition} {target : Target} {text : String}
    (h : declarationText? p target = some text) : '$' ∉ text.toList := by
  cases target with
  | cpp =>
    unfold declarationText? at h
    cases h
    simp only [String.toList_append, List.mem_append, not_or, dollar_notMem_toString,
      dollar_notMem_text, dollar_notMem_typeParameters, dollar_notMem_parameters,
      not_false_eq_true, and_true]
    and_intros <;> exact Text.notMem_of_eq_ofList rfl (by decide +kernel)
  | rust => cases h

theorem dollar_notMem_prologueText (minArity maxArity : Nat) (target : Target) :
    '$' ∉ (prologueText minArity maxArity target).toList := by
  cases target with
  | cpp =>
    unfold prologueText
    simp only [String.toList_append, List.mem_append, not_or, dollar_notMem_toString,
      not_false_eq_true, and_true]
    and_intros <;> exact Text.notMem_of_eq_ofList rfl (by decide +kernel)
  | rust =>
    unfold prologueText
    simp only [String.toList_append, List.mem_append, not_or, dollar_notMem_toString,
      not_false_eq_true, and_true]
    and_intros <;> exact Text.notMem_of_eq_ofList rfl (by decide +kernel)

theorem dollar_notMem_epilogue (target : Target) : '$' ∉ target.epilogue.toList := by
  cases target with
  | cpp => exact Text.notMem_of_eq_ofList rfl (by decide +kernel)
  | rust => exact List.not_mem_nil

end Target

namespace Artifact

/-- What no part of an artifact holds, its text does not hold. -/
theorem notMem_text {artifact : Artifact} {c : Char} (prologue : c ∉ artifact.prologue.toList)
    (declarations : ∀ block ∈ artifact.blocks, ∀ text, block.declaration = some text →
      c ∉ text.toList)
    (definitions : ∀ block ∈ artifact.blocks, c ∉ block.definition.toList)
    (epilogue : c ∉ artifact.epilogue.toList) : c ∉ artifact.text.toList := by
  rw [text, String.toList_join, List.mem_flatMap]
  rintro ⟨part, mem, inside⟩
  simp only [parts, Artifact.declarations, Artifact.definitions, List.mem_append,
    List.mem_singleton, List.mem_filterMap, List.mem_map] at mem
  rcases mem with ((rfl | ⟨block, mem, declared⟩) | ⟨block, mem, rfl⟩) | rfl
  · exact prologue inside
  · exact declarations block mem part declared inside
  · exact definitions block mem inside
  · exact epilogue inside

end Artifact

/-! ## Domains -/

/-- The operations on the partitions of an arity are used inside their domains:
the number of partitions fits a machine word, they are all enumerated, the mask of
the arity is shifted by less than the width of its word, every marker is read at a
position of its partition, and out of the word without a negative difference or a
shift that is too far, and every call of their plans refers to arguments that there
are. -/
structure Plan.InDomain (target : Target) (arity : Nat) : Prop where
  counted : Partition.count arity = .ok (2 ^ arity)
  enumerated : ∃ ps, Partition.all arity = .ok ps ∧ ps.length = 2 ^ arity
  masked : Partition.mask? arity = some (BitVec.ofNat 32 (2 ^ arity - 1))
  marked : ∀ p : Partition, p.arity = arity → (List.range arity).mapM p.marker = .ok p.markers
  read : ∀ p : Partition, p.arity = arity →
    (List.range arity).mapM (Partition.marker? arity p.word) = some p.markers
  bound : ∀ p : Partition, p.arity = arity →
    ∃ bindings, target.planBindings (ofPartition p) = .ok bindings

theorem Plan.inDomain {arity : Nat} (h : arity ≤ 32) (target : Target) :
    InDomain target arity where
  counted := if_pos (by omega)
  enumerated := by
    obtain ⟨ps, all, order⟩ := Partition.all_markers h
    refine ⟨ps, all, ?_⟩
    rw [← List.length_map (f := Partition.markers), order, Partition.length_markerLists]
  masked := Partition.mask?_eq h
  marked p e := by
    subst e
    exact mapM_eq_pure fun position mem => if_pos (List.mem_range.mp mem)
  read p e := by
    subst e
    exact mapM_eq_pure fun position mem => p.marker?_word (List.mem_range.mp mem)
  bound p _ := ⟨_, Target.planBindings_ofPartition target p⟩

namespace Settings

/-- The number that is told of an arity that is not supported can be counted. -/
theorem arityError_eq (maxArity : Nat) :
    arityError maxArity = .settings (.arityTooLarge maxArity (2 ^ min maxArity 63)) := by
  have counted : Partition.count (min maxArity 63) = .ok (2 ^ min maxArity 63) :=
    if_pos (by omega)
  rw [arityError, counted]

/-- Bounds that are not valid are refused as settings. -/
theorem exists_validate_eq_error {settings : Settings} (h : settings.validate ≠ .ok ()) :
    ∃ cause, settings.validate = .error (.settings cause) := by
  unfold validate at h ⊢
  rw [arityError_eq] at h ⊢
  split
  · exact ⟨_, rfl⟩
  · split
    · exact ⟨_, rfl⟩
    · split
      · exact ⟨_, rfl⟩
      · next notZero supported ordered =>
        rw [if_neg notZero, if_neg supported, if_neg ordered] at h
        exact absurd rfl h

end Settings

namespace Artifact

/-- The built-in engine builds an artifact exactly for valid bounds. Then all
operations are used inside their domains, and no placeholder is left in the text.
Other bounds are refused as settings. -/
theorem build_total (settings : Settings) :
    if 1 ≤ settings.maxArity ∧ settings.maxArity ≤ 20 ∧ settings.minArity ≤ settings.maxArity then
      (∀ arity ∈ settings.arities, Plan.InDomain settings.target arity) ∧
      ∃ artifact, build Engine.placeholder settings () = .ok (artifact, ()) ∧
        ¬ "$\x7b".toList <:+: artifact.text.toList
    else ∃ cause, build Engine.placeholder settings () = .error (.settings cause) := by
  split
  · next bounds =>
    have valid := settings.validate_eq_ok_iff.mpr bounds
    obtain ⟨ps, -, built⟩ := build_placeholder valid ()
    refine ⟨fun arity mem => Plan.inDomain ?_ settings.target, _, built, fun left => ?_⟩
    · have := (List.mem_range'_1.mp mem).2
      omega
    · refine notMem_text (Target.dollar_notMem_prologueText _ _ _) ?_ ?_
        (Target.dollar_notMem_epilogue _) (left.subset (show '$' ∈ "$\x7b".toList by decide))
      · exact List.forall_mem_map.mpr fun p _ text => Target.dollar_notMem_declarationText
      · exact List.forall_mem_map.mpr fun p _ => Target.dollar_notMem_definitionText p _
  · next bounds =>
    obtain ⟨cause, refused⟩ := Settings.exists_validate_eq_error
      (fun valid => bounds (settings.validate_eq_ok_iff.mp valid))
    exact ⟨cause, build_of_validate_error refused ()⟩

theorem build_total_up_to_twenty :
    Plan.InDomain .rust 20 ∧
    (∃ artifact, build Engine.placeholder ⟨0, 20, "out.rs", .rust⟩ () = .ok (artifact, ()) ∧
      ¬ "$\x7b".toList <:+: artifact.text.toList) ∧
    ∃ cause, build Engine.placeholder ⟨0, 21, "out.rs", .rust⟩ () = .error (.settings cause) := by
  have built := build_total ⟨0, 20, "out.rs", .rust⟩
  have refused := build_total ⟨0, 21, "out.rs", .rust⟩
  rw [if_pos (by decide)] at built
  rw [if_neg (by decide)] at refused
  exact ⟨built.1 20 (by decide), built.2, refused⟩

end Artifact

end FactoryOverloads
