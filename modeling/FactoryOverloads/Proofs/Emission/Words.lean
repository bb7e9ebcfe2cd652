import FactoryOverloads.Proofs.Emission.Block
import FactoryOverloads.Proofs.Text.Number
import FactoryOverloads.Proofs.Text.Search

/-!
# The words of emitted texts

The texts bound for an overload are long, but put together from a few fixed
words and decimal numbers. For each list of a target its words are named
(`Target.typeWords`, `Target.parameterWords`, `Target.argumentWords`,
`Target.boundWords`), and every item of the list is spelled with them, whatever
the partition (`spelled_typeParameters` and so on). That a reader's pattern does
not begin inside a list then only asks for a look at the words
(`avoids_commaSeparated`).
-/

namespace FactoryOverloads

open Text (Avoids Spelled itemsOf itemsOf_intercalate whole_of_avoids)
open Plan (ofPartition)

section Spelled

variable {words : List String} {first second stem opening mark closing middle : String}

theorem spelled_append (h₁ : Spelled words first.toList) (h₂ : Spelled words second.toList) :
    Spelled words (first ++ second).toList := by
  rw [String.toList_append]
  exact h₁.append h₂

theorem spelled_toString (n : Nat) : Spelled words (toString n).toList :=
  .ofDigits fun _ => isDigit_of_mem_toString

/-- A name that consists of a stem and a number. -/
theorem spelled_numbered (mem : stem ∈ words) (n : Nat) :
    Spelled words (stem ++ toString n).toList :=
  spelled_append (.ofWord mem) (spelled_toString n)

/-- Two numbered names with a mark between them. -/
theorem spelled_pair (left : first ∈ words) (between : mark ∈ words) (right : second ∈ words)
    (m n : Nat) :
    Spelled words (first ++ toString m ++ mark ++ (second ++ toString n)).toList :=
  spelled_append (spelled_append (spelled_numbered left m) (.ofWord between))
    (spelled_numbered right n)

theorem spelled_enclosed (before : opening ∈ words) (h : Spelled words middle.toList)
    (after : closing ∈ words) : Spelled words (opening ++ middle ++ closing).toList :=
  spelled_append (spelled_append (.ofWord before) h) (.ofWord after)

theorem spelled_commaSeparated {items : List String} (mem : ", " ∈ words)
    (h : ∀ item ∈ items, Spelled words item.toList) :
    Spelled words (commaSeparated items).toList := by
  rw [commaSeparated, String.toList_intercalate]
  exact .intercalate mem (List.forall_mem_map.mpr h)

/-- A pattern that the words of the items avoid, and the separator avoids, is
avoided by the whole list. -/
theorem avoids_commaSeparated {items : List String} {pattern : List Char}
    (h : ∀ item ∈ items, Spelled words item.toList)
    (hw : ∀ word ∈ ", " :: words, Avoids pattern word.toList)
    (start : pattern.head?.map Char.isDigit = some false) :
    Avoids pattern (commaSeparated items).toList :=
  (spelled_commaSeparated List.mem_cons_self fun item mem =>
    (h item mem).mono (List.subset_cons_self ", " words)).avoids hw start

/-- Of items that the separator does not begin in, the whole list is taken apart
into the items. -/
theorem itemsOf_intercalate_spelled {separator : String} {items : List String}
    (h : ∀ item ∈ items, Spelled words item.toList)
    (hw : ∀ word ∈ words, Avoids separator.toList word.toList)
    (start : separator.toList.head?.map Char.isDigit = some false)
    (filled : items ≠ [""]) :
    itemsOf .ignored separator.toList (separator.intercalate items).toList =
      items.map String.toList := by
  rw [String.toList_intercalate]
  refine itemsOf_intercalate (fun empty => ?_) (fun empty => filled ?_)
    (List.forall_mem_map.mpr fun item mem => ?_)
  · rw [empty] at start
    cases start
  · have injective : Function.Injective String.toList := fun _ _ => String.toList_injective
    exact List.map_injective_iff.mpr injective (empty.trans rfl)
  · exact whole_of_avoids ((h item mem).avoids hw start) fun _ _ => rfl

theorem itemsOf_commaSeparated {items : List String}
    (h : ∀ item ∈ items, Spelled words item.toList)
    (hw : ∀ word ∈ words, Avoids ", ".toList word.toList) (filled : items ≠ [""]) :
    itemsOf .ignored ", ".toList (commaSeparated items).toList = items.map String.toList :=
  itemsOf_intercalate_spelled h hw rfl filled

end Spelled

namespace Target

/-! ## Lists of an overload -/

/-- The words of a type parameter's declaration. -/
def typeWords : Target → List String
  | .cpp => ["class Impl_", "class Container_", "typename ", "T", "A"]
  | .rust => ["R", "C", "F", "T", "A"]

theorem spelled_typeParameters (target : Target) (p : Partition) :
    ∀ item ∈ typeParameters (ofPartition p) target, Spelled target.typeWords item.toList := by
  intro item mem
  cases target with
  | cpp =>
    simp only [typeParameters, Plan.injectedTypeParameters_ofPartition,
      Plan.explicitTypeParameters_ofPartition, List.mem_append, List.mem_map,
      List.mem_singleton] at mem
    rcases mem with ((rfl | ⟨_, ⟨position, _, rfl⟩, rfl⟩) | rfl) | ⟨_, ⟨index, _, rfl⟩, rfl⟩
    · exact .ofWord (by decide)
    · exact spelled_append (.ofWord (by decide)) (spelled_numbered (by decide) position)
    · exact .ofWord (by decide)
    · exact spelled_append (.ofWord (by decide)) (spelled_numbered (by decide) index)
  | rust =>
    simp only [typeParameters, Plan.injectedTypeParameters_ofPartition,
      Plan.explicitTypeParameters_ofPartition, List.mem_append, List.mem_map, List.mem_cons,
      List.not_mem_nil, or_false] at mem
    rcases mem with ((rfl | ⟨position, _, rfl⟩) | rfl | rfl) | ⟨index, _, rfl⟩
    · exact .ofWord (by decide)
    · exact spelled_numbered (by decide) position
    · exact .ofWord (by decide)
    · exact .ofWord (by decide)
    · exact spelled_numbered (by decide) index

/-- A marker as an argument of the pattern's type. -/
def markerText (marker : Bool) : String := if marker then "true" else "false"

/-- The words of the arguments of the pattern's type. -/
def markerWords : List String := ["true", "false"]

theorem spelled_markerTexts (p : Partition) :
    ∀ item ∈ p.markers.map markerText, Spelled markerWords item.toList := by
  refine List.forall_mem_map.mpr fun marker _ => ?_
  cases marker with
  | true => exact .ofWord (by decide)
  | false => exact .ofWord (by decide)

theorem spelled_markerArguments (p : Partition) :
    Spelled (", " :: markerWords) (markerArguments p).toList :=
  spelled_commaSeparated List.mem_cons_self fun item mem =>
    (spelled_markerTexts p item mem).mono (List.subset_cons_self ", " markerWords)

/-- The parameters of a planned overload: two fixed ones, and one for each
explicit argument. -/
theorem parameters_ofPartition (target : Target) (p : Partition) :
    parameters (ofPartition p) target =
      match target with
      | .cpp =>
        ["const Container_& container", "pattern_tag<" ++ markerArguments p ++ ">"] ++
          (List.range p.explicitCount).map fun index =>
            explicitTypeParameter index ++ "&& " ++ argumentName index
      | .rust =>
        ["container: &C", "ctor: F"] ++
          (List.range p.explicitCount).map fun index =>
            argumentName index ++ ": " ++ explicitTypeParameter index := by
  cases target with
  | cpp =>
    rw [parameters, Plan.explicitArguments_ofPartition, Plan.partition_ofPartition]
    refine congrArg _ (List.ext_getElem (by simp) fun index _ _ => ?_)
    simp
  | rust =>
    rw [parameters, Plan.explicitArguments_ofPartition]
    refine congrArg _ (List.ext_getElem (by simp) fun index _ _ => ?_)
    simp

/-- A list begins with its first item and a separator. -/
theorem commaSeparated_cons_cons (item next : String) (items : List String) :
    commaSeparated (item :: next :: items) = item ++ (", " ++ commaSeparated (next :: items)) :=
  String.intercalate_cons_cons.trans String.append_assoc

theorem exists_commaSeparated_cons (item : String) (items : List String) :
    ∃ rest, commaSeparated (item :: items) = item ++ rest := by
  cases items with
  | nil => exact ⟨"", by rw [commaSeparated, String.intercalate_singleton, String.append_empty]⟩
  | cons next items => exact ⟨_, commaSeparated_cons_cons item next items⟩

/-- The words of a list of parameters. -/
def parameterWords : Target → List String
  | .cpp =>
    ["const Container_& container, ", "pattern_tag<", "true", "false", ", ", ">", "A", "&& ", "arg"]
  | .rust => ["container: &C", "ctor: F", ", ", "arg", ": ", "A"]

theorem spelled_parameters (target : Target) (p : Partition) :
    Spelled target.parameterWords (commaSeparated (parameters (ofPartition p) target)).toList := by
  rw [parameters_ofPartition]
  cases target with
  | cpp =>
    have tag := (spelled_markerArguments p).mono
      (show ", " :: markerWords ⊆ parameterWords .cpp by decide)
    simp only [List.cons_append, List.nil_append]
    rw [commaSeparated_cons_cons, ← String.append_assoc]
    refine spelled_append (.ofWord (by decide)) (spelled_commaSeparated (by decide) ?_)
    refine List.forall_mem_cons.mpr ⟨?_, List.forall_mem_map.mpr fun index _ => ?_⟩
    · exact spelled_enclosed (by decide) tag (by decide)
    · exact spelled_pair (by decide) (by decide) (by decide) index index
  | rust =>
    simp only [List.cons_append, List.nil_append]
    refine spelled_commaSeparated (by decide) (List.forall_mem_cons.mpr ⟨?_,
      List.forall_mem_cons.mpr ⟨?_, List.forall_mem_map.mpr fun index _ => ?_⟩⟩)
    · exact .ofWord (by decide)
    · exact .ofWord (by decide)
    · exact spelled_pair (by decide) (by decide) (by decide) index index

/-- The words of an argument of the constructor call. -/
def argumentWords : Target → List String
  | .cpp => ["std::forward<", "A", ">(", "arg", ")", "container.template resolve<", "T", ">()"]
  | .rust => ["arg", "<C as Resolve<", "T", ">>::resolve(container)?"]

theorem spelled_argumentText (target : Target) (slot : Slot) :
    Spelled target.argumentWords (target.argumentText slot).toList := by
  cases target with
  | cpp =>
    cases slot with
    | explicitRef index =>
      exact spelled_append (spelled_append (spelled_append
        (spelled_append (.ofWord (by decide)) (spelled_numbered (by decide) index))
        (.ofWord (by decide))) (spelled_numbered (by decide) index)) (.ofWord (by decide))
    | injectedResolve position =>
      exact spelled_enclosed (by decide) (spelled_numbered (by decide) position) (by decide)
  | rust =>
    cases slot with
    | explicitRef index => exact spelled_numbered (by decide) index
    | injectedResolve position =>
      exact spelled_enclosed (by decide) (spelled_numbered (by decide) position) (by decide)

theorem spelled_argumentTexts (target : Target) (p : Partition) :
    ∀ item ∈ target.argumentTexts p, Spelled target.argumentWords item.toList :=
  List.forall_mem_map.mpr fun position _ => spelled_argumentText target (p.slot position)

/-! ## Texts of a `rust` overload -/

theorem spelled_pattern {words : List String} (p : Partition) :
    Spelled words p.pattern.toList := by
  refine .ofDigits fun c mem => ?_
  rw [Partition.pattern, String.toList_ofList] at mem
  obtain ⟨marker, -, rfl⟩ := List.mem_map.mp mem
  cases marker <;> rfl

theorem spelled_text {words : List String} (mem : "<empty>" ∈ words) (p : Partition) :
    Spelled words p.text.toList := by
  rw [Partition.text]
  split
  · exact .ofWord mem
  · exact spelled_pattern p

/-- The words of a function's name. -/
def nameWords : List String := ["make_0", "make_", "_"]

theorem spelled_functionName (p : Partition) :
    Spelled nameWords (functionName (ofPartition p)).toList := by
  rw [functionName]
  split
  · exact .ofWord (by decide)
  · exact spelled_append (spelled_append (spelled_numbered (by decide) p.arity)
      (.ofWord (by decide))) (spelled_pattern p)

/-- The type parameter of a slot. -/
theorem spelled_typeParameter {words : List String} (explicit : "A" ∈ words)
    (injected : "T" ∈ words) (slot : Slot) : Spelled words slot.typeParameter.toList := by
  cases slot with
  | explicitRef index => exact spelled_numbered explicit index
  | injectedResolve position => exact spelled_numbered injected position

/-- The bounds of the container. -/
def containerBounds (p : Partition) : List String :=
  "Container" :: p.injectedPositions.map fun position =>
    "Resolve<" ++ injectedTypeParameter position ++ ">"

/-- The types of the constructor's inputs. -/
def constructorInputs (p : Partition) : List String :=
  (List.range p.arity).map fun position => (p.slot position).typeParameter

/-- What a planned overload asks of the container and of the constructor. -/
theorem bounds_ofPartition (p : Partition) :
    bounds (ofPartition p) =
      "    C: " ++ " + ".intercalate (containerBounds p) ++ ",\n" ++
      "    F: FnOnce(" ++ commaSeparated (constructorInputs p) ++ ") -> R," := by
  simp only [bounds, containerBounds, constructorInputs, Plan.injectedTypeParameters_ofPartition,
    Plan.call_ofPartition, List.map_map, Function.comp_def]

/-- The words of a bound of the container. -/
def containerWords : List String := ["Container", "Resolve<", "T", ">"]

theorem spelled_containerBounds (p : Partition) :
    ∀ item ∈ containerBounds p, Spelled containerWords item.toList := by
  refine List.forall_mem_cons.mpr
    ⟨.ofWord (by decide), List.forall_mem_map.mpr fun position _ => ?_⟩
  exact spelled_enclosed (by decide) (spelled_numbered (by decide) position) (by decide)

theorem spelled_constructorInputs (p : Partition) :
    ∀ item ∈ constructorInputs p, Spelled ["A", "T"] item.toList :=
  List.forall_mem_map.mpr fun position _ =>
    spelled_typeParameter (by decide) (by decide) (p.slot position)

theorem spelled_joinedBounds (p : Partition) :
    Spelled (" + " :: containerWords) (" + ".intercalate (containerBounds p)).toList := by
  rw [String.toList_intercalate]
  exact .intercalate List.mem_cons_self (List.forall_mem_map.mpr fun item mem =>
    (spelled_containerBounds p item mem).mono (List.subset_cons_self " + " containerWords))

/-- The words of the bounds. -/
def boundWords : List String :=
  ["    C: ", ",\n", "    F: FnOnce(", ") -> R,", ", ", "A", " + "] ++ containerWords

theorem spelled_bounds (p : Partition) : Spelled boundWords (bounds (ofPartition p)).toList := by
  have container := (spelled_joinedBounds p).mono
    (show " + " :: containerWords ⊆ boundWords by decide)
  have inputs : Spelled boundWords (commaSeparated (constructorInputs p)).toList :=
    spelled_commaSeparated (by decide) fun item mem =>
      (spelled_constructorInputs p item mem).mono (by decide)
  rw [bounds_ofPartition]
  exact spelled_append (spelled_append (spelled_append (spelled_append (spelled_append
    (.ofWord (by decide)) container) (.ofWord (by decide))) (.ofWord (by decide))) inputs)
    (.ofWord (by decide))

end Target

end FactoryOverloads
