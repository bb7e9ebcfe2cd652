import FactoryOverloads.Proofs.Emission.Reading

/-!
# Reading the bindings of an overload

The bindings of an overload are texts. A reader takes from them what the
overload declares and what it uses (`Overload`): the type parameters, the named
parameters with their types, the arguments of the constructor call and, for a
target that states bounds, what is asked of the container and of the
constructor. The bindings of a partition are read back as what was put into them
(`Overload.read?_bindings`), list by list.
-/

namespace FactoryOverloads

open Text (Avoids Spelled Whole cut? cut?_append cut?_of_avoids fields? fieldsBefore?_append
  fieldsBefore?_last fields?_append itemsOf itemsOf_intercalate notMem_of_avoids whole_append
  whole_of_avoids whole_angled)
open Plan (ofPartition)

/-- What an overload asks of the container and of the constructor. -/
structure Bounds where
  /-- The types that the container has to resolve. -/
  resolved : List String
  /-- The types of the constructor's inputs, in order. -/
  inputs : List String
  deriving DecidableEq, Repr

/-- What an overload declares and uses. -/
structure Overload where
  /-- The names of the type parameters, in order. -/
  typeParameters : List String
  /-- The named parameters, each with its type. -/
  parameters : List (String × String)
  /-- The arguments of the constructor call, in order. -/
  arguments : List Argument
  bounds : Option Bounds
  deriving DecidableEq, Repr

namespace Target

/-! ## Readers -/

/-- The name of a type parameter's declaration. -/
def typeParameter? : Target → List Char → Option String
  | .cpp, text =>
    match "class ".toList.isPrefixOf? text with
    | some name => name? name
    | none => ("typename ".toList.isPrefixOf? text).bind name?
  | .rust, text => name? text

/-- The name and the type of a parameter's declaration. In `cpp` a parameter
without a reference has no name. -/
def parameter? : Target → List Char → Option (String × String)
  | .cpp, text =>
    match cut? "&& ".toList text with
    | some (type, name) => some (String.ofList name, String.ofList type)
    | none => (cut? "& ".toList text).map fun (type, name) => (String.ofList name, String.ofList type)
  | .rust, text =>
    (cut? ": ".toList text).map fun (name, type) => (String.ofList name, String.ofList type)

/-- The type of a bound that asks the container for it. -/
def resolvedBound? (text : List Char) : Option String :=
  match fields? "Resolve<" [">"] text with
  | some [type] => some type
  | _ => none

/-- The bounds of the container `C` and of the constructor `F`. -/
def bounds? (text : List Char) : Option Bounds := do
  match fields? "    C: " [",\n    F: FnOnce(", ") -> R,"] text with
  | some [container, inputs] =>
    let inputs ← (itemsOf .ignored ", ".toList inputs.toList).mapM name?
    return ⟨(itemsOf .ignored " + ".toList container.toList).filterMap resolvedBound?, inputs⟩
  | _ => none

end Target

/-- What the bindings of an overload declare and use. -/
def Overload.read? (target : Target) (bindings : Bindings) : Option Overload := do
  let types ← bindings.find? "type_params"
  let typeParameters ← (itemsOf .ignored ", ".toList types.toList).mapM target.typeParameter?
  let params ← bindings.find? "params"
  let parameters := (itemsOf .angled ", ".toList params.toList).filterMap target.parameter?
  let call ← bindings.find? "call_args"
  let arguments ← target.arguments? call.toList
  match target with
  | .cpp => return ⟨typeParameters, parameters, arguments, none⟩
  | .rust =>
    let bounds ← Target.bounds? (← bindings.find? "bounds").toList
    return ⟨typeParameters, parameters, arguments, some bounds⟩

/-! ## Type parameters -/

namespace Target

/-- The names of the type parameters that the overload of a partition declares. -/
def typeParameterNames (p : Partition) : Target → List String
  | .cpp =>
    ["Impl_"] ++ p.injectedPositions.map injectedTypeParameter ++ ["Container_"] ++
      (List.range p.explicitCount).map explicitTypeParameter
  | .rust =>
    ["R"] ++ p.injectedPositions.map injectedTypeParameter ++ ["C", "F"] ++
      (List.range p.explicitCount).map explicitTypeParameter

theorem name?_explicitTypeParameter (index : Nat) :
    name? (explicitTypeParameter index).toList = some (explicitTypeParameter index) :=
  name?_toList (isName_numbered (by decide) index)

theorem name?_injectedTypeParameter (position : Nat) :
    name? (injectedTypeParameter position).toList = some (injectedTypeParameter position) :=
  name?_toList (isName_numbered (by decide) position)

theorem name?_typeParameter (slot : Slot) :
    name? slot.typeParameter.toList = some slot.typeParameter := by
  cases slot with
  | explicitRef index => exact name?_explicitTypeParameter index
  | injectedResolve position => exact name?_injectedTypeParameter position

theorem typeParameter?_typename {name : String} (h : name? name.toList = some name) :
    typeParameter? .cpp ("typename " ++ name).toList = some name := by
  have other : "class ".toList.isPrefixOf? ("typename ".toList ++ name.toList) = none := rfl
  rw [String.toList_append, typeParameter?, other, Text.isPrefixOf?_append]
  exact h

theorem map_typeParameter? (target : Target) (p : Partition) :
    (typeParameters (ofPartition p) target).map (fun item => target.typeParameter? item.toList) =
      (target.typeParameterNames p).map some := by
  cases target with
  | cpp =>
    have injected : (fun item : String => typeParameter? .cpp item.toList) ∘ ("typename " ++ ·) ∘
        injectedTypeParameter = some ∘ injectedTypeParameter :=
      funext fun position => typeParameter?_typename (name?_injectedTypeParameter position)
    have explicit : (fun item : String => typeParameter? .cpp item.toList) ∘ ("typename " ++ ·) ∘
        explicitTypeParameter = some ∘ explicitTypeParameter :=
      funext fun index => typeParameter?_typename (name?_explicitTypeParameter index)
    simp only [typeParameters, typeParameterNames, Plan.injectedTypeParameters_ofPartition,
      Plan.explicitTypeParameters_ofPartition, List.map_append, List.map_map, injected, explicit]
    rfl
  | rust =>
    have injected : (fun item : String => typeParameter? .rust item.toList) ∘
        injectedTypeParameter = some ∘ injectedTypeParameter :=
      funext name?_injectedTypeParameter
    have explicit : (fun item : String => typeParameter? .rust item.toList) ∘
        explicitTypeParameter = some ∘ explicitTypeParameter :=
      funext name?_explicitTypeParameter
    simp only [typeParameters, typeParameterNames, Plan.injectedTypeParameters_ofPartition,
      Plan.explicitTypeParameters_ofPartition, List.map_append, List.map_map, injected, explicit]
    rfl

theorem read_typeParameters (target : Target) (p : Partition) :
    (itemsOf .ignored ", ".toList
      (commaSeparated (typeParameters (ofPartition p) target)).toList).mapM target.typeParameter? =
      some (target.typeParameterNames p) :=
  mapM_itemsOf_commaSeparated (target.spelled_typeParameters p) (by cases target <;> decide)
    (target.map_typeParameter? p) (by cases target <;> rfl)

/-! ## Parameters -/

/-- The named parameters of the overload of a partition, with their types. -/
def parameterTypes (p : Partition) : Target → List (String × String)
  | .cpp => ("container", "const Container_") ::
      (List.range p.explicitCount).map fun index => (argumentName index, explicitTypeParameter index)
  | .rust => ("container", "&C") :: ("ctor", "F") ::
      (List.range p.explicitCount).map fun index => (argumentName index, explicitTypeParameter index)

theorem parameter?_reference (index : Nat) :
    parameter? .cpp (explicitTypeParameter index ++ "&& " ++ argumentName index).toList =
      some (argumentName index, explicitTypeParameter index) := by
  rw [String.append_assoc, String.toList_append, String.toList_append, parameter?,
    cut?_append (avoids_explicitTypeParameter rfl index (by decide))]
  simp only [String.ofList_toList]

theorem parameter?_typed (index : Nat) :
    parameter? .rust (argumentName index ++ ": " ++ explicitTypeParameter index).toList =
      some (argumentName index, explicitTypeParameter index) := by
  rw [String.append_assoc, String.toList_append, String.toList_append, parameter?,
    cut?_append (avoids_argumentName rfl index (by decide))]
  simp only [Option.map_some, String.ofList_toList]

theorem parameter?_tag (p : Partition) :
    parameter? .cpp ("pattern_tag<" ++ markerArguments p ++ ">").toList = none := by
  have tag : Spelled ("pattern_tag<" :: ">" :: ", " :: markerWords)
      ("pattern_tag<" ++ markerArguments p ++ ">").toList :=
    spelled_enclosed (by decide) ((spelled_markerArguments p).mono (by decide)) (by decide)
  rw [parameter?, cut?_of_avoids (tag.avoids (by decide) rfl) (by decide)]
  simp only
  rw [cut?_of_avoids (tag.avoids (by decide) rfl) (by decide)]
  rfl

theorem filterMap_parameter? (target : Target) (p : Partition) :
    (parameters (ofPartition p) target).filterMap (fun item => target.parameter? item.toList) =
      parameterTypes p target := by
  rw [parameters_ofPartition]
  cases target with
  | cpp =>
    have container : parameter? .cpp "const Container_& container".toList =
        some ("container", "const Container_") := by decide
    simp only [List.cons_append, List.nil_append, List.filterMap_cons, List.filterMap_map,
      Function.comp_def, container, parameter?_tag, parameter?_reference, List.filterMap_eq_map']
    rfl
  | rust =>
    have container : parameter? .rust "container: &C".toList = some ("container", "&C") := by decide
    have ctor : parameter? .rust "ctor: F".toList = some ("ctor", "F") := by decide
    simp only [List.cons_append, List.nil_append, List.filterMap_cons, List.filterMap_map,
      Function.comp_def, container, ctor, parameter?_typed, List.filterMap_eq_map']
    rfl

/-- A text without angle brackets, in which no separator begins, is a part of
one piece. -/
theorem whole_of_spelled {words : List String} {text : List Char} (h : Spelled words text)
    (hw : ∀ word ∈ words, Avoids ", ".toList word.toList)
    (opening : ∀ word ∈ words, Avoids ['<'] word.toList)
    (closing : ∀ word ∈ words, Avoids ['>'] word.toList) : Whole .angled ", ".toList text := by
  refine whole_of_avoids (h.avoids hw rfl) fun c mem => ?_
  have notOpening : c ≠ '<' := fun e => notMem_of_avoids (h.avoids opening rfl) (e ▸ mem)
  have notClosing : c ≠ '>' := fun e => notMem_of_avoids (h.avoids closing rfl) (e ▸ mem)
  unfold Text.Nesting.after
  split <;> simp_all

theorem whole_word {word : String} (h : Avoids ", ".toList word.toList)
    (opening : Avoids ['<'] word.toList) (closing : Avoids ['>'] word.toList) :
    Whole .angled ", ".toList word.toList :=
  whole_of_spelled (.ofWord (List.mem_singleton_self word)) (List.forall_mem_singleton.mpr h)
    (List.forall_mem_singleton.mpr opening) (List.forall_mem_singleton.mpr closing)

theorem whole_tag (p : Partition) :
    Whole .angled ", ".toList ("pattern_tag<" ++ markerArguments p ++ ">").toList := by
  have shape : ("pattern_tag<" ++ markerArguments p ++ ">").toList =
      "pattern_tag".toList ++ ('<' :: ((markerArguments p).toList ++ ['>'])) := by
    rw [show "pattern_tag<" = "pattern_tag" ++ "<" from rfl]
    simp only [String.toList_append, List.append_assoc]
    rfl
  have opening : '<' ∉ (markerArguments p).toList :=
    notMem_of_avoids ((spelled_markerArguments p).avoids (by decide) rfl)
  have closing : '>' ∉ (markerArguments p).toList :=
    notMem_of_avoids ((spelled_markerArguments p).avoids (by decide) rfl)
  rw [shape]
  exact whole_append (whole_word (by decide) (by decide) (by decide)) (whole_angled (by decide)
    fun c mem => ⟨fun e => opening (e ▸ mem), fun e => closing (e ▸ mem)⟩)

theorem whole_parameters (target : Target) (p : Partition) :
    ∀ item ∈ parameters (ofPartition p) target, Whole .angled ", ".toList item.toList := by
  rw [parameters_ofPartition]
  cases target with
  | cpp =>
    simp only [List.cons_append, List.nil_append, List.forall_mem_cons, List.forall_mem_map]
    refine ⟨whole_word (by decide) (by decide) (by decide), whole_tag p, fun index _ => ?_⟩
    have item : Spelled ["A", "&& ", "arg"]
        (explicitTypeParameter index ++ "&& " ++ argumentName index).toList :=
      spelled_pair (by decide) (by decide) (by decide) index index
    exact whole_of_spelled item (by decide) (by decide) (by decide)
  | rust =>
    simp only [List.cons_append, List.nil_append, List.forall_mem_cons, List.forall_mem_map]
    refine ⟨whole_word (by decide) (by decide) (by decide),
      whole_word (by decide) (by decide) (by decide), fun index _ => ?_⟩
    have item : Spelled ["arg", ": ", "A"]
        (argumentName index ++ ": " ++ explicitTypeParameter index).toList :=
      spelled_pair (by decide) (by decide) (by decide) index index
    exact whole_of_spelled item (by decide) (by decide) (by decide)

theorem read_parameters (target : Target) (p : Partition) :
    (itemsOf .angled ", ".toList
      (commaSeparated (parameters (ofPartition p) target)).toList).filterMap target.parameter? =
      parameterTypes p target := by
  have filled : (parameters (ofPartition p) target).map String.toList ≠ [[]] := by
    intro e
    have length := congrArg List.length e
    rw [List.length_map, parameters_ofPartition] at length
    cases target <;> simp at length
  rw [commaSeparated, String.toList_intercalate, itemsOf_intercalate (by decide) filled
    (List.forall_mem_map.mpr (target.whole_parameters p)), List.filterMap_map]
  exact target.filterMap_parameter? p

/-! ## Bounds -/

/-- The bounds of the overload of a partition. -/
def boundsOf (p : Partition) : Bounds where
  resolved := p.injectedPositions.map injectedTypeParameter
  inputs := constructorInputs p

theorem resolvedBound?_resolve (position : Nat) :
    resolvedBound? ("Resolve<" ++ injectedTypeParameter position ++ ">").toList =
      some (injectedTypeParameter position) := by
  rw [String.append_assoc, resolvedBound?, fields?_append,
    fieldsBefore?_last (avoids_injectedTypeParameter rfl position (by decide))]

theorem read_containerBounds (p : Partition) :
    (itemsOf .ignored " + ".toList (" + ".intercalate (containerBounds p)).toList).filterMap
      resolvedBound? = p.injectedPositions.map injectedTypeParameter := by
  have container : resolvedBound? "Container".toList = none := by decide
  rw [itemsOf_intercalate_spelled (spelled_containerBounds p) (by decide) rfl
    (by simp [containerBounds]), containerBounds, List.map_cons, List.filterMap_cons, container,
    List.map_map, List.filterMap_map]
  simp only [Function.comp_def, resolvedBound?_resolve, List.filterMap_eq_map']

theorem read_constructorInputs (p : Partition) :
    (itemsOf .ignored ", ".toList (commaSeparated (constructorInputs p)).toList).mapM name? =
      some (constructorInputs p) := by
  refine mapM_itemsOf_commaSeparated (spelled_constructorInputs p) (by decide) ?_ rfl
  rw [constructorInputs, List.map_map, List.map_map]
  exact List.map_congr_left fun position _ => name?_typeParameter (p.slot position)

theorem bounds?_bounds (p : Partition) :
    bounds? (bounds (ofPartition p)).toList = some (boundsOf p) := by
  have shape : bounds (ofPartition p) = "    C: " ++ (" + ".intercalate (containerBounds p) ++
      (",\n    F: FnOnce(" ++ (commaSeparated (constructorInputs p) ++ ") -> R,"))) := by
    rw [bounds_ofPartition, show ",\n    F: FnOnce(" = ",\n" ++ "    F: FnOnce(" from rfl]
    simp only [String.append_assoc]
  have inputs : Avoids ") -> R,".toList (commaSeparated (constructorInputs p)).toList :=
    avoids_commaSeparated (spelled_constructorInputs p) (by decide) rfl
  have container : Avoids ",\n    F: FnOnce(".toList
      (" + ".intercalate (containerBounds p)).toList :=
    (spelled_joinedBounds p).avoids (by decide) rfl
  rw [shape, bounds?, fields?_append, fieldsBefore?_append container, fieldsBefore?_last inputs]
  simp only [Option.map_some, read_constructorInputs, read_containerBounds]
  rfl

end Target

/-! ## Overloads -/

/-- What the overload of a partition declares and uses. -/
def Target.overload (target : Target) (p : Partition) : Overload where
  typeParameters := target.typeParameterNames p
  parameters := target.parameterTypes p
  arguments := (List.range p.arity).map fun position => target.argument (p.slot position)
  bounds :=
    match target with
    | .cpp => none
    | .rust => some (boundsOf p)

theorem Overload.read?_bindings (target : Target) (p : Partition) :
    read? target (target.bindings p) = some (target.overload p) := by
  rw [read?, Target.find?_type_params, Target.find?_params, Target.find?_call_args]
  simp only [Option.bind_eq_bind, Option.bind_some, Target.read_typeParameters,
    Target.read_parameters, Target.arguments?_argumentTexts]
  cases target with
  | cpp => rfl
  | rust =>
    simp only [Target.find?_bounds, Option.bind_some, Target.bounds?_bounds]
    rfl

end FactoryOverloads
