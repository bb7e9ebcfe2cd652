import Mathlib.Data.List.Forall2
import Mathlib.Data.List.Nodup
import FactoryOverloads.Proofs.Emission.Overload

/-!
# The scope of an overload

An overload is put together from several lists, which have to agree with one
another (`Overload.WellScoped`): the call passes every declared argument on,
resolves every declared type of an injected position, and refers to nothing
else, and the bounds ask for what the call needs. What is read from the bindings
of a partition agrees in this way (`Target.wellScoped_planBindings`). Names are
different because their stems or their numbers are.
-/

namespace FactoryOverloads

open Plan (ofPartition)

namespace Argument

/-- The parameter that is passed on. -/
def passedName? : Argument → Option String
  | .passed _ name => some name
  | .resolved .. => none

/-- The type that is resolved. -/
def resolvedType? : Argument → Option String
  | .passed .. => none
  | .resolved _ _ type => some type

/-- The parameters that an argument refers to. -/
def names : Argument → List String
  | .passed _ name => [name]
  | .resolved _ receiver _ => [receiver]

/-- The type parameters that an argument refers to. -/
def types : Argument → List String
  | .passed type _ => type.toList
  | .resolved through _ type => type :: through.toList

end Argument

namespace Overload

/-- The type of an argument: the declared one of a parameter, or the one that is
resolved. -/
inductive HasType (overload : Overload) : Argument → String → Prop
  | passed {as : Option String} {name type : String} (mem : (name, type) ∈ overload.parameters) :
    HasType overload (.passed as name) type
  | resolved {through : Option String} {receiver type : String} :
    HasType overload (.resolved through receiver type) type

/-- What an argument needs in the scope of its overload: everything it refers to
is declared, and a type that it is passed on as is its own. -/
structure InScope (overload : Overload) (argument : Argument) (type : String) : Prop where
  names : ∀ name ∈ argument.names, name ∈ overload.parameters.map Prod.fst
  types : ∀ type ∈ argument.types, type ∈ overload.typeParameters
  forwarded : ∀ type name, argument = .passed (some type) name → (name, type) ∈ overload.parameters
  hasType : overload.HasType argument type

/-- The lists of the overload of a partition agree with one another. -/
structure WellScoped (overload : Overload) (target : Target) (p : Partition) : Prop where
  declared : overload.typeParameters = target.typeParameterNames p
  distinct : overload.typeParameters.Nodup
  /-- Every argument is declared once, with its own type. -/
  parameter : ∀ i < p.explicitCount,
    (argumentName i, explicitTypeParameter i) ∈ overload.parameters ∧
      (overload.parameters.map Prod.fst).count (argumentName i) = 1
  arity : overload.arguments.length = p.arity
  passed : ∀ i < p.explicitCount,
    (overload.arguments.filterMap Argument.passedName?).count (argumentName i) = 1
  resolved : ∀ position ∈ p.injectedPositions,
    (overload.arguments.filterMap Argument.resolvedType?).count
      (injectedTypeParameter position) = 1
  closed : ∀ argument ∈ overload.arguments,
    (∀ name ∈ argument.names, name ∈ overload.parameters.map Prod.fst) ∧
      ∀ type ∈ argument.types, type ∈ overload.typeParameters
  /-- An argument that is passed on as a type has that type. -/
  forwarded : ∀ type name, .passed (some type) name ∈ overload.arguments →
    (name, type) ∈ overload.parameters
  bounded : overload.bounds.isSome = (target == .rust)
  required : ∀ bounds ∈ overload.bounds, ∀ type,
    type ∈ bounds.resolved ↔ type ∈ overload.arguments.filterMap Argument.resolvedType?
  inputs : ∀ bounds ∈ overload.bounds,
    List.Forall₂ overload.HasType overload.arguments bounds.inputs

end Overload

/-! ## Names -/

theorem argumentName_injective : Function.Injective argumentName := numbered_injective "arg"

theorem explicitTypeParameter_injective : Function.Injective explicitTypeParameter :=
  numbered_injective "A"

theorem injectedTypeParameter_injective : Function.Injective injectedTypeParameter :=
  numbered_injective "T"

theorem nodup_injectedPositions (p : Partition) : p.injectedPositions.Nodup :=
  List.nodup_range.filter _

/-- Names with a number behind a stem are different from names without one. -/
theorem disjoint_numbered {stem : String} {numbers : List Nat} {names : List String}
    (h : ∀ name ∈ names, numbered? stem name = none) :
    List.Disjoint names (numbers.map fun n => stem ++ toString n) := by
  intro name mem numbered
  obtain ⟨n, -, rfl⟩ := List.mem_map.mp numbered
  have other := h _ mem
  rw [numbered?_append] at other
  cases other

theorem numbered?_injectedTypeParameter (position : Nat) :
    numbered? "A" (injectedTypeParameter position) = none := by
  have other : "A".toList.isPrefixOf? (injectedTypeParameter position).toList = none := by
    show "A".toList.isPrefixOf? ("T" ++ toString position).toList = none
    rw [String.toList_append]
    rfl
  rw [numbered?, other]
  rfl

/-- Two kinds of numbered names among fixed ones are pairwise different. -/
theorem nodup_names {front middle : List String} {positions indices : List Nat}
    (fixed : (front ++ middle).Nodup)
    (positioned : ∀ name ∈ front ++ middle, numbered? "T" name = none)
    (indexed : ∀ name ∈ front ++ middle, numbered? "A" name = none)
    (distinct : positions.Nodup) (distinct' : indices.Nodup) :
    (front ++ positions.map injectedTypeParameter ++ middle ++
      indices.map explicitTypeParameter).Nodup := by
  obtain ⟨first, second, differ⟩ := List.nodup_append.mp fixed
  have apart : List.Disjoint front middle := fun name h h' => differ name h name h' rfl
  obtain ⟨positionedFront, positionedMiddle⟩ := List.forall_mem_append.mp positioned
  obtain ⟨indexedFront, indexedMiddle⟩ := List.forall_mem_append.mp indexed
  have types := List.Nodup.map injectedTypeParameter_injective distinct
  refine ((first.append types (disjoint_numbered positionedFront)).append second ?_).append
    (List.Nodup.map explicitTypeParameter_injective distinct') (disjoint_numbered ?_)
  · exact List.disjoint_append_left.mpr
      ⟨apart, fun _ h h' => disjoint_numbered positionedMiddle h' h⟩
  · simp only [List.forall_mem_append]
    exact ⟨⟨indexedFront, List.forall_mem_map.mpr fun position _ =>
      numbered?_injectedTypeParameter position⟩, indexedMiddle⟩

namespace Target

theorem nodup_typeParameterNames (target : Target) (p : Partition) :
    (target.typeParameterNames p).Nodup := by
  cases target with
  | cpp =>
    have fixed : (["Impl_"] ++ ["Container_"]).Nodup := by decide
    exact nodup_names fixed (by decide) (by decide) (nodup_injectedPositions p) List.nodup_range
  | rust =>
    have fixed : (["R"] ++ ["C", "F"]).Nodup := by decide
    exact nodup_names fixed (by decide) (by decide) (nodup_injectedPositions p) List.nodup_range

theorem nodup_parameterNames (target : Target) (p : Partition) :
    ((target.parameterTypes p).map Prod.fst).Nodup := by
  have names : ((List.range p.explicitCount).map argumentName).Nodup :=
    List.Nodup.map argumentName_injective List.nodup_range
  cases target with
  | cpp =>
    have apart : List.Disjoint ["container"] ((List.range p.explicitCount).map argumentName) :=
      disjoint_numbered (by decide)
    simp only [parameterTypes, List.map_cons, List.map_map]
    exact List.Nodup.append (by decide) names apart
  | rust =>
    have apart : List.Disjoint ["container", "ctor"]
        ((List.range p.explicitCount).map argumentName) := disjoint_numbered (by decide)
    simp only [parameterTypes, List.map_cons, List.map_map]
    exact List.Nodup.append (by decide) names apart

/-! ## Arguments -/

theorem filterMap_eq_map_filter {α β : Type} {g : α → Option β} {f : α → β} {q : α → Bool}
    (h : ∀ a, g a = if q a then some (f a) else none) (l : List α) :
    l.filterMap g = (l.filter q).map f := by
  induction l with
  | nil => rfl
  | cons a l ih =>
    cases keep : q a with
    | true => simp [h a, keep, ih]
    | false => simp [h a, keep, ih]

/-- Every argument is passed on once, and in order. -/
theorem passedNames (target : Target) (p : Partition) :
    (target.overload p).arguments.filterMap Argument.passedName? =
      (List.range p.explicitCount).map argumentName := by
  have each : ∀ position, Argument.passedName? (target.argument (p.slot position)) =
      if p.isExplicit position then some (argumentName (p.explicitBefore position)) else none := by
    intro position
    cases explicit : p.isExplicit position with
    | true => rw [Partition.slot_of_explicit explicit]; cases target <;> rfl
    | false => rw [Partition.slot_of_injected explicit]; cases target <;> rfl
  show ((List.range p.arity).map fun position => target.argument (p.slot position)).filterMap _ = _
  rw [List.filterMap_map, p.explicitCount_eq, ← p.map_explicitBefore, List.map_map]
  exact filterMap_eq_map_filter each (List.range p.arity)

/-- The types of the injected positions are resolved, each once and in order. -/
theorem resolvedTypes (target : Target) (p : Partition) :
    (target.overload p).arguments.filterMap Argument.resolvedType? =
      p.injectedPositions.map injectedTypeParameter := by
  have each : ∀ position, Argument.resolvedType? (target.argument (p.slot position)) =
      if !p.isExplicit position then some (injectedTypeParameter position) else none := by
    intro position
    cases explicit : p.isExplicit position with
    | true => rw [Partition.slot_of_explicit explicit]; cases target <;> rfl
    | false => rw [Partition.slot_of_injected explicit]; cases target <;> rfl
  show ((List.range p.arity).map fun position => target.argument (p.slot position)).filterMap _ = _
  rw [List.filterMap_map]
  exact filterMap_eq_map_filter each (List.range p.arity)

theorem argument_mem_parameterTypes (target : Target) {p : Partition} {index : Nat}
    (h : index < p.explicitCount) :
    (argumentName index, explicitTypeParameter index) ∈ target.parameterTypes p := by
  have mem : (argumentName index, explicitTypeParameter index) ∈
      (List.range p.explicitCount).map fun index =>
        (argumentName index, explicitTypeParameter index) :=
    List.mem_map.mpr ⟨index, List.mem_range.mpr h, rfl⟩
  cases target with
  | cpp => exact List.mem_cons_of_mem _ mem
  | rust => exact List.mem_cons_of_mem _ (List.mem_cons_of_mem _ mem)

theorem container_mem_parameterNames (target : Target) (p : Partition) :
    "container" ∈ (target.parameterTypes p).map Prod.fst := by
  cases target with
  | cpp => exact List.mem_cons_self
  | rust => exact List.mem_cons_self

theorem explicit_mem_typeParameterNames (target : Target) {p : Partition} {index : Nat}
    (h : index < p.explicitCount) :
    explicitTypeParameter index ∈ target.typeParameterNames p := by
  have mem := List.mem_map_of_mem (f := explicitTypeParameter) (List.mem_range.mpr h)
  cases target with
  | cpp => exact List.mem_append_right _ mem
  | rust => exact List.mem_append_right _ mem

theorem injected_mem_typeParameterNames (target : Target) {p : Partition} {position : Nat}
    (h : position ∈ p.injectedPositions) :
    injectedTypeParameter position ∈ target.typeParameterNames p := by
  have mem := List.mem_map_of_mem (f := injectedTypeParameter) h
  cases target with
  | cpp => exact List.mem_append_left _ (List.mem_append_left _ (List.mem_append_right _ mem))
  | rust => exact List.mem_append_left _ (List.mem_append_left _ (List.mem_append_right _ mem))

theorem inScope_slot (target : Target) {p : Partition} {position : Nat}
    (below : position < p.arity) :
    (target.overload p).InScope (target.argument (p.slot position))
      (p.slot position).typeParameter := by
  cases explicit : p.isExplicit position with
  | true =>
    have rank := p.explicitBefore_lt below explicit
    rw [← p.explicitCount_eq] at rank
    have parameter := target.argument_mem_parameterTypes rank
    have type := target.explicit_mem_typeParameterNames rank
    have name := List.mem_map_of_mem (f := Prod.fst) parameter
    rw [Partition.slot_of_explicit explicit]
    cases target with
    | cpp =>
      refine ⟨List.forall_mem_singleton.mpr name, List.forall_mem_singleton.mpr type, ?_,
        .passed parameter⟩
      rintro _ _ ⟨⟩
      exact parameter
    | rust =>
      refine ⟨List.forall_mem_singleton.mpr name, (fun _ mem => nomatch mem), ?_,
        .passed parameter⟩
      rintro _ _ ⟨⟩
  | false =>
    have type := target.injected_mem_typeParameterNames
      (Partition.mem_injectedPositions.mpr ⟨below, explicit⟩)
    have container := target.container_mem_parameterNames p
    rw [Partition.slot_of_injected explicit]
    cases target with
    | cpp =>
      refine ⟨List.forall_mem_singleton.mpr container, List.forall_mem_singleton.mpr type, ?_,
        .resolved⟩
      rintro _ _ ⟨⟩
    | rust =>
      have through : "C" ∈ typeParameterNames p .rust := by simp [typeParameterNames]
      refine ⟨List.forall_mem_singleton.mpr container,
        List.forall_mem_cons.mpr ⟨type, List.forall_mem_singleton.mpr through⟩, ?_, .resolved⟩
      rintro _ _ ⟨⟩

theorem wellScoped_overload (target : Target) (p : Partition) :
    (target.overload p).WellScoped target p where
  declared := rfl
  distinct := target.nodup_typeParameterNames p
  parameter := by
    intro i h
    have mem := target.argument_mem_parameterTypes h
    exact ⟨mem, List.count_eq_one_of_mem (target.nodup_parameterNames p)
      (List.mem_map_of_mem (f := Prod.fst) mem)⟩
  arity := by simp [overload]
  passed := by
    intro i h
    rw [passedNames]
    exact List.count_eq_one_of_mem (List.Nodup.map argumentName_injective List.nodup_range)
      (List.mem_map_of_mem (List.mem_range.mpr h))
  resolved := by
    intro position mem
    rw [resolvedTypes]
    exact List.count_eq_one_of_mem
      (List.Nodup.map injectedTypeParameter_injective (nodup_injectedPositions p))
      (List.mem_map_of_mem mem)
  closed := List.forall_mem_map.mpr fun position mem =>
    have scope := target.inScope_slot (List.mem_range.mp mem)
    ⟨scope.names, scope.types⟩
  forwarded := by
    intro type name mem
    obtain ⟨position, below, same⟩ := List.mem_map.mp mem
    exact (target.inScope_slot (List.mem_range.mp below)).forwarded type name same
  bounded := by cases target <;> rfl
  required := by
    intro bounds mem type
    rw [resolvedTypes]
    cases target with
    | cpp => cases mem
    | rust =>
      cases mem
      rfl
  inputs := by
    intro bounds mem
    cases target with
    | cpp => cases mem
    | rust =>
      cases mem
      show List.Forall₂ _ ((List.range p.arity).map _) ((List.range p.arity).map _)
      rw [List.forall₂_map_left_iff, List.forall₂_map_right_iff]
      exact List.forall₂_same.mpr fun position mem =>
        (inScope_slot .rust (List.mem_range.mp mem)).hasType

/-- The bindings of every planned overload are read, and agree with one
another. -/
theorem wellScoped_planBindings (target : Target) (p : Partition) :
    ∃ bindings overload, target.planBindings (ofPartition p) = .ok bindings ∧
      Overload.read? target bindings = some overload ∧ overload.WellScoped target p :=
  ⟨target.bindings p, target.overload p, target.planBindings_ofPartition p,
    Overload.read?_bindings target p, target.wellScoped_overload p⟩

end Target

end FactoryOverloads
