import FactoryOverloads.Proofs.Emission.Reading

/-!
# The constructor call of an overload

What the call in a definition passes to the constructor (`Target.values?`): the
text of the argument list is found between its marks, and every argument in it
stands for a value that the caller supplied or for one that the container
resolves. For the definition of a partition, the position decides which
(`Target.values?_definition`): an explicit one takes the supplied value of its
rank, so that the supplied values are passed on in order, each once, and every
other position takes the value resolved for it. The targets make the same call.
-/

namespace FactoryOverloads

open Text (Avoids Spelled avoids_join between? between?_append between?_append_of_notMem
  notMem_of_avoids)
open Plan (ofPartition)

namespace Target

/-! ## The text of the arguments -/

/-- What stands in front of the arguments in a definition, and what ends them. -/
def callMarks : Target → String × String
  | .cpp => ("return new Impl_(", ");")
  | .rust => ("Ok(ctor(", "))")

theorem between?_call_cpp (p : Partition) :
    between? "return new Impl_(".toList ");".toList (definitionText p .cpp).toList =
      some (commaSeparated (argumentTexts .cpp p)).toList := by
  obtain ⟨rest, shape⟩ : ∃ rest, definitionText p .cpp =
      String.join ["template<", commaSeparated (typeParameters (ofPartition p) .cpp), ">\n",
        "Impl_* make_impl(", commaSeparated (parameters (ofPartition p) .cpp), ")\n", "\x7b\n",
        "    "] ++
        ("return new Impl_(" ++ (commaSeparated (argumentTexts .cpp p) ++ (");" ++ rest))) := by
    unfold definitionText
    rw [show "    return new Impl_(" = "    " ++ "return new Impl_(" from rfl,
      show ");\n" = ");" ++ "\n" from rfl]
    simp only [String.join_cons, String.join_nil, String.append_assoc, String.empty_append]
    exact ⟨_, rfl⟩
  have types : Avoids "return new Impl_(".toList
      (commaSeparated (typeParameters (ofPartition p) .cpp)).toList :=
    avoids_commaSeparated (spelled_typeParameters .cpp p) (by decide) rfl
  have params : Avoids "return new Impl_(".toList
      (commaSeparated (parameters (ofPartition p) .cpp)).toList :=
    (spelled_parameters .cpp p).avoids (by decide) rfl
  have semicolon : ';' ∉ (commaSeparated (argumentTexts .cpp p)).toList :=
    notMem_of_avoids (avoids_commaSeparated (spelled_argumentTexts .cpp p) (by decide) rfl)
  rw [shape]
  refine between?_append_of_notMem (avoids_join ?_) semicolon (show ';' ∉ ")".toList by decide) rest
  simp only [List.forall_mem_cons]
  exact ⟨by decide, types, by decide, by decide, params, by decide, by decide, by decide, by simp⟩

theorem between?_call_rust (p : Partition) :
    between? "Ok(ctor(".toList "))".toList (definitionText p .rust).toList =
      some (commaSeparated (argumentTexts .rust p)).toList := by
  obtain ⟨rest, shape⟩ : ∃ rest, definitionText p .rust =
      String.join ["/// Arity ", toString p.arity, ", pattern `", p.text, "`.\n",
        "#[allow(clippy::too_many_arguments, unused_variables)]\n", "pub fn ",
        functionName (ofPartition p), "<", commaSeparated (typeParameters (ofPartition p) .rust),
        ">(", commaSeparated (parameters (ofPartition p) .rust), ") -> Result<R, C::Error>\n",
        "where\n", bounds (ofPartition p), "\n", "\x7b\n", "    "] ++
        ("Ok(ctor(" ++ (commaSeparated (argumentTexts .rust p) ++ ("))" ++ rest))) := by
    unfold definitionText
    rw [show "    Ok(ctor(" = "    " ++ "Ok(ctor(" from rfl, show "))\n" = "))" ++ "\n" from rfl]
    simp only [String.join_cons, String.join_nil, String.append_assoc, String.empty_append]
    exact ⟨_, rfl⟩
  have arity : Spelled [] (toString p.arity).toList := spelled_toString p.arity
  have pattern : Spelled ["<empty>"] p.text.toList := spelled_text (by decide) p
  have types : Avoids "Ok(ctor(".toList
      (commaSeparated (typeParameters (ofPartition p) .rust)).toList :=
    avoids_commaSeparated (spelled_typeParameters .rust p) (by decide) rfl
  have params : Avoids "Ok(ctor(".toList
      (commaSeparated (parameters (ofPartition p) .rust)).toList :=
    (spelled_parameters .rust p).avoids (by decide) rfl
  rw [shape]
  refine between?_append (avoids_join ?_)
    (avoids_commaSeparated (spelled_argumentTexts .rust p) (by decide) rfl) rest
  simp only [List.forall_mem_cons]
  exact ⟨by decide, arity.avoids (by decide) rfl, by decide, pattern.avoids (by decide) rfl,
    by decide, by decide +kernel, by decide, (spelled_functionName p).avoids (by decide) rfl,
    by decide, types, by decide, params, by decide, by decide,
    (spelled_bounds p).avoids (by decide) rfl, by decide, by decide, by decide, by simp⟩

theorem between?_call (target : Target) (p : Partition) :
    between? target.callMarks.1.toList target.callMarks.2.toList (definitionText p target).toList =
      some (commaSeparated (target.argumentTexts p)).toList := by
  cases target with
  | cpp => exact between?_call_cpp p
  | rust => exact between?_call_rust p

/-! ## The values of the arguments -/

section Values

variable {α : Type}

/-- The value of an argument: one that the caller supplied, passed on as its own
type, or the one that the container resolves for a position. -/
def value? (supplied : List α) (resolve : Nat → α) : Argument → Option α
  | .passed type name => do
    let index ← numbered? "arg" name
    if type.all (· == explicitTypeParameter index) then supplied[index]? else none
  | .resolved through receiver type => do
    let position ← numbered? "T" type
    if through.all (· == "C") && receiver == "container" then some (resolve position) else none

/-- The values that the call in a definition passes to the constructor. -/
def values? (target : Target) (supplied : List α) (resolve : Nat → α) (definition : String) :
    Option (List α) := do
  let text ← between? target.callMarks.1.toList target.callMarks.2.toList definition.toList
  let arguments ← target.arguments? text
  arguments.mapM (value? supplied resolve)

theorem value?_explicit (target : Target) (supplied : List α) (resolve : Nat → α) (index : Nat) :
    value? supplied resolve (target.argument (.explicitRef index)) = supplied[index]? := by
  have number : numbered? "arg" (argumentName index) = some index := numbered?_append "arg" index
  cases target <;> simp [argument, value?, number]

theorem value?_injected (target : Target) (supplied : List α) (resolve : Nat → α) (position : Nat) :
    value? supplied resolve (target.argument (.injectedResolve position)) =
      some (resolve position) := by
  have number : numbered? "T" (injectedTypeParameter position) = some position :=
    numbered?_append "T" position
  cases target <;> simp [argument, value?, number]

/-- The value of a position: an explicit one takes the supplied value of its
rank. -/
def valueAt (p : Partition) (supplied : List α) (resolve : Nat → α) (position : Nat) : α :=
  if p.isExplicit position then supplied[p.explicitBefore position]?.getD (resolve position)
  else resolve position

section Supplied

variable {p : Partition} {supplied : List α} (h : supplied.length = p.explicitCount)
  (resolve : Nat → α) {position : Nat} (below : position < p.arity)
include h below

/-- A value is supplied for every explicit position. -/
theorem some_valueAt :
    some (valueAt p supplied resolve position) =
      if p.isExplicit position then supplied[p.explicitBefore position]?
      else some (resolve position) := by
  rw [valueAt]
  split
  case isTrue explicit =>
    have rank := p.explicitBefore_lt below explicit
    rw [← p.explicitCount_eq, ← h] at rank
    rw [List.getElem?_eq_getElem rank, Option.getD_some]
  case isFalse => rfl

theorem value?_slot (target : Target) :
    value? supplied resolve (target.argument (p.slot position)) =
      some (valueAt p supplied resolve position) := by
  rw [some_valueAt h resolve below]
  cases explicit : p.isExplicit position with
  | true =>
    rw [Partition.slot_of_explicit explicit]
    exact value?_explicit target supplied resolve _
  | false =>
    rw [Partition.slot_of_injected explicit]
    exact value?_injected target supplied resolve position

end Supplied

theorem values?_definitionText (target : Target) {p : Partition} {supplied : List α}
    (h : supplied.length = p.explicitCount) (resolve : Nat → α) :
    target.values? supplied resolve (definitionText p target) =
      some ((List.range p.arity).map (valueAt p supplied resolve)) := by
  rw [values?, between?_call]
  show (target.arguments? (commaSeparated (target.argumentTexts p)).toList).bind _ = _
  rw [arguments?_argumentTexts, Option.bind_some, List.mapM_map]
  exact mapM_eq_pure fun position mem => value?_slot h resolve (List.mem_range.mp mem) target

/-- The explicit positions take the supplied values, in order. -/
theorem map_valueAt_explicit {p : Partition} {supplied : List α}
    (h : supplied.length = p.explicitCount) (resolve : Nat → α) :
    ((List.range p.arity).filter p.isExplicit).map (valueAt p supplied resolve) = supplied := by
  refine List.map_injective_iff.mpr (Option.some_injective α) ?_
  have ranks : (((List.range p.arity).filter p.isExplicit).map p.explicitBefore).map
      (supplied[·]?) = supplied.map some := by
    rw [p.map_explicitBefore, ← p.explicitCount_eq, ← h]
    exact List.ext_getElem (by simp) fun i _ _ => by simp
  rw [← ranks, List.map_map, List.map_map]
  refine List.map_congr_left fun position mem => ?_
  obtain ⟨below, explicit⟩ := List.mem_filter.mp mem
  rw [Function.comp_apply, some_valueAt h resolve (List.mem_range.mp below), if_pos explicit]
  rfl

/-- The rendered definition of a partition passes one value for every position:
the supplied value of its rank for an explicit one, and the resolved value for
every other one. The supplied values are passed on in order, each once, and the
targets pass the same values. -/
theorem values?_definition (p : Partition) (supplied : List α)
    (h : supplied.length = p.explicitCount) (resolve : Nat → α) :
    ∃ values : List α,
      values.length = p.arity ∧
      (∀ j < p.arity, values[j]? =
        if p.isExplicit j then supplied[p.explicitBefore j]? else some (resolve j)) ∧
      ((List.range p.arity).filter p.isExplicit).map (values[·]?) = supplied.map some ∧
      ∀ target : Target, ∃ block,
        Block.render Engine.placeholder target (ofPartition p) () = .ok (block, ()) ∧
          target.values? supplied resolve block.definition = some values := by
  have own : ∀ j < p.arity, ((List.range p.arity).map (valueAt p supplied resolve))[j]? =
      some (valueAt p supplied resolve j) := by
    intro j below
    rw [List.getElem?_map, List.getElem?_range below]
    rfl
  refine ⟨(List.range p.arity).map (valueAt p supplied resolve), by simp, ?each, ?order, ?read⟩
  case each =>
    intro j below
    rw [own j below, some_valueAt h resolve below]
  case order =>
    refine Eq.trans ?_ (congrArg (List.map some) (map_valueAt_explicit h resolve))
    rw [List.map_map]
    exact List.map_congr_left fun j mem => own j (List.mem_range.mp (List.mem_filter.mp mem).1)
  case read =>
    intro target
    exact ⟨_, Block.render_ofPartition target p (), values?_definitionText target h resolve⟩

theorem values?_definition_of_three :
    ∃ values : List Nat, values[0]? = some 10 ∧ values[1]? = some 101 ∧ values[2]? = some 20 ∧
      ∀ target : Target, ∃ block,
        Block.render Engine.placeholder target (ofPartition ⟨3, 5, by decide, by decide⟩) () =
            .ok (block, ()) ∧
          target.values? [10, 20] (· + 100) block.definition = some values := by
  obtain ⟨values, -, each, -, read⟩ :=
    values?_definition ⟨3, 5, by decide, by decide⟩ [10, 20] (by decide) (· + 100)
  exact ⟨values, each 0 (by decide), each 1 (by decide), each 2 (by decide), read⟩

end Values

end Target

end FactoryOverloads
