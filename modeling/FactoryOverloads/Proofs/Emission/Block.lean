import FactoryOverloads.Proofs.Emission.Pairing
import FactoryOverloads.Proofs.Signature.Planning

/-!
# The text of an overload

What the overload of a partition is emitted as, written out without templates
and without an engine (`Target.block`). Every slot of a planned call refers to
an argument that the plan has (`callArguments_ofPartition`), and every
placeholder of the templates is bound, so that the built-in engine renders the
plan of every partition to that text (`Block.render_ofPartition`).
-/

namespace FactoryOverloads

open Plan (ofPartition)

/-- Steps that only give a value. -/
theorem mapM_eq_pure {m : Type → Type} [Monad m] [LawfulMonad m] {α β : Type} {f : α → m β}
    {g : α → β} {l : List α} (h : ∀ a ∈ l, f a = pure (g a)) : l.mapM f = pure (l.map g) := by
  induction l with
  | nil => exact List.mapM_nil
  | cons a l ih =>
    obtain ⟨head, tail⟩ := List.forall_mem_cons.mp h
    rw [List.mapM_cons, head, ih tail, pure_bind, pure_bind, List.map_cons]

namespace Target

/-! ## Bindings -/

/-- What is passed to the constructor for a slot, when the explicit arguments
have their own names. -/
def argumentText : Target → Slot → String
  | .cpp, .explicitRef index =>
    "std::forward<" ++ explicitTypeParameter index ++ ">(" ++ argumentName index ++ ")"
  | .cpp, .injectedResolve position =>
    "container.template resolve<" ++ injectedTypeParameter position ++ ">()"
  | .rust, .explicitRef index => argumentName index
  | .rust, .injectedResolve position =>
    "<C as Resolve<" ++ injectedTypeParameter position ++ ">>::resolve(container)?"

/-- The texts that are passed to the constructor, in position order. -/
def argumentTexts (target : Target) (p : Partition) : List String :=
  (List.range p.arity).map fun position => target.argumentText (p.slot position)

/-- The bindings of the overload of a partition. -/
def bindings (target : Target) (p : Partition) : Bindings :=
  ⟨[
    ("arity", toString p.arity),
    ("pattern", p.text),
    ("type_params", commaSeparated (typeParameters (ofPartition p) target)),
    ("params", commaSeparated (parameters (ofPartition p) target)),
    ("call_args", commaSeparated (target.argumentTexts p))] ++
    match target with
    | .cpp => []
    | .rust => [("name", functionName (ofPartition p)), ("bounds", bounds (ofPartition p))]⟩

theorem argument_ofPartition (p : Partition) {index : Nat} (h : index < p.explicitCount) :
    (ofPartition p).argument index = .ok (argumentName index) := by
  rw [Plan.argument, Plan.explicitArguments_ofPartition, List.getElem?_map,
    List.getElem?_range h]
  rfl

/-- The rank of an explicit position is the index of an argument. -/
theorem callArgument_slot (target : Target) (p : Partition) {position : Nat}
    (h : position < p.arity) :
    target.callArgument (ofPartition p) (p.slot position) =
      .ok (target.argumentText (p.slot position)) := by
  cases explicit : p.isExplicit position with
  | true =>
    have rank := p.explicitBefore_lt h explicit
    rw [← p.explicitCount_eq] at rank
    have argument := argument_ofPartition p rank
    rw [Partition.slot_of_explicit explicit]
    cases target with
    | cpp =>
      rw [callArgument, argument]
      rfl
    | rust => exact argument
  | false =>
    rw [Partition.slot_of_injected explicit]
    cases target <;> rfl

theorem callArguments_ofPartition (target : Target) (p : Partition) :
    target.callArguments (ofPartition p) = .ok (target.argumentTexts p) := by
  rw [callArguments, Plan.call_ofPartition, List.mapM_map]
  exact mapM_eq_pure fun position mem => target.callArgument_slot p (List.mem_range.mp mem)

/-- Planned overloads have their bindings: no argument is missing. -/
theorem planBindings_ofPartition (target : Target) (p : Partition) :
    target.planBindings (ofPartition p) = .ok (target.bindings p) := by
  unfold planBindings
  rw [callArguments_ofPartition]
  cases target <;> rfl

/-! ## Blocks -/

/-- The definition of the overload of a partition. -/
def definitionText (p : Partition) : Target → String
  | .cpp =>
    "template<" ++ commaSeparated (typeParameters (ofPartition p) .cpp) ++ ">\n" ++
    "Impl_* make_impl(" ++ commaSeparated (parameters (ofPartition p) .cpp) ++ ")\n" ++
    "\x7b\n" ++
    "    return new Impl_(" ++ commaSeparated (argumentTexts .cpp p) ++ ");\n" ++
    "\x7d\n" ++
    "\n"
  | .rust =>
    "/// Arity " ++ toString p.arity ++ ", pattern `" ++ p.text ++ "`.\n" ++
    "#[allow(clippy::too_many_arguments, unused_variables)]\n" ++
    "pub fn " ++ functionName (ofPartition p) ++ "<" ++
      commaSeparated (typeParameters (ofPartition p) .rust) ++ ">(" ++
      commaSeparated (parameters (ofPartition p) .rust) ++ ") -> Result<R, C::Error>\n" ++
    "where\n" ++
    bounds (ofPartition p) ++ "\n" ++
    "\x7b\n" ++
    "    Ok(ctor(" ++ commaSeparated (argumentTexts .rust p) ++ "))\n" ++
    "\x7d\n" ++
    "\n"

/-- What declares the overload of a partition ahead of its definition. -/
def declarationText? (p : Partition) : Target → Option String
  | .cpp => some (
    "// arity " ++ toString p.arity ++ ", pattern " ++ p.text ++ "\n" ++
    "template<" ++ commaSeparated (typeParameters (ofPartition p) .cpp) ++ ">\n" ++
    "Impl_* make_impl(" ++ commaSeparated (parameters (ofPartition p) .cpp) ++ ");\n" ++
    "\n")
  | .rust => none

/-- The block of the overload of a partition. -/
def block (target : Target) (p : Partition) : Block :=
  ⟨declarationText? p target, definitionText p target⟩

section Bound

variable (target : Target) (p : Partition)

theorem binds_bindings :
    target.Binds (ofPartition p) (target.argumentTexts p) (target.bindings p) := by
  obtain ⟨bindings, bound, binds⟩ := exists_planBindings (callArguments_ofPartition target p)
  rw [planBindings_ofPartition] at bound
  cases bound
  exact binds

theorem find?_arity : (bindings target p).find? "arity" = some (toString p.arity) :=
  (binds_bindings target p).arity

theorem find?_pattern : (bindings target p).find? "pattern" = some p.text :=
  (binds_bindings target p).pattern

theorem find?_type_params : (bindings target p).find? "type_params" =
    some (commaSeparated (typeParameters (ofPartition p) target)) :=
  (binds_bindings target p).typeParameters

theorem find?_params : (bindings target p).find? "params" =
    some (commaSeparated (parameters (ofPartition p) target)) :=
  (binds_bindings target p).parameters

theorem find?_call_args : (bindings target p).find? "call_args" =
    some (commaSeparated (target.argumentTexts p)) :=
  (binds_bindings target p).arguments

theorem find?_name : (bindings .rust p).find? "name" = some (functionName (ofPartition p)) := by
  simp [bindings, Bindings.find?, List.lookup_cons]

theorem find?_bounds : (bindings .rust p).find? "bounds" = some (bounds (ofPartition p)) := by
  simp [bindings, Bindings.find?, List.lookup_cons]

end Bound

open Template (render render_text render_text_append render_hole_append)

theorem render_definition_rust (p : Partition) :
    render (definition .rust) (bindings .rust p) = .ok (definitionText p .rust) := by
  unfold definition definitionText
  simp only [String.append_assoc]
  rw [render_text_append rfl (by decide +kernel),
    render_hole_append rfl (by decide +kernel) (find?_arity .rust p),
    render_text_append rfl (by decide +kernel),
    render_hole_append rfl (by decide +kernel) (find?_pattern .rust p),
    render_text_append rfl (by decide +kernel), render_text_append rfl (by decide +kernel),
    render_text_append rfl (by decide +kernel),
    render_hole_append rfl (by decide +kernel) (find?_name p),
    render_text_append rfl (by decide +kernel),
    render_hole_append rfl (by decide +kernel) (find?_type_params .rust p),
    render_text_append rfl (by decide +kernel),
    render_hole_append rfl (by decide +kernel) (find?_params .rust p),
    render_text_append rfl (by decide +kernel), render_text_append rfl (by decide +kernel),
    render_hole_append rfl (by decide +kernel) (find?_bounds p),
    render_text_append rfl (by decide +kernel), render_text_append rfl (by decide +kernel),
    render_text_append rfl (by decide +kernel),
    render_hole_append rfl (by decide +kernel) (find?_call_args .rust p),
    render_text_append rfl (by decide +kernel), render_text_append rfl (by decide +kernel),
    render_text rfl (by decide +kernel)]
  rfl

/-- The overload of a partition among those of all plans. -/
def emitted (p : Partition) : Emitted :=
  ⟨ofPartition p, argumentTexts .cpp p, callArguments_ofPartition .cpp p⟩

theorem block_emitted (p : Partition) : (emitted p).block = block .cpp p := by
  have declaration : some (emitted p).declaration = declarationText? p .cpp := by
    unfold Emitted.declaration Emitted.signature declarationText?
    rw [show ");\n" = ")" ++ ";\n" from rfl]
    simp only [String.append_assoc]
    rfl
  have definition : (emitted p).definition = definitionText p .cpp := by
    unfold Emitted.definition Emitted.signature definitionText
    rw [show ")\n" = ")" ++ "\n" from rfl]
    simp only [String.append_assoc]
    rfl
  rw [Emitted.block, declaration, definition, block]

end Target

/-- The built-in engine renders the plan of every partition. -/
theorem Block.render_ofPartition {State : Type} (target : Target) (p : Partition) (s : State) :
    Block.render Engine.placeholder target (ofPartition p) s = .ok (target.block p, s) := by
  cases target with
  | cpp =>
    rw [← Target.block_emitted]
    exact Block.render_emitted (Target.emitted p) s
  | rust =>
    exact Block.render_undeclared (Target.planBindings_ofPartition .rust p) rfl
      (Target.render_definition_rust p) s

end FactoryOverloads
