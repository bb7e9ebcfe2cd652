import FactoryOverloads.Signature
import FactoryOverloads.Target
import FactoryOverloads.Template

/-!
# Bindings of a target's templates

What a target puts in place of the placeholders of its templates: the bounds of the arities around
the whole (`Target.frameBindings`), and the parameter and argument lists of one overload
(`Target.planBindings`).

Two overloads of one arity can take equally many explicit arguments at different positions. The
pattern is therefore part of every signature: as the type of an unnamed parameter in `cpp`, and in
the function's name in `rust`.
-/

namespace FactoryOverloads

/-- Items with a comma and a blank between them. -/
def commaSeparated (items : List String) : String := ", ".intercalate items

/-- The identifier of the explicit argument a slot refers to. -/
def Plan.argument (plan : Plan) (index : Nat) : Except Defect String :=
  match plan.explicitArguments[index]? with
  | some name => .ok name
  | none => .error (.argument plan.explicitArguments.length index)

namespace Target

/-- The bindings of the prologue and the epilogue. -/
def frameBindings (minArity maxArity : Nat) : Bindings :=
  ⟨[("min_arity", toString minArity), ("max_arity", toString maxArity)]⟩

/-- The type parameters an overload declares. -/
def typeParameters (plan : Plan) : Target → List String
  | .cpp =>
    ["class Impl_"] ++ plan.injectedTypeParameters.map ("typename " ++ ·) ++
      ["class Container_"] ++ plan.explicitTypeParameters.map ("typename " ++ ·)
  | .rust => ["R"] ++ plan.injectedTypeParameters ++ ["C", "F"] ++ plan.explicitTypeParameters

/-- The markers of a partition as the arguments of the pattern's type. -/
def markerArguments (p : Partition) : String :=
  commaSeparated (p.markers.map fun explicit => if explicit then "true" else "false")

/-- The parameters an overload takes. -/
def parameters (plan : Plan) : Target → List String
  | .cpp =>
    ["const Container_& container", "pattern_tag<" ++ markerArguments plan.partition ++ ">"] ++
      plan.explicitArguments.mapIdx fun index name => explicitTypeParameter index ++ "&& " ++ name
  | .rust =>
    ["container: &C", "ctor: F"] ++
      plan.explicitArguments.mapIdx fun index name => name ++ ": " ++ explicitTypeParameter index

/-- What an overload passes to the constructor for a slot. -/
def callArgument (target : Target) (plan : Plan) (slot : Slot) : Except Defect String :=
  match target, slot with
  | .cpp, .explicitRef index => do
    return "std::forward<" ++ slot.typeParameter ++ ">(" ++ (← plan.argument index) ++ ")"
  | .cpp, .injectedResolve _ =>
    return "container.template resolve<" ++ slot.typeParameter ++ ">()"
  | .rust, .explicitRef index => plan.argument index
  | .rust, .injectedResolve _ =>
    return "<C as Resolve<" ++ slot.typeParameter ++ ">>::resolve(container)?"

/-- The arguments of the constructor call, in position order. -/
def callArguments (target : Target) (plan : Plan) : Except Defect (List String) :=
  plan.call.mapM (target.callArgument plan)

/-- What a `rust` overload asks of the container and of the constructor. -/
def bounds (plan : Plan) : String :=
  let resolvable := plan.injectedTypeParameters.map fun parameter => "Resolve<" ++ parameter ++ ">"
  "    C: " ++ " + ".intercalate ("Container" :: resolvable) ++ ",\n" ++
    "    F: FnOnce(" ++ commaSeparated (plan.call.map Slot.typeParameter) ++ ") -> R,"

/-- The name of a `rust` overload. -/
def functionName (plan : Plan) : String :=
  if plan.arity = 0 then "make_0"
  else "make_" ++ toString plan.arity ++ "_" ++ plan.partition.pattern

/-- The bindings of the declaration and the definition of an overload. -/
def planBindings (target : Target) (plan : Plan) : Except Defect Bindings := do
  let arguments ← target.callArguments plan
  let own :=
    match target with
    | .cpp => []
    | .rust => [("name", functionName plan), ("bounds", bounds plan)]
  return ⟨[
    ("arity", toString plan.arity),
    ("pattern", plan.partition.text),
    ("type_params", commaSeparated (typeParameters plan target)),
    ("params", commaSeparated (parameters plan target)),
    ("call_args", commaSeparated arguments)] ++ own⟩

end Target

end FactoryOverloads
