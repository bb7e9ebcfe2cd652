import FactoryOverloads.Artifact
import FactoryOverloads.Settings.Text
import FactoryOverloads.Signature.Registry
import FactoryOverloads.Target.Bindings
import FactoryOverloads.Template.Engine

/-!
# Building artifacts

`Artifact.build` makes the artifact of settings: for every arity, ascending, the blocks of its plans
in counting order. The plans of an arity are checked for equal keys before any of them is rendered.
-/

namespace FactoryOverloads

variable {State : Type}

/-- The block of a plan. -/
def Block.render (engine : Engine State) (target : Target) (plan : Plan) :
    Rendering State Block := do
  let bindings ← ((target.planBindings plan).mapError .defect : Except Failure Bindings)
  let declaration ←
    match target.declaration? with
    | some template => some <$> engine.render template bindings
    | none => pure none
  let definition ← engine.render target.definition bindings
  return ⟨declaration, definition⟩

/-- The blocks of plans. -/
def Block.renderAll (engine : Engine State) (target : Target) (plans : List Plan) :
    Rendering State (List Block) :=
  plans.mapM (Block.render engine target)

/-- The blocks of an arity. -/
def Block.ofArity (engine : Engine State) (target : Target) (arity : Nat) :
    Rendering State (List Block) := do
  let plans ← Plan.ofArity arity
  Block.renderAll engine target plans

namespace Artifact

/-- The artifact without blocks for bounds of the arities. -/
def renderFrame (engine : Engine State) (target : Target) (minArity maxArity : Nat) :
    Rendering State Artifact := do
  let bindings := Target.frameBindings minArity maxArity
  let prologue ← engine.render target.prologue bindings
  let epilogue ← engine.render target.epilogue bindings
  return .frame prologue epilogue

/-- The artifact of settings. -/
def build (engine : Engine State) (settings : Settings) : Rendering State Artifact := do
  settings.validate
  let blocks ← settings.arities.mapM (Block.ofArity engine settings.target)
  let frame ← renderFrame engine settings.target settings.minArity settings.maxArity
  return blocks.foldl extend frame

end Artifact

end FactoryOverloads
