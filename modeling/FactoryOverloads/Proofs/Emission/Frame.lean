import FactoryOverloads.Artifact.Build
import FactoryOverloads.Proofs.Emission.Block

/-!
# The text around the overloads

The prologue of an artifact, written out without a template
(`Target.prologueText`). Its placeholders stand for the bounds of the arities,
and both are bound; an epilogue has none. So the built-in engine renders the
frame of an artifact whatever the bounds (`Artifact.renderFrame_placeholder`).
-/

namespace FactoryOverloads

namespace Target

/-- The prologue for bounds of the arities. -/
def prologueText (minArity maxArity : Nat) : Target → String
  | .cpp =>
    "// @generated by genmakeimpl. Do not edit by hand.\n" ++
    "//\n" ++
    "// Factory overloads for constructor arities " ++ toString minArity ++ " through " ++
      toString maxArity ++ ".\n" ++
    "// Each overload takes the explicit arguments named by its pattern_tag and\n" ++
    "// resolves every other constructor parameter from the container.\n" ++
    "\n" ++
    "#pragma once\n" ++
    "\n" ++
    "#include <utility>\n" ++
    "\n" ++
    "namespace makeimpl \x7b\n" ++
    "\n" ++
    "// Marks which constructor positions an overload takes explicitly.\n" ++
    "template<bool... Markers>\n" ++
    "struct pattern_tag \x7b\x7d;\n" ++
    "\n"
  | .rust =>
    "// @generated by genmakeimpl. Do not edit by hand.\n" ++
    "//\n" ++
    "// Factory functions for constructor arities " ++ toString minArity ++ " through " ++
      toString maxArity ++ ".\n" ++
    "// `Container` and `Resolve<T>` must be in scope where this file is included.\n" ++
    "\n"

open Template (render render_text render_text_append render_hole_append)

section Bound

variable (minArity maxArity : Nat)

theorem find?_min_arity :
    (frameBindings minArity maxArity).find? "min_arity" = some (toString minArity) := by
  simp [frameBindings, Bindings.find?]

theorem find?_max_arity :
    (frameBindings minArity maxArity).find? "max_arity" = some (toString maxArity) := by
  simp [frameBindings, Bindings.find?, List.lookup_cons]

theorem render_prologue (target : Target) :
    render target.prologue (frameBindings minArity maxArity) =
      .ok (prologueText minArity maxArity target) := by
  cases target with
  | cpp =>
    unfold prologue prologueText
    simp only [String.append_assoc]
    rw [render_text_append rfl (by decide +kernel), render_text_append rfl (by decide +kernel),
      render_text_append rfl (by decide +kernel),
      render_hole_append rfl (by decide +kernel) (find?_min_arity minArity maxArity),
      render_text_append rfl (by decide +kernel),
      render_hole_append rfl (by decide +kernel) (find?_max_arity minArity maxArity),
      render_text_append rfl (by decide +kernel), render_text_append rfl (by decide +kernel),
      render_text_append rfl (by decide +kernel), render_text_append rfl (by decide +kernel),
      render_text_append rfl (by decide +kernel), render_text_append rfl (by decide +kernel),
      render_text_append rfl (by decide +kernel), render_text_append rfl (by decide +kernel),
      render_text_append rfl (by decide +kernel), render_text_append rfl (by decide +kernel),
      render_text_append rfl (by decide +kernel), render_text_append rfl (by decide +kernel),
      render_text_append rfl (by decide +kernel), render_text rfl (by decide +kernel)]
    rfl
  | rust =>
    unfold prologue prologueText
    simp only [String.append_assoc]
    rw [render_text_append rfl (by decide +kernel), render_text_append rfl (by decide +kernel),
      render_text_append rfl (by decide +kernel),
      render_hole_append rfl (by decide +kernel) (find?_min_arity minArity maxArity),
      render_text_append rfl (by decide +kernel),
      render_hole_append rfl (by decide +kernel) (find?_max_arity minArity maxArity),
      render_text_append rfl (by decide +kernel), render_text_append rfl (by decide +kernel),
      render_text rfl (by decide +kernel)]
    rfl

/-- An epilogue stands for itself. -/
theorem render_epilogue (target : Target) (bindings : Bindings) :
    render target.epilogue bindings = .ok target.epilogue := by
  cases target with
  | cpp => exact render_text rfl (by decide +kernel) bindings
  | rust => exact render_text rfl (by decide +kernel) bindings

end Bound

end Target

/-- The built-in engine renders the frame of every bounds. -/
theorem Artifact.renderFrame_placeholder {State : Type} (target : Target)
    (minArity maxArity : Nat) (s : State) :
    renderFrame Engine.placeholder target minArity maxArity s =
      .ok (.frame (target.prologueText minArity maxArity) target.epilogue, s) := by
  have prologue := Engine.render_placeholder (Target.render_prologue minArity maxArity target) s
  have epilogue := Engine.render_placeholder
    (Target.render_epilogue target (Target.frameBindings minArity maxArity)) s
  show Except.bind (Engine.placeholder.render target.prologue _ s) _ = _
  rw [prologue]
  show Except.bind (Engine.placeholder.render target.epilogue _ s) _ = _
  rw [epilogue]
  rfl

end FactoryOverloads
