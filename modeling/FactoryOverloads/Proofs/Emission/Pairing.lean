import FactoryOverloads.Artifact.Build
import FactoryOverloads.Proofs.Template.Filling

/-!
# Declarations and definitions

In `cpp` an overload is emitted twice, from two templates that say nothing of each
other. Both are filled from the bindings of one plan (`Target.Binds`), and what
stands before the end of the declaration and before the body of the definition is
one text, the signature (`Emitted.signature`). Which texts the plan brings in does
not matter, since a text that has been put in is not read again.

So a plan that is rendered at all is rendered to a declaration and a definition of
one signature (`Block.render_cpp_eq_ok_iff`).
-/

namespace FactoryOverloads

/-! ## Bindings -/

/-- The bindings of a plan that passes these arguments to the constructor. -/
structure Target.Binds (target : Target) (plan : Plan) (arguments : List String)
    (bindings : Bindings) : Prop where
  arity : bindings.find? "arity" = some (toString plan.arity)
  pattern : bindings.find? "pattern" = some plan.partition.text
  typeParameters : bindings.find? "type_params" =
    some (commaSeparated (Target.typeParameters plan target))
  parameters : bindings.find? "params" = some (commaSeparated (Target.parameters plan target))
  arguments : bindings.find? "call_args" = some (commaSeparated arguments)

theorem Target.exists_planBindings {target : Target} {plan : Plan} {arguments : List String}
    (h : target.callArguments plan = .ok arguments) :
    ∃ bindings, target.planBindings plan = .ok bindings ∧
      target.Binds plan arguments bindings := by
  unfold planBindings
  rw [h]
  refine ⟨_, rfl, ?_, ?_, ?_, ?_, ?_⟩ <;> simp [Bindings.find?, List.lookup_cons]

/-! ## Rendering -/

section Render

variable {State : Type} {target : Target} {plan : Plan} {bindings : Bindings}
  {template declaration definition : String}

/-- The built-in engine remembers nothing. -/
theorem Engine.render_placeholder {text : String}
    (h : Template.render template bindings = .ok text) (s : State) :
    Engine.placeholder.render template bindings s = .ok (text, s) := by
  show StateT.lift ((Template.render template bindings).mapError Failure.template) s = _
  rw [h]
  rfl

theorem Block.render_declared (bound : target.planBindings plan = .ok bindings)
    (declared : target.declaration? = some template)
    (declares : Template.render template bindings = .ok declaration)
    (defines : Template.render target.definition bindings = .ok definition) (s : State) :
    Block.render Engine.placeholder target plan s = .ok (⟨some declaration, definition⟩, s) := by
  unfold Block.render
  rw [bound, declared]
  show Except.bind (Except.bind (Engine.placeholder.render template bindings s) _) _ = _
  rw [Engine.render_placeholder declares]
  show Except.bind (Engine.placeholder.render target.definition bindings s) _ = _
  rw [Engine.render_placeholder defines]
  rfl

theorem Block.render_undeclared (bound : target.planBindings plan = .ok bindings)
    (undeclared : target.declaration? = none)
    (defines : Template.render target.definition bindings = .ok definition) (s : State) :
    Block.render Engine.placeholder target plan s = .ok (⟨none, definition⟩, s) := by
  unfold Block.render
  rw [bound, undeclared]
  show Except.bind (Engine.placeholder.render target.definition bindings s) _ = _
  rw [Engine.render_placeholder defines]
  rfl

end Render

/-! ## Overloads of one signature -/

/-- A plan with the arguments that it passes to the constructor in `cpp`. -/
structure Emitted where
  plan : Plan
  arguments : List String
  passed : Target.callArguments .cpp plan = .ok arguments

namespace Emitted

variable (emitted : Emitted)

/-- What the overload takes, as a text. -/
def signature : String :=
  "template<" ++ commaSeparated (Target.typeParameters emitted.plan .cpp) ++ ">\n" ++
  "Impl_* make_impl(" ++ commaSeparated (Target.parameters emitted.plan .cpp) ++ ")"

/-- The signature under a comment that tells the arity and the pattern. -/
def declaration : String :=
  "// arity " ++ toString emitted.plan.arity ++ ", pattern " ++ emitted.plan.partition.text ++
    "\n" ++
  emitted.signature ++ ";\n" ++
  "\n"

/-- The signature with a body that passes the arguments on. -/
def definition : String :=
  emitted.signature ++ "\n" ++
  "\x7b\n" ++
  "    return new Impl_(" ++ commaSeparated emitted.arguments ++ ");\n" ++
  "\x7d\n" ++
  "\n"

/-- The declaration and the definition. -/
def block : Block := ⟨some emitted.declaration, emitted.definition⟩

open Template (render render_text render_text_append render_hole_append)

variable {emitted} {bindings : Bindings}

theorem render_declaration (h : Target.Binds .cpp emitted.plan emitted.arguments bindings) :
    ∃ template, Target.declaration? .cpp = some template ∧
      render template bindings = .ok emitted.declaration := by
  refine ⟨_, rfl, ?_⟩
  unfold declaration signature
  rw [show ");\n" = ")" ++ ";\n" from rfl]
  simp only [String.append_assoc]
  rw [render_text_append rfl (by decide +kernel),
    render_hole_append rfl (by decide +kernel) h.arity,
    render_text_append rfl (by decide +kernel),
    render_hole_append rfl (by decide +kernel) h.pattern,
    render_text_append rfl (by decide +kernel), render_text_append rfl (by decide +kernel),
    render_hole_append rfl (by decide +kernel) h.typeParameters,
    render_text_append rfl (by decide +kernel), render_text_append rfl (by decide +kernel),
    render_hole_append rfl (by decide +kernel) h.parameters,
    render_text_append rfl (by decide +kernel), render_text_append rfl (by decide +kernel),
    render_text rfl (by decide +kernel)]
  rfl

theorem render_definition (h : Target.Binds .cpp emitted.plan emitted.arguments bindings) :
    render (Target.definition .cpp) bindings = .ok emitted.definition := by
  unfold Target.definition definition signature
  rw [show ")\n" = ")" ++ "\n" from rfl]
  simp only [String.append_assoc]
  rw [render_text_append rfl (by decide +kernel),
    render_hole_append rfl (by decide +kernel) h.typeParameters,
    render_text_append rfl (by decide +kernel), render_text_append rfl (by decide +kernel),
    render_hole_append rfl (by decide +kernel) h.parameters,
    render_text_append rfl (by decide +kernel), render_text_append rfl (by decide +kernel),
    render_text_append rfl (by decide +kernel), render_text_append rfl (by decide +kernel),
    render_hole_append rfl (by decide +kernel) h.arguments,
    render_text_append rfl (by decide +kernel), render_text_append rfl (by decide +kernel),
    render_text rfl (by decide +kernel)]
  rfl

end Emitted

variable {State : Type}

/-- The built-in engine renders every plan whose arguments are there. -/
theorem Block.render_emitted (emitted : Emitted) (s : State) :
    Block.render Engine.placeholder .cpp emitted.plan s = .ok (emitted.block, s) := by
  obtain ⟨bindings, bound, binds⟩ := Target.exists_planBindings emitted.passed
  obtain ⟨template, declared, declares⟩ := Emitted.render_declaration binds
  exact Block.render_declared bound declared declares (Emitted.render_definition binds) s

/-- It renders no others, and what it renders has one signature. -/
theorem Block.render_cpp_eq_ok_iff {plan : Plan} {block : Block} {s after : State} :
    Block.render Engine.placeholder .cpp plan s = .ok (block, after) ↔
      after = s ∧ ∃ emitted : Emitted, emitted.plan = plan ∧ emitted.block = block := by
  cases passed : Target.callArguments .cpp plan with
  | error cause =>
    constructor
    · intro rendered
      unfold Block.render Target.planBindings at rendered
      rw [passed] at rendered
      cases rendered
    · rintro ⟨-, emitted, rfl, -⟩
      rw [emitted.passed] at passed
      cases passed
  | ok arguments =>
    rw [Block.render_emitted ⟨plan, arguments, passed⟩ s]
    constructor
    · rintro ⟨⟩
      exact ⟨rfl, _, rfl, rfl⟩
    · rintro ⟨rfl, ⟨_, _, own⟩, rfl, rfl⟩
      rw [passed] at own
      cases own
      rfl

end FactoryOverloads
