import Mathlib.Data.Set.List
import FactoryOverloads.Proofs.Artifact.Building
import FactoryOverloads.Proofs.FileTree.Walking

/-!
# Declarations before definitions

An artifact comes to be as a frame, to which rendered blocks are added
(`Artifact.Assembled`); a build does nothing else, whatever its engine is
(`Artifact.assembled_of_build`). So all its blocks are rendered from plans
(`Artifact.Assembled.rendered`, by induction on how the artifact has come to be), and
what holds of one plan holds all along the artifact: in `cpp` its declarations and
its definitions are the two halves of one list of overloads, and in `rust` it has
no declarations (`Artifact.parts_pair`).
-/

namespace FactoryOverloads

variable {State : Type} {engine : Engine State} {target : Target} {s after : State}

/-! ## Renderings that succeed -/

theorem rendering_bind_eq_ok_iff {α β : Type} {x : Rendering State α} {f : α → Rendering State β}
    {b : β} : (x >>= f) s = .ok (b, after) ↔
      ∃ a between, x s = .ok (a, between) ∧ f a between = .ok (b, after) := by
  show (x s >>= fun p => f p.1 p.2) = .ok (b, after) ↔ _
  rw [bind_eq_ok_iff, Prod.exists]

theorem rendering_pure_eq_ok_iff {α : Type} {a b : α} :
    (pure a : Rendering State α) s = .ok (b, after) ↔ a = b ∧ s = after := by
  show Except.ok (a, s) = .ok (b, after) ↔ _
  rw [Except.ok.injEq, Prod.mk.injEq]

/-- What comes of a list comes of its items, one by one. -/
theorem rendering_of_mem_mapM {α β : Type} {f : α → Rendering State β} {items : List α}
    {values : List β} (h : items.mapM f s = .ok (values, after)) :
    ∀ value ∈ values, ∃ item before next, f item before = .ok (value, next) := by
  induction items generalizing s values with
  | nil =>
    rw [List.mapM_nil, rendering_pure_eq_ok_iff] at h
    rw [← h.1]
    exact List.forall_mem_nil _
  | cons item items ih =>
    simp only [List.mapM_cons, rendering_bind_eq_ok_iff, rendering_pure_eq_ok_iff] at h
    obtain ⟨value, between, here, rest, _, later, rfl, rfl⟩ := h
    exact List.forall_mem_cons.mpr ⟨⟨item, s, between, here⟩, ih later⟩

/-- Whatever the engine does, nothing is declared without a template for it. -/
theorem Block.declaration_of_render {plan : Plan} {block : Block}
    (undeclared : target.declaration? = none)
    (h : Block.render engine target plan s = .ok (block, after)) : block.declaration = none := by
  unfold render at h
  rw [undeclared] at h
  cases bound : target.planBindings plan with
  | error cause =>
    rw [bound] at h
    cases h
  | ok bindings =>
    rw [bound] at h
    simp only [rendering_bind_eq_ok_iff, rendering_pure_eq_ok_iff] at h
    obtain ⟨_, _, -, _, _, ⟨rfl, -⟩, _, _, -, rfl, -⟩ := h
    rfl

theorem Block.exists_renderAll_of_ofArity {arity : Nat} {blocks : List Block}
    (h : Block.ofArity engine target arity s = .ok (blocks, after)) :
    ∃ plans, Block.renderAll engine target plans s = .ok (blocks, after) := by
  unfold ofArity at h
  cases planned : Plan.ofArity arity with
  | error cause =>
    rw [planned] at h
    cases h
  | ok plans =>
    rw [planned] at h
    exact ⟨plans, h⟩

namespace Artifact

/-! ## How an artifact comes to be -/

/-- A frame that blocks of plans have been added to, any number of times. -/
inductive Assembled (engine : Engine State) (target : Target) : Artifact → Prop where
  | frame (prologue epilogue : String) : Assembled engine target (.frame prologue epilogue)
  | extend {artifact : Artifact} {plans : List Plan} {blocks : List Block} {s after : State}
      (assembled : Assembled engine target artifact)
      (rendered : Block.renderAll engine target plans s = .ok (blocks, after)) :
      Assembled engine target (artifact.extend blocks)

/-- Every block of an artifact is that of a plan. -/
theorem Assembled.rendered {artifact : Artifact} (h : artifact.Assembled engine target) :
    ∀ block ∈ artifact.blocks, ∃ plan s after,
      Block.render engine target plan s = .ok (block, after) := by
  induction h with
  | frame prologue epilogue => exact List.forall_mem_nil _
  | extend _ rendered ih =>
    exact List.forall_mem_append.mpr ⟨ih, rendering_of_mem_mapM rendered⟩

theorem Assembled.foldl_extend {artifact : Artifact} (h : artifact.Assembled engine target)
    {parts : List (List Block)} (rendered : ∀ blocks ∈ parts, ∃ plans s after,
      Block.renderAll engine target plans s = .ok (blocks, after)) :
    (parts.foldl Artifact.extend artifact).Assembled engine target := by
  induction parts generalizing artifact with
  | nil => exact h
  | cons blocks parts ih =>
    obtain ⟨⟨plans, s, after, here⟩, later⟩ := List.forall_mem_cons.mp rendered
    exact ih (h.extend here) later

/-- A build extends its frame, arity by arity. -/
theorem assembled_of_build {settings : Settings} {artifact : Artifact}
    (h : build engine settings s = .ok (artifact, after)) :
    artifact.Assembled engine settings.target := by
  cases valid : settings.validate with
  | error cause =>
    rw [build_of_validate_error valid] at h
    cases h
  | ok _ =>
    unfold build at h
    rw [valid] at h
    simp only [rendering_bind_eq_ok_iff, rendering_pure_eq_ok_iff, renderFrame] at h
    obtain ⟨_, _, -, blocks, _, run, _, _, ⟨prologue, _, -, epilogue, _, -, rfl, -⟩, rfl, -⟩ := h
    refine (Assembled.frame prologue epilogue).foldl_extend fun part mem => ?_
    obtain ⟨arity, s, after, built⟩ := rendering_of_mem_mapM run part mem
    obtain ⟨plans, rendered⟩ := Block.exists_renderAll_of_ofArity built
    exact ⟨plans, s, after, rendered⟩

/-! ## The parts -/

theorem Assembled.exists_emitted {artifact : Artifact}
    (h : artifact.Assembled (Engine.placeholder : Engine State) .cpp) :
    ∃ emitted : List Emitted, emitted.map Emitted.block = artifact.blocks := by
  have each : artifact.blocks ∈ {blocks : List Block | ∀ block ∈ blocks,
      block ∈ Set.range Emitted.block} := by
    intro block mem
    obtain ⟨plan, s, after, rendered⟩ := h.rendered block mem
    obtain ⟨-, emitted, -, same⟩ := Block.render_cpp_eq_ok_iff.mp rendered
    exact ⟨emitted, same⟩
  rwa [← Set.range_list_map] at each

theorem Assembled.declarations_rust {artifact : Artifact} (h : artifact.Assembled engine .rust) :
    declarations artifact.blocks = [] := by
  rw [declarations, List.filterMap_eq_nil_iff]
  intro block mem
  obtain ⟨plan, s, after, rendered⟩ := h.rendered block mem
  exact Block.declaration_of_render rfl rendered

/-- Each overload of a `cpp` artifact is declared and defined with one signature,
and everything that is declared stands before everything that is defined. What is
declared is one list with what is defined, overload for overload. A `rust`
artifact declares nothing, whatever its engine does. What a build gives is always
such an artifact. -/
theorem parts_pair :
    (∀ (plan : Plan) (block : Block) (s after : State),
      Block.render Engine.placeholder .cpp plan s = .ok (block, after) →
        ∃ emitted : Emitted, emitted.plan = plan ∧
          block.declaration = some emitted.declaration ∧
          block.definition = emitted.definition) ∧
    (∀ artifact : Artifact, artifact.Assembled (Engine.placeholder : Engine State) .cpp →
      ∃ emitted : List Emitted, emitted.length = artifact.size ∧
        declarations artifact.blocks = emitted.map Emitted.declaration ∧
        definitions artifact.blocks = emitted.map Emitted.definition ∧
        artifact.parts = [artifact.prologue] ++ emitted.map Emitted.declaration ++
          emitted.map Emitted.definition ++ [artifact.epilogue]) ∧
    (∀ (engine : Engine State) (artifact : Artifact), artifact.Assembled engine .rust →
      declarations artifact.blocks = [] ∧
        artifact.parts =
          [artifact.prologue] ++ definitions artifact.blocks ++ [artifact.epilogue]) ∧
    ∀ (engine : Engine State) (settings : Settings) (s after : State) (artifact : Artifact),
      build engine settings s = .ok (artifact, after) →
        artifact.Assembled engine settings.target := by
  refine ⟨?plans, ?cpp, ?rust, fun engine settings s after artifact => assembled_of_build⟩
  case plans =>
    intro plan block s after rendered
    obtain ⟨-, emitted, own, rfl⟩ := Block.render_cpp_eq_ok_iff.mp rendered
    exact ⟨emitted, own, rfl, rfl⟩
  case cpp =>
    intro artifact assembled
    obtain ⟨emitted, blocks⟩ := assembled.exists_emitted
    have declared : declarations artifact.blocks = emitted.map Emitted.declaration := by
      rw [declarations, ← blocks, List.filterMap_map]
      exact congrFun List.filterMap_eq_map emitted
    have defined : definitions artifact.blocks = emitted.map Emitted.definition := by
      rw [definitions, ← blocks, List.map_map]
      rfl
    refine ⟨emitted, ?_, declared, defined, by rw [parts, declared, defined]⟩
    rw [size, ← blocks, List.length_map]
  case rust =>
    intro engine artifact assembled
    have undeclared := assembled.declarations_rust
    exact ⟨undeclared, by rw [parts, undeclared, List.append_nil]⟩

/-- A plan that no partition has, with an argument that looks like a placeholder. -/
theorem parts_pair_of_inserted_placeholder :
    (∃ (block : Block) (emitted : Emitted),
      Block.render Engine.placeholder .cpp
        ⟨7, ⟨1, 1, by decide, by decide⟩, ["a\n$\x7bparams\x7d"], [.explicitRef 0], ⟨[], 9⟩⟩ () =
          .ok (block, ()) ∧
      block.declaration = some emitted.declaration ∧ block.definition = emitted.definition) ∧
    (∃ (artifact : Artifact) (emitted : List Emitted),
      build Engine.placeholder ⟨0, 1, "out.hpp", .cpp⟩ () = .ok (artifact, ()) ∧
      artifact.parts = [artifact.prologue] ++ emitted.map Emitted.declaration ++
        emitted.map Emitted.definition ++ [artifact.epilogue]) ∧
    ∃ artifact : Artifact,
      build Engine.placeholder ⟨0, 1, "out.rs", .rust⟩ () = .ok (artifact, ()) ∧
      declarations artifact.blocks = [] := by
  refine ⟨?_, ?_, ?_⟩
  · have rendered := Block.render_emitted
      ⟨⟨7, ⟨1, 1, by decide, by decide⟩, ["a\n$\x7bparams\x7d"], [.explicitRef 0], ⟨[], 9⟩⟩,
        _, rfl⟩ ()
    obtain ⟨emitted, -, declared, defined⟩ := parts_pair.1 _ _ () () rendered
    exact ⟨_, emitted, rendered, declared, defined⟩
  · have valid : (⟨0, 1, "out.hpp", .cpp⟩ : Settings).validate = .ok () := rfl
    obtain ⟨ps, -, built⟩ := build_placeholder valid ()
    obtain ⟨emitted, -, -, -, whole⟩ :=
      parts_pair.2.1 _ (parts_pair.2.2.2 Engine.placeholder _ () () _ built)
    exact ⟨_, emitted, built, whole⟩
  · have valid : (⟨0, 1, "out.rs", .rust⟩ : Settings).validate = .ok () := rfl
    obtain ⟨ps, -, built⟩ := build_placeholder valid ()
    exact ⟨_, built, (parts_pair.2.2.1 Engine.placeholder _
      (parts_pair.2.2.2 Engine.placeholder _ () () _ built)).1⟩

end Artifact

end FactoryOverloads
