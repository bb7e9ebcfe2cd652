import FactoryOverloads.Proofs.Artifact.Building
import FactoryOverloads.Proofs.Emission.References
import FactoryOverloads.Proofs.FileTree.Walking
import FactoryOverloads.Proofs.Template.Budget

/-!
# The calls of a rendering

What a rendering asks of its engine is known before the engine is asked: a call for each
template of the target and each plan (`Target.calls`). Whatever the engine is, rendering
is no more than making these calls in order and putting the answers together
(`Target.blocks`): of one plan (`Block.render_bind`), of several plans
(`Block.renderAll_eq`, by induction on them) and of an arity (`Block.ofArity_eq`).

The built-in engine answers the calls of every plan that has bindings, and there are as
many as the target has templates for each plan. So this is what blocks cost
(`Block.costs_renderAll`), while a frame costs two calls (`Artifact.costs_renderFrame`).
-/

namespace FactoryOverloads

open Plan (ofPartition)

variable {State : Type} {engine : Engine State} {left : State → Nat} {target : Target}
  {plan : Plan} {plans : List Plan} {bindings : Bindings}

namespace Target

/-- What a target asks of an engine for one overload, in order. -/
def calls (target : Target) (bindings : Bindings) : List Call :=
  target.templates.map fun template => ⟨template, bindings⟩

/-- The blocks that answers make, when they are given in the order of the calls. -/
def blocks : Target → List String → List Block
  | .cpp, declaration :: definition :: texts =>
    ⟨some declaration, definition⟩ :: blocks .cpp texts
  | .rust, definition :: texts => ⟨none, definition⟩ :: blocks .rust texts
  | _, _ => []

/-- The number of calls for one overload. -/
def callsPerPlan : Target → Nat
  | .cpp => 2
  | .rust => 1

theorem length_calls (target : Target) (bindings : Bindings) :
    (target.calls bindings).length = target.callsPerPlan := by
  cases target <;> rfl

theorem length_flatMap_calls (target : Target) (bound : List Bindings) :
    (bound.flatMap target.calls).length = target.callsPerPlan * bound.length := by
  induction bound with
  | nil => rfl
  | cons bindings bound ih =>
    rw [List.flatMap_cons, List.length_append, ih, length_calls, List.length_cons, Nat.mul_succ,
      Nat.add_comm]

theorem blocks_nil (target : Target) : target.blocks [] = [] := by
  cases target <;> rfl

/-- The built-in engine answers what it is asked for a plan. -/
theorem fillable_calls (h : target.planBindings plan = .ok bindings) :
    ∀ call ∈ target.calls bindings, call.Fillable :=
  List.forall_mem_map.mpr fun _ member => exists_render h member

theorem fillable_ofPartition (target : Target) (ps : List Partition) :
    ∀ call ∈ (ps.map target.bindings).flatMap target.calls, call.Fillable := by
  intro call member
  obtain ⟨bindings, listed, asked⟩ := List.mem_flatMap.mp member
  obtain ⟨p, -, rfl⟩ := List.mem_map.mp listed
  exact fillable_calls (target.planBindings_ofPartition p) call asked

theorem mapM_planBindings_ofPartition (target : Target) (ps : List Partition) :
    (ps.map ofPartition).mapM target.planBindings = .ok (ps.map target.bindings) := by
  rw [List.mapM_map]
  exact mapM_eq_pure fun p _ => target.planBindings_ofPartition p

end Target

/-! ## Blocks -/

namespace Block

theorem render_eq (engine : Engine State) (bound : target.planBindings plan = .ok bindings) :
    Block.render engine target plan = (do
      let declaration ← match target.declaration? with
        | some template => some <$> engine.answer ⟨template, bindings⟩
        | none => pure none
      let definition ← engine.answer ⟨target.definition, bindings⟩
      return ⟨declaration, definition⟩) := by
  unfold Block.render
  rw [bound]
  rfl

/-- The answers for a plan make its block, whatever is rendered after it. -/
theorem render_bind (engine : Engine State) (bound : target.planBindings plan = .ok bindings)
    (rest : Rendering State (List String)) :
    (do
      let texts ← (target.calls bindings).mapM engine.answer
      let others ← rest
      return target.blocks (texts ++ others)) = (do
      let block ← Block.render engine target plan
      let others ← rest
      return block :: target.blocks others) := by
  rw [render_eq engine bound]
  cases target with
  | cpp =>
    obtain ⟨template, declared⟩ : ∃ template, Target.declaration? .cpp = some template :=
      ⟨_, rfl⟩
    simp only [Target.calls, Target.templates, declared]
    simp [Target.blocks]
  | rust =>
    have undeclared : Target.declaration? .rust = none := rfl
    simp only [Target.calls, Target.templates, undeclared]
    simp [Target.blocks]

/-- Rendering plans is making their calls in order. -/
theorem renderAll_eq (engine : Engine State) {bound : List Bindings}
    (h : plans.mapM target.planBindings = .ok bound) :
    Block.renderAll engine target plans = (do
      let texts ← (bound.flatMap target.calls).mapM engine.answer
      return target.blocks texts) := by
  induction plans generalizing bound with
  | nil =>
    obtain rfl : [] = bound := Except.ok.inj h
    rw [renderAll, List.flatMap_nil, List.mapM_nil, List.mapM_nil, pure_bind, Target.blocks_nil]
  | cons plan plans ih =>
    simp only [List.mapM_cons, bind_eq_ok_iff] at h
    obtain ⟨bindings, here, others, later, ⟨⟩⟩ := h
    have rest := ih later
    rw [renderAll] at rest
    have answered := render_bind engine here ((others.flatMap target.calls).mapM engine.answer)
    rw [renderAll, List.mapM_cons, rest, List.flatMap_cons, List.mapM_append]
    simp only [bind_assoc, pure_bind] at answered ⊢
    exact answered.symm

/-- What a target asks of an engine for an arity. -/
def calls (target : Target) (arity : Nat) : Except Failure (List Call) := do
  let plans ← Plan.ofArity arity
  let bound ← (plans.mapM target.planBindings).mapError .defect
  return bound.flatMap target.calls

theorem calls_eq_ok_iff {arity : Nat} {asked : List Call} :
    calls target arity = .ok asked ↔ ∃ plans bound, Plan.ofArity arity = .ok plans ∧
      plans.mapM target.planBindings = .ok bound ∧ bound.flatMap target.calls = asked := by
  rw [calls, bind_eq_ok_iff]
  refine exists_congr fun plans => ?_
  cases bound : plans.mapM target.planBindings with
  | error cause => simp [Except.mapError, bind, Except.bind]
  | ok bound => simp [Except.mapError, bind, Except.bind, pure, Except.pure]

/-- Rendering an arity is making its calls in order. -/
theorem ofArity_eq (engine : Engine State) {arity : Nat} {asked : List Call}
    (h : calls target arity = .ok asked) :
    Block.ofArity engine target arity = (do
      let texts ← asked.mapM engine.answer
      return target.blocks texts) := by
  obtain ⟨plans, bound, planned, bindings, rfl⟩ := calls_eq_ok_iff.mp h
  rw [ofArity, planned]
  exact renderAll_eq engine bindings

theorem exists_calls (target : Target) {arity : Nat} (h : arity ≤ 32) :
    ∃ asked, calls target arity = .ok asked ∧
      asked.length = target.callsPerPlan * 2 ^ arity ∧ ∀ call ∈ asked, call.Fillable := by
  obtain ⟨ps, order, planned⟩ := Plan.ofArity_eq h
  have size : ps.length = 2 ^ arity := by
    rw [← List.length_map (f := Partition.markers), order, Partition.length_markerLists]
  refine ⟨_, calls_eq_ok_iff.mpr ⟨_, _, planned, target.mapM_planBindings_ofPartition ps, rfl⟩,
    ?_, target.fillable_ofPartition ps⟩
  rw [Target.length_flatMap_calls, List.length_map, size]

/-- Blocks cost a call for each template of each plan. -/
theorem costs_renderAll (h : engine.Budgeted left) (target : Target) (ps : List Partition) :
    Costs engine left (target.callsPerPlan * ps.length) (ps.map target.block)
      (Block.renderAll engine target (ps.map ofPartition)) := by
  have bound := target.mapM_planBindings_ofPartition ps
  have fillable := target.fillable_ofPartition ps
  have answered : target.blocks
      (((ps.map target.bindings).flatMap target.calls).map Call.text) = ps.map target.block := by
    have whole := renderAll_ofPartition target ps ()
    rw [renderAll_eq _ bound, mapM_eq_pure fun call member =>
      Engine.answer_placeholder (fillable call member).render_eq, pure_bind] at whole
    exact congrArg Prod.fst (Except.ok.inj whole)
  have size : ((ps.map target.bindings).flatMap target.calls).length =
      target.callsPerPlan * ps.length := by
    rw [Target.length_flatMap_calls, List.length_map]
  rw [renderAll_eq _ bound, ← answered, ← size]
  exact costs_map (costs_mapM fun call member =>
    costs_answer h (fillable call member).render_eq) target.blocks

end Block

/-- A frame costs a call for each of its two templates. -/
theorem Artifact.costs_renderFrame (h : engine.Budgeted left) (target : Target)
    (minArity maxArity : Nat) :
    Costs engine left 2 (.frame (target.prologueText minArity maxArity) target.epilogue)
      (renderFrame engine target minArity maxArity) := by
  let bindings := Target.frameBindings minArity maxArity
  have prologue : Costs engine left 1 (target.prologueText minArity maxArity)
      (engine.answer ⟨target.prologue, bindings⟩) :=
    costs_answer h (Target.render_prologue minArity maxArity target)
  have epilogue : Costs engine left 1 target.epilogue
      (engine.answer ⟨target.epilogue, bindings⟩) :=
    costs_answer h (Target.render_epilogue target bindings)
  show Costs engine left (1 + 1) _ (do
    let first ← engine.answer ⟨target.prologue, bindings⟩
    let last ← engine.answer ⟨target.epilogue, bindings⟩
    return Artifact.frame first last)
  exact costs_bind prologue (costs_map epilogue (Artifact.frame _))

end FactoryOverloads
