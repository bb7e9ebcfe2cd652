import FactoryOverloads.Proofs.Emission.Block
import FactoryOverloads.Proofs.Partition.Word
import FactoryOverloads.Proofs.Template.Placeholders

/-!
# References to arguments

A plan says several things more than once, and nothing keeps it from contradicting
itself: its arity need not be that of its partition, its key need not be that of its
call. A target does not mind, except that a slot of the call may refer to an argument
that the plan does not have (`Plan.Dangles`). Both targets refuse a plan for the first
reference of this kind, and for nothing else:

* `Target.callArguments_eq`: what comes of the references, by induction on the call;
* `Target.planBindings_eq_error_iff`: no other part of the bindings can fail;
* `Target.placeholders_bound`: the templates ask for no name that is not bound, whatever
  the texts are, so that `Block.exists_render` renders every plan that has bindings.

Planning makes no such references (`Plan.dangling?_ofPartition`).
-/

namespace FactoryOverloads

open Plan (ofPartition)

/-- The index of the argument that a slot refers to. -/
def Slot.reference? : Slot → Option Nat
  | .explicitRef index => some index
  | .injectedResolve _ => none

namespace Plan

/-- Whether the plan has no argument of an index. -/
def lacks (plan : Plan) (index : Nat) : Bool := plan.explicitArguments.length ≤ index

/-- The first index in the call that no argument has. -/
def dangling? (plan : Plan) : Option Nat :=
  (plan.call.filterMap Slot.reference?).find? plan.lacks

/-- A slot of the call refers to an argument that the plan does not have. -/
def Dangles (plan : Plan) : Prop :=
  ∃ index, Slot.explicitRef index ∈ plan.call ∧ plan.explicitArguments.length ≤ index

theorem mem_references {call : List Slot} {index : Nat} :
    index ∈ call.filterMap Slot.reference? ↔ Slot.explicitRef index ∈ call := by
  rw [List.mem_filterMap]
  constructor
  · rintro ⟨slot, member, refers⟩
    cases slot with
    | explicitRef own =>
      cases refers
      exact member
    | injectedResolve position => cases refers
  · intro member
    exact ⟨_, member, rfl⟩

theorem dangling?_eq_none_iff {plan : Plan} : plan.dangling? = none ↔ ¬ plan.Dangles := by
  simp only [dangling?, List.find?_eq_none, mem_references, lacks, decide_eq_true_eq, Dangles,
    not_exists, not_and]

theorem exists_dangling?_iff {plan : Plan} :
    (∃ index, plan.dangling? = some index) ↔ plan.Dangles := by
  rw [← Option.ne_none_iff_exists', Ne, dangling?_eq_none_iff, not_not]

end Plan

namespace Target

variable {target : Target} {plan : Plan}

/-! ## The arguments of the call -/

theorem callArgument_of_lacks {index : Nat} (h : plan.lacks index = true) :
    target.callArgument plan (.explicitRef index) =
      .error (.argument plan.explicitArguments.length index) := by
  have beyond : plan.explicitArguments.length ≤ index := by simpa [Plan.lacks] using h
  have absent : plan.argument index = .error (.argument plan.explicitArguments.length index) := by
    rw [Plan.argument, List.getElem?_eq_none beyond]
  cases target with
  | cpp =>
    rw [callArgument, absent]
    rfl
  | rust => exact absent

theorem exists_callArgument (target : Target) {slot : Slot}
    (h : ∀ index, slot.reference? = some index → plan.lacks index = false) :
    ∃ text, target.callArgument plan slot = .ok text := by
  cases slot with
  | explicitRef index =>
    have inside : index < plan.explicitArguments.length := by simpa [Plan.lacks] using h index rfl
    have present : plan.argument index = .ok plan.explicitArguments[index] := by
      rw [Plan.argument, List.getElem?_eq_getElem inside]
    cases target with
    | cpp =>
      rw [callArgument, present]
      exact ⟨_, rfl⟩
    | rust => exact ⟨_, present⟩
  | injectedResolve position => cases target <;> exact ⟨_, rfl⟩

/-- The slots are gone through in position order, so that the first reference without
an argument decides. -/
theorem mapM_callArgument (target : Target) (plan : Plan) (slots : List Slot) :
    match (slots.filterMap Slot.reference?).find? plan.lacks with
    | some index => slots.mapM (target.callArgument plan) =
        .error (.argument plan.explicitArguments.length index)
    | none => ∃ arguments, slots.mapM (target.callArgument plan) = .ok arguments := by
  induction slots with
  | nil => exact ⟨[], rfl⟩
  | cons slot slots ih =>
    by_cases dangles : ∃ index, slot.reference? = some index ∧ plan.lacks index = true
    · obtain ⟨index, refers, lacks⟩ := dangles
      have first : ((slot :: slots).filterMap Slot.reference?).find? plan.lacks = some index := by
        rw [List.filterMap_cons_some refers, List.find?_cons_of_pos lacks]
      cases slot with
      | explicitRef own =>
        cases refers
        simp only [first]
        rw [List.mapM_cons, callArgument_of_lacks lacks]
        rfl
      | injectedResolve position => cases refers
    · have present (index : Nat) (refers : slot.reference? = some index) :
          plan.lacks index = false := by
        cases lacks : plan.lacks index with
        | true => exact absurd ⟨index, refers, lacks⟩ dangles
        | false => rfl
      have later : ((slot :: slots).filterMap Slot.reference?).find? plan.lacks =
          (slots.filterMap Slot.reference?).find? plan.lacks := by
        cases refers : slot.reference? with
        | none => rw [List.filterMap_cons_none refers]
        | some index =>
          rw [List.filterMap_cons_some refers,
            List.find?_cons_of_neg (by rw [present index refers]; exact Bool.false_ne_true)]
      obtain ⟨text, passed⟩ := exists_callArgument target present
      rw [later, List.mapM_cons, passed]
      cases found : (slots.filterMap Slot.reference?).find? plan.lacks with
      | some index =>
        simp only [found] at ih ⊢
        rw [ih]
        rfl
      | none =>
        simp only [found] at ih ⊢
        obtain ⟨arguments, rest⟩ := ih
        rw [rest]
        exact ⟨_, rfl⟩

theorem callArguments_of_dangling (target : Target) {index : Nat}
    (h : plan.dangling? = some index) :
    target.callArguments plan = .error (.argument plan.explicitArguments.length index) := by
  have arguments := mapM_callArgument target plan plan.call
  rw [← Plan.dangling?, h] at arguments
  exact arguments

theorem exists_callArguments (target : Target) (h : plan.dangling? = none) :
    ∃ arguments, target.callArguments plan = .ok arguments := by
  have arguments := mapM_callArgument target plan plan.call
  rw [← Plan.dangling?, h] at arguments
  exact arguments

/-! ## The bindings -/

theorem planBindings_of_dangling (target : Target) {index : Nat}
    (h : plan.dangling? = some index) :
    target.planBindings plan = .error (.argument plan.explicitArguments.length index) := by
  unfold planBindings
  rw [callArguments_of_dangling target h]
  rfl

/-- A target binds whatever a plan says, and refuses it for its references only. -/
theorem planBindings_eq_error_iff {cause : Defect} :
    target.planBindings plan = .error cause ↔
      ∃ index, plan.dangling? = some index ∧
        cause = .argument plan.explicitArguments.length index := by
  cases dangling : plan.dangling? with
  | some index =>
    rw [planBindings_of_dangling target dangling]
    simp only [Except.error.injEq, Option.some.injEq, exists_eq_left', eq_comm]
  | none =>
    obtain ⟨arguments, passed⟩ := exists_callArguments target dangling
    obtain ⟨bindings, bound, -⟩ := exists_planBindings passed
    rw [bound]
    simp

/-- The names that a target binds for an overload. -/
def boundNames : Target → List String
  | .cpp => ["arity", "pattern", "type_params", "params", "call_args"]
  | .rust => ["arity", "pattern", "type_params", "params", "call_args", "name", "bounds"]

theorem names_planBindings {bindings : Bindings} (h : target.planBindings plan = .ok bindings) :
    bindings.entries.map Prod.fst = target.boundNames := by
  unfold planBindings at h
  cases passed : target.callArguments plan with
  | error cause =>
    rw [passed] at h
    cases h
  | ok arguments =>
    rw [passed] at h
    cases target <;> cases h <;> rfl

/-- The templates of an overload, in the order in which they are filled. -/
def templates (target : Target) : List String := target.declaration?.toList ++ [target.definition]

theorem forall_mem_templates {property : String → Prop}
    (declaration : ∀ template, target.declaration? = some template → property template)
    (definition : property target.definition) :
    ∀ template ∈ target.templates, property template := by
  intro template member
  rcases List.mem_append.mp member with declares | defines
  · exact declaration template (Option.mem_toList.mp declares)
  · rw [List.mem_singleton.mp defines]
    exact definition

open Template (placeholders segments hole) in
/-- No template of an overload asks for a name that is not bound. -/
theorem placeholders_bound (target : Target) :
    ∀ template ∈ target.templates, ∀ name ∈ placeholders template,
      name ∈ target.boundNames := by
  cases target with
  | cpp =>
    refine forall_mem_templates (fun template declared => ?_) ?_
    · unfold declaration? at declared
      cases declared
      unfold placeholders segments hole
      simp only [String.toList_append]
      decide +kernel
    · unfold placeholders segments definition hole
      simp only [String.toList_append]
      decide +kernel
  | rust =>
    refine forall_mem_templates (fun template declared => ?_) ?_
    · cases declared
    · unfold placeholders segments definition hole
      simp only [String.toList_append]
      decide +kernel

theorem exists_render {bindings : Bindings} (h : target.planBindings plan = .ok bindings)
    {template : String} (member : template ∈ target.templates) :
    ∃ text, Template.render template bindings = .ok text := by
  refine Template.render_eq_ok_iff.mpr fun name asked => ?_
  have bound := placeholders_bound target template member name asked
  rw [← names_planBindings h, List.mem_map] at bound
  obtain ⟨entry, listed, same⟩ := bound
  exact List.lookup_isSome_iff.mpr ⟨entry, listed, beq_iff_eq.mpr same.symm⟩

end Target

/-! ## Plans that are emitted -/

variable {State : Type} {target : Target} {plan : Plan}

/-- The built-in engine renders every plan that has bindings. -/
theorem Block.exists_render {bindings : Bindings} (h : target.planBindings plan = .ok bindings) :
    ∃ block, ∀ {State : Type} (s : State),
      Block.render Engine.placeholder target plan s = .ok (block, s) := by
  obtain ⟨definition, defines⟩ :=
    Target.exists_render h (List.mem_append_right _ (List.mem_singleton_self _))
  cases declared : target.declaration? with
  | some template =>
    have member : template ∈ target.templates := by simp [Target.templates, declared]
    obtain ⟨declaration, declares⟩ := Target.exists_render h member
    exact ⟨_, fun s => Block.render_declared h declared declares defines s⟩
  | none => exact ⟨_, fun s => Block.render_undeclared h declared defines s⟩

/-- A plan without bindings does not reach the engine. -/
theorem Block.render_of_dangling {index : Nat} (h : plan.dangling? = some index)
    (engine : Engine State) (s : State) :
    Block.render engine target plan s =
      .error (.defect (.argument plan.explicitArguments.length index)) := by
  unfold Block.render
  rw [Target.planBindings_of_dangling target h]
  rfl

/-- The rank of an explicit position is the index of an argument. -/
theorem Plan.dangling?_ofPartition (p : Partition) : (ofPartition p).dangling? = none := by
  cases dangling : (ofPartition p).dangling? with
  | some index =>
    have refused := Target.planBindings_of_dangling .cpp dangling
    rw [Target.planBindings_ofPartition] at refused
    cases refused
  | none => rfl

namespace Plan

/-- Only the references of its call decide about a plan, in either target. -/
structure Decided (plan : Plan) : Prop where
  refused : ∀ target : Target, (∃ cause, target.planBindings plan = .error cause) ↔
    ∃ index, Slot.explicitRef index ∈ plan.call ∧ plan.explicitArguments.length ≤ index
  /-- The defect tells of the first reference without an argument. -/
  cause : ∀ (target : Target) (cause : Defect), target.planBindings plan = .error cause ↔
    ∃ index, plan.dangling? = some index ∧ cause = .argument plan.explicitArguments.length index
  agreed : ∀ cause : Defect,
    Target.planBindings .cpp plan = .error cause ↔ Target.planBindings .rust plan = .error cause
  /-- No marker of the partition is read outside a domain, whatever arity the plan tells. -/
  marked : ∀ position < plan.partition.arity,
    plan.partition.marker position = .ok (plan.partition.isExplicit position) ∧
    Partition.marker? plan.partition.arity plan.partition.word position =
      some (plan.partition.isExplicit position)
  /-- A plan that is refused does not reach an engine. -/
  stopped : ∀ (target : Target) (cause : Defect), target.planBindings plan = .error cause →
    ∀ {State : Type} (engine : Engine State) (s : State),
      Block.render engine target plan s = .error (.defect cause)
  rendered : ∀ target : Target, (¬ ∃ cause, target.planBindings plan = .error cause) →
    ∃ block, ∀ {State : Type} (s : State),
      Block.render Engine.placeholder target plan s = .ok (block, s)

theorem decided (plan : Plan) : plan.Decided where
  refused target := by
    rw [← Dangles, ← exists_dangling?_iff]
    constructor
    · rintro ⟨cause, refused⟩
      obtain ⟨index, dangling, -⟩ := Target.planBindings_eq_error_iff.mp refused
      exact ⟨index, dangling⟩
    · rintro ⟨index, dangling⟩
      exact ⟨_, Target.planBindings_of_dangling target dangling⟩
  cause target cause := Target.planBindings_eq_error_iff
  agreed cause := by rw [Target.planBindings_eq_error_iff, Target.planBindings_eq_error_iff]
  marked position below :=
    ⟨Partition.marker_eq below, Partition.marker?_word plan.partition below⟩
  stopped target cause refused State engine s := by
    obtain ⟨index, dangling, rfl⟩ := Target.planBindings_eq_error_iff.mp refused
    exact Block.render_of_dangling dangling engine s
  rendered target accepted := by
    cases bound : target.planBindings plan with
    | error cause => exact absurd ⟨cause, bound⟩ accepted
    | ok bindings => exact Block.exists_render bound

/-- A plan is refused exactly when a slot of its call refers to an argument that it
does not have, whatever else it says and in both targets alike. All other plans are
rendered. The plan of a partition is never refused. -/
theorem refused_for_dangling_reference :
    (∀ plan : Plan, plan.Decided) ∧
    ∀ (p : Partition) (target : Target) (cause : Defect),
      target.planBindings (ofPartition p) ≠ .error cause := by
  refine ⟨decided, fun p target cause refused => ?_⟩
  obtain ⟨index, dangling, -⟩ := Target.planBindings_eq_error_iff.mp refused
  rw [dangling?_ofPartition] at dangling
  cases dangling

/-- A plan of one argument whose fields contradict each other. -/
def contradictory (call : List Slot) : Plan :=
  ⟨7, ⟨2, 1, by decide, by decide⟩, ["$\x7bname\x7d"], call, ⟨[.injected], 9⟩⟩

theorem refused_for_dangling_reference_of_contradictory :
    (∀ target : Target,
      target.planBindings (contradictory [.explicitRef 0, .explicitRef 4, .explicitRef 1]) =
        .error (.argument 1 4)) ∧
    ∀ target : Target, ∃ block,
      Block.render Engine.placeholder target
        (contradictory [.injectedResolve 8, .explicitRef 0, .explicitRef 0]) () =
          .ok (block, ()) := by
  obtain ⟨decided, -⟩ := refused_for_dangling_reference
  refine ⟨fun target => ((decided _).cause target _).mpr ⟨4, rfl, rfl⟩, fun target => ?_⟩
  have accepted : ¬ ∃ cause, target.planBindings
      (contradictory [.injectedResolve 8, .explicitRef 0, .explicitRef 0]) = .error cause := by
    rw [(decided _).refused target]
    exact dangling?_eq_none_iff.mp rfl
  obtain ⟨block, rendered⟩ := (decided _).rendered target accepted
  exact ⟨block, rendered ()⟩

end Plan

end FactoryOverloads
