import Mathlib.Algebra.BigOperators.Group.Finset.Basic
import Mathlib.Algebra.BigOperators.Ring.List
import FactoryOverloads.Proofs.Artifact.Calls
import FactoryOverloads.Proofs.Artifact.Pairing

/-!
# Arities in any order

The arities of an artifact do not depend on one another. They may be processed one after
the other in any order (`Artifact.buildOver`), or side by side, so that calls for one arity
are made between those for another; only the calls for one arity keep their order
(`Schedule`). The results are put together in ascending order when all of them are there
(`Artifact.buildIn`).

A build processes the arities in ascending order (`Artifact.build_eq_buildOver`), and every
order of the arities is a schedule, whatever the engine is (`Artifact.exists_buildOver_eq`).
All schedules make the same number of calls (`Schedule.length_steps`), and from what the
built-in engine answers they make the same artifact (`Schedule.artifact_eq`). Hence an
engine that fails leaves nothing of an artifact, and one that answers all calls leaves
nothing out (`Artifact.fails_or_is_complete`).
-/

namespace FactoryOverloads

open Plan (ofPartition)

variable {State α β : Type}

/-! ## Items of several arities -/

/-- The items of an arity, in order. -/
def itemsFor (arity : Nat) (items : List (Nat × α)) : List α :=
  (items.filter fun item => item.1 == arity).map Prod.snd

section Items

variable {arity : Nat} {items : List (Nat × α)}

theorem itemsFor_append (arity : Nat) (first second : List (Nat × α)) :
    itemsFor arity (first ++ second) = itemsFor arity first ++ itemsFor arity second := by
  rw [itemsFor, List.filter_append, List.map_append]
  rfl

theorem itemsFor_own (arity : Nat) (values : List α) :
    itemsFor arity (values.map (arity, ·)) = values := by
  induction values with
  | nil => rfl
  | cons value values ih => simpa [itemsFor] using ih

theorem itemsFor_of_notMem (h : arity ∉ items.map Prod.fst) : itemsFor arity items = [] := by
  rw [itemsFor, List.map_eq_nil_iff, List.filter_eq_nil_iff]
  intro item member same
  exact h (List.mem_map.mpr ⟨item, member, beq_iff_eq.mp same⟩)

theorem itemsFor_map (arity : Nat) (f : α → β) (items : List (Nat × α)) :
    itemsFor arity (items.map fun item => (item.1, f item.2)) = (itemsFor arity items).map f := by
  simp only [itemsFor, List.filter_map, List.map_map]
  rfl

theorem mem_itemsFor {value : α} (h : (arity, value) ∈ items) : value ∈ itemsFor arity items :=
  List.mem_map.mpr ⟨_, List.mem_filter.mpr ⟨h, beq_self_eq_true arity⟩, rfl⟩

theorem length_itemsFor (arity : Nat) (items : List (Nat × α)) :
    (itemsFor arity items).length = (items.map Prod.fst).count arity := by
  rw [itemsFor, List.length_map, List.count, List.countP_map, List.countP_eq_length_filter]
  rfl

/-- Every item is counted at its arity. -/
theorem sum_length_itemsFor {arities : List Nat} (nodup : arities.Nodup)
    (only : ∀ item ∈ items, item.1 ∈ arities) :
    (arities.map fun arity => (itemsFor arity items).length).sum = items.length := by
  have counted : ∀ arity ∈ ((items.map Prod.fst : List Nat) : Multiset Nat),
      arity ∈ arities.toFinset := by
    simpa using only
  have total := Multiset.sum_count_eq_card counted
  rw [List.sum_toFinset _ nodup] at total
  simpa [length_itemsFor] using total

theorem itemsFor_other {k : Nat} (other : k ≠ arity) (values : List α) :
    itemsFor k (values.map (arity, ·)) = [] := by
  refine itemsFor_of_notMem fun member => other ?_
  obtain ⟨_, listed, rfl⟩ := List.mem_map.mp member
  obtain ⟨_, -, rfl⟩ := List.mem_map.mp listed
  rfl

/-- Items, one arity after the other. -/
def arityByArity (arities : List Nat) (values : Nat → List α) : List (Nat × α) :=
  arities.flatMap fun arity => (values arity).map (arity, ·)

theorem arityByArity_cons (arity : Nat) (arities : List Nat) (values : Nat → List α) :
    arityByArity (arity :: arities) values =
      (values arity).map (arity, ·) ++ arityByArity arities values :=
  List.flatMap_cons

theorem mem_of_mem_arityByArity {arities : List Nat} {values : Nat → List α}
    {item : Nat × α} (h : item ∈ arityByArity arities values) : item.1 ∈ arities := by
  obtain ⟨_, listed, own⟩ := List.mem_flatMap.mp h
  obtain ⟨_, -, rfl⟩ := List.mem_map.mp own
  exact listed

theorem notMem_tags_arityByArity {arities : List Nat} (fresh : arity ∉ arities)
    (values : Nat → List α) : arity ∉ (arityByArity arities values).map Prod.fst := by
  intro tagged
  obtain ⟨item, listed, rfl⟩ := List.mem_map.mp tagged
  exact fresh (mem_of_mem_arityByArity listed)

theorem itemsFor_arityByArity {arities : List Nat} (nodup : arities.Nodup)
    (values : Nat → List α) (member : arity ∈ arities) :
    itemsFor arity (arityByArity arities values) = values arity := by
  induction arities with
  | nil => cases member
  | cons head arities ih =>
    obtain ⟨fresh, later⟩ := List.nodup_cons.mp nodup
    rw [arityByArity_cons, itemsFor_append]
    rcases List.mem_cons.mp member with rfl | inside
    · rw [itemsFor_own, itemsFor_of_notMem (notMem_tags_arityByArity fresh values),
        List.append_nil]
    · have other : arity ≠ head := fun same => fresh (same ▸ inside)
      rw [itemsFor_other other, ih later inside, List.nil_append]

/-- One item for each arity, in any order, is found in the order of the arities. -/
theorem flatMap_itemsFor {order arities : List Nat} (nodup : order.Nodup)
    (found : ∀ arity ∈ arities, arity ∈ order) (value : Nat → α) :
    (arities.flatMap fun arity => itemsFor arity (order.map fun k => (k, value k))) =
      arities.map value := by
  have own : order.map (fun k => (k, value k)) = arityByArity order fun k => [value k] :=
    List.map_eq_flatMap
  have single : ∀ arity ∈ arities,
      itemsFor arity (order.map fun k => (k, value k)) = [value arity] := by
    intro arity listed
    rw [own, itemsFor_arityByArity nodup _ (found arity listed)]
  rw [List.flatMap_def, List.map_congr_left single, ← List.flatMap_def, List.map_eq_flatMap]

end Items

/-- The artifact of settings, when the arities are processed one after the other, in an
order of their own. -/
def Artifact.buildOver (engine : Engine State) (settings : Settings) (order : List Nat) :
    Rendering State Artifact := do
  settings.validate
  let results ← order.mapM fun arity => do
    let blocks ← Block.ofArity engine settings.target arity
    return (arity, blocks)
  let frame ← renderFrame engine settings.target settings.minArity settings.maxArity
  return (settings.arities.flatMap fun arity => itemsFor arity results).foldl extend frame

/-! ## Schedules -/

/-- An order for the calls of all arities, each under the arity that it is made for. -/
structure Schedule (settings : Settings) where
  steps : List (Nat × Call)
  /-- The calls of an arity are made in their own order, whatever is made between them. -/
  own : ∀ arity ∈ settings.arities,
    Block.calls settings.target arity = .ok (itemsFor arity steps)
  only : ∀ step ∈ steps, step.1 ∈ settings.arities

/-- What comes of a call that is made for an arity. -/
def Engine.answerFor (engine : Engine State) (step : Nat × Call) :
    Rendering State (Nat × String) := do
  let text ← engine.answer step.2
  return (step.1, text)

/-- The artifact of settings, when the calls for its blocks are made in the order of a
schedule. The first of them that fails ends the build. -/
def Artifact.buildIn (engine : Engine State) (settings : Settings)
    (schedule : Schedule settings) : Rendering State Artifact := do
  settings.validate
  let answers ← schedule.steps.mapM engine.answerFor
  let blocks := settings.arities.map fun arity => settings.target.blocks (itemsFor arity answers)
  let frame ← renderFrame engine settings.target settings.minArity settings.maxArity
  return blocks.foldl extend frame

theorem Settings.nodup_arities (settings : Settings) : settings.arities.Nodup :=
  List.nodup_range'

/-! ## One arity after the other -/

section InOrder

variable {engine : Engine State} {target : Target} {s after : State}

theorem rendering_bind_congr {x : Rendering State α} {f g : α → Rendering State β}
    (h : ∀ a s after, x s = .ok (a, after) → f a = g a) : x >>= f = x >>= g := by
  funext s
  show Except.bind (x s) (fun result => f result.1 result.2) =
    Except.bind (x s) (fun result => g result.1 result.2)
  cases ran : x s with
  | error cause => rfl
  | ok result => exact congrFun (h result.1 s result.2 ran) result.2

/-- Every answer is one for the arity of its call. -/
theorem tags_of_answers {steps : List (Nat × Call)} {answers : List (Nat × String)}
    (h : steps.mapM engine.answerFor s = .ok (answers, after)) :
    answers.map Prod.fst = steps.map Prod.fst := by
  induction steps generalizing s answers with
  | nil =>
    rw [List.mapM_nil, rendering_pure_eq_ok_iff] at h
    rw [← h.1]
    rfl
  | cons step steps ih =>
    simp only [List.mapM_cons, Engine.answerFor, rendering_bind_eq_ok_iff,
      rendering_pure_eq_ok_iff] at h
    obtain ⟨_, _, ⟨text, _, -, rfl, rfl⟩, rest, _, later, rfl, rfl⟩ := h
    rw [List.map_cons, List.map_cons, ih later]

theorem mapM_answerFor_own (engine : Engine State) (arity : Nat) (asked : List Call) :
    (asked.map (arity, ·)).mapM engine.answerFor = (do
      let texts ← asked.mapM engine.answer
      return texts.map (arity, ·)) := by
  induction asked with
  | nil => simp
  | cons call asked ih => simp [ih, Engine.answerFor]

/-- What is made of the blocks of each arity, when one is processed after the other. By
induction on the order; that the later answers are for other arities is only known of
a run that gave them. -/
theorem mapM_ofArity_eq (engine : Engine State) (make : Nat → List Block → α) {order : List Nat}
    (nodup : order.Nodup) {asked : Nat → List Call}
    (h : ∀ arity ∈ order, Block.calls target arity = .ok (asked arity)) :
    (order.mapM fun arity => do
      let blocks ← Block.ofArity engine target arity
      return make arity blocks) = (do
      let answers ← (arityByArity order asked).mapM engine.answerFor
      return order.map fun arity => make arity (target.blocks (itemsFor arity answers))) := by
  induction order with
  | nil => simp [arityByArity]
  | cons arity order ih =>
    obtain ⟨fresh, later⟩ := List.nodup_cons.mp nodup
    obtain ⟨here, rest⟩ := List.forall_mem_cons.mp h
    rw [List.mapM_cons, Block.ofArity_eq engine here, ih later rest, arityByArity_cons,
      List.mapM_append, mapM_answerFor_own]
    simp only [bind_assoc, pure_bind]
    refine bind_congr fun texts => rendering_bind_congr fun answers s after ran => ?_
    have own : itemsFor arity (texts.map (arity, ·) ++ answers) = texts := by
      have none_later : arity ∉ answers.map Prod.fst := by
        rw [tags_of_answers ran]
        exact notMem_tags_arityByArity fresh asked
      rw [itemsFor_append, itemsFor_own, itemsFor_of_notMem none_later, List.append_nil]
    have others : ∀ k ∈ order,
        make k (target.blocks (itemsFor k (texts.map (arity, ·) ++ answers))) =
          make k (target.blocks (itemsFor k answers)) := by
      intro k member
      have other : k ≠ arity := fun same => fresh (same ▸ member)
      rw [itemsFor_append, itemsFor_other other, List.nil_append]
    rw [List.map_cons, own, List.map_congr_left others]

end InOrder

namespace Schedule

variable {settings : Settings} (schedule : Schedule settings)

/-- What is asked for an arity is known before, however it is scheduled. -/
theorem itemsFor_steps (valid : settings.validate = .ok ()) {arity : Nat}
    (listed : arity ∈ settings.arities) :
    (itemsFor arity schedule.steps).length = settings.target.callsPerPlan * 2 ^ arity ∧
      ∀ call ∈ itemsFor arity schedule.steps, call.Fillable := by
  obtain ⟨asked, planned, size, fillable⟩ :=
    Block.exists_calls settings.target (Settings.le_of_mem_arities valid listed)
  obtain rfl : itemsFor arity schedule.steps = asked :=
    Except.ok.inj ((schedule.own arity listed).symm.trans planned)
  exact ⟨size, fillable⟩

theorem fillable_steps (valid : settings.validate = .ok ()) :
    ∀ step ∈ schedule.steps, step.2.Fillable := by
  intro step member
  have asked := schedule.itemsFor_steps valid (schedule.only step member)
  exact asked.2 step.2 (mem_itemsFor member)

/-- The number of calls does not depend on their order. -/
theorem length_steps (valid : settings.validate = .ok ()) :
    schedule.steps.length = settings.target.callsPerPlan *
      (2 ^ (settings.maxArity + 1) - 2 ^ settings.minArity) := by
  have each : ∀ arity ∈ settings.arities, (itemsFor arity schedule.steps).length =
      settings.target.callsPerPlan * (Partition.markerLists arity).length := by
    intro arity listed
    rw [(schedule.itemsFor_steps valid listed).1, Partition.length_markerLists]
  have ordered := (settings.validate_eq_ok_iff.mp valid).2.2
  have last : settings.minArity + (settings.maxArity + 1 - settings.minArity) =
      settings.maxArity + 1 := by omega
  calc schedule.steps.length
      = (settings.arities.map fun arity => (itemsFor arity schedule.steps).length).sum :=
        (sum_length_itemsFor settings.nodup_arities schedule.only).symm
    _ = (settings.arities.map fun arity =>
          settings.target.callsPerPlan * (Partition.markerLists arity).length).sum := by
        rw [List.map_congr_left each]
    _ = settings.target.callsPerPlan * (Partition.markerListsFrom settings.minArity
          (settings.maxArity + 1 - settings.minArity)).length := by
        rw [List.sum_map_mul_left, Partition.markerListsFrom, List.length_flatMap]
        rfl
    _ = _ := by rw [Partition.length_markerListsFrom, last]

/-- The blocks that the answers of the built-in engine make, arity by arity. -/
def blocks : List (List Block) :=
  settings.arities.map fun arity =>
    settings.target.blocks ((itemsFor arity schedule.steps).map Call.text)

/-- The artifact that the answers of the built-in engine make. -/
def artifact : Artifact :=
  schedule.blocks.foldl Artifact.extend
    (.frame (settings.target.prologueText settings.minArity settings.maxArity)
      settings.target.epilogue)

theorem artifact_eq (first second : Schedule settings) : first.artifact = second.artifact := by
  have same : first.blocks = second.blocks := by
    refine List.map_congr_left fun arity listed => ?_
    have steps := (first.own arity listed).symm.trans (second.own arity listed)
    rw [Except.ok.inj steps]
  rw [artifact, artifact, same]

end Schedule

namespace Artifact

variable {engine : Engine State} {left : State → Nat} {settings : Settings}

theorem buildIn_eq (engine : Engine State) (valid : settings.validate = .ok ())
    (schedule : Schedule settings) :
    buildIn engine settings schedule = (do
      let answers ← schedule.steps.mapM engine.answerFor
      let frame ← renderFrame engine settings.target settings.minArity settings.maxArity
      return (settings.arities.map fun arity =>
        settings.target.blocks (itemsFor arity answers)).foldl extend frame) := by
  unfold buildIn
  rw [valid]
  rfl

theorem exists_asked (valid : settings.validate = .ok ()) : ∃ asked : Nat → List Call,
    ∀ arity ∈ settings.arities, Block.calls settings.target arity = .ok (asked arity) := by
  have each : ∀ arity ∈ settings.arities,
      ∃ asked, Block.calls settings.target arity = .ok asked := by
    intro arity listed
    obtain ⟨asked, planned, -⟩ :=
      Block.exists_calls settings.target (Settings.le_of_mem_arities valid listed)
    exact ⟨asked, planned⟩
  choose! asked planned using each
  exact ⟨asked, planned⟩

/-- Processing one arity after the other is a schedule, whatever comes of the calls. -/
theorem exists_buildOver_eq (valid : settings.validate = .ok ()) {order : List Nat}
    (perm : order.Perm settings.arities) :
    ∃ schedule : Schedule settings, ∀ {State : Type} (engine : Engine State),
      buildOver engine settings order = buildIn engine settings schedule := by
  obtain ⟨asked, planned⟩ := exists_asked valid
  have nodup : order.Nodup := perm.nodup_iff.mpr settings.nodup_arities
  let schedule : Schedule settings :=
    { steps := arityByArity order asked
      own := fun arity listed => by
        rw [itemsFor_arityByArity nodup asked (perm.mem_iff.mpr listed), planned arity listed]
      only := fun _ member => perm.mem_iff.mp (mem_of_mem_arityByArity member) }
  refine ⟨schedule, fun engine => ?_⟩
  have processed := mapM_ofArity_eq engine Prod.mk nodup fun arity member =>
    planned arity (perm.mem_iff.mp member)
  have ascending (value : Nat → List Block) :=
    flatMap_itemsFor nodup (fun _ listed => perm.mem_iff.mpr listed) value
  rw [buildIn_eq engine valid]
  unfold buildOver
  rw [valid, processed]
  simp only [bind_assoc, pure_bind, ascending]
  rfl

/-- A build processes the arities in ascending order. -/
theorem build_eq_buildOver (engine : Engine State) (valid : settings.validate = .ok ()) :
    build engine settings = buildOver engine settings settings.arities := by
  obtain ⟨asked, planned⟩ := exists_asked valid
  have rendered := mapM_ofArity_eq engine (fun _ blocks => blocks) settings.nodup_arities planned
  have processed := mapM_ofArity_eq engine Prod.mk settings.nodup_arities planned
  simp only [bind_pure] at rendered
  unfold build buildOver
  rw [rendered, processed]
  simp only [bind_assoc, pure_bind, flatMap_itemsFor settings.nodup_arities fun _ => id]

theorem buildIn_placeholder (valid : settings.validate = .ok ()) (schedule : Schedule settings)
    (s : State) : buildIn Engine.placeholder settings schedule s = .ok (schedule.artifact, s) := by
  have answers : schedule.steps.mapM (Engine.placeholder : Engine State).answerFor =
      pure (schedule.steps.map fun step => (step.1, step.2.text)) := by
    refine mapM_eq_pure fun step member => ?_
    rw [Engine.answerFor, Engine.answer_placeholder
      (schedule.fillable_steps valid step member).render_eq, pure_bind]
  have frame := renderFrame_placeholder settings.target settings.minArity settings.maxArity s
  rw [buildIn_eq _ valid, answers]
  simp only [pure_bind, itemsFor_map]
  show Except.bind (renderFrame Engine.placeholder settings.target _ _ s) _ = _
  rw [frame]
  rfl

/-- In whatever order the calls are made, a build costs all of them. -/
theorem costs_buildIn (h : engine.Budgeted left) (valid : settings.validate = .ok ())
    (schedule : Schedule settings) :
    Costs engine left
      (settings.target.callsPerPlan *
        (2 ^ (settings.maxArity + 1) - 2 ^ settings.minArity) + 2)
      schedule.artifact (buildIn engine settings schedule) := by
  have answers : Costs engine left schedule.steps.length
      (schedule.steps.map fun step => (step.1, step.2.text))
      (schedule.steps.mapM engine.answerFor) :=
    costs_mapM fun step member =>
      costs_map (costs_answer h (schedule.fillable_steps valid step member).render_eq) (step.1, ·)
  have frame := costs_renderFrame h settings.target settings.minArity settings.maxArity
  rw [buildIn_eq _ valid, ← schedule.length_steps valid]
  refine costs_bind answers ?_
  simp only [itemsFor_map]
  exact costs_map frame (schedule.blocks.foldl extend ·)

/-- What an engine fails with is all that comes of a rendering, unless it answers every
call: one for each template of each plan, and two for the frame. Otherwise the rendering
comes to what it comes to with an engine that does not fail. For the artifact of settings,
the order in which calls for different arities are made does not matter. -/
theorem fails_or_is_complete (h : engine.Budgeted left) :
    (∀ (target : Target) (ps : List Partition), ∃ blocks : List Block,
      blocks.length = ps.length ∧
      Block.renderAll Engine.placeholder target (ps.map ofPartition) () = .ok (blocks, ()) ∧
      Costs engine left (target.callsPerPlan * ps.length) blocks
        (Block.renderAll engine target (ps.map ofPartition))) ∧
    (∀ (target : Target) (minArity maxArity : Nat), ∃ frame : Artifact,
      renderFrame Engine.placeholder target minArity maxArity () = .ok (frame, ()) ∧
      Costs engine left 2 frame (renderFrame engine target minArity maxArity)) ∧
    ∀ settings : Settings, settings.validate = .ok () →
      ∃ (artifact : Artifact) (cost : Nat),
        cost = settings.target.callsPerPlan *
          (2 ^ (settings.maxArity + 1) - 2 ^ settings.minArity) + 2 ∧
        build Engine.placeholder settings () = .ok (artifact, ()) ∧
        Costs engine left cost artifact (build engine settings) ∧
        (∀ order : List Nat, order.Perm settings.arities →
          Costs engine left cost artifact (buildOver engine settings order)) ∧
        ∀ schedule : Schedule settings,
          Costs engine left cost artifact (buildIn engine settings schedule) := by
  refine ⟨fun target ps => ?blocks, fun target minArity maxArity => ?frame,
    fun settings valid => ?artifact⟩
  case blocks =>
    exact ⟨_, List.length_map _, Block.renderAll_ofPartition target ps (),
      Block.costs_renderAll h target ps⟩
  case frame =>
    exact ⟨_, renderFrame_placeholder target minArity maxArity (),
      costs_renderFrame h target minArity maxArity⟩
  case artifact =>
    obtain ⟨ascending, same⟩ := exists_buildOver_eq valid (List.Perm.refl settings.arities)
    have each (schedule : Schedule settings) :
        Costs engine left (settings.target.callsPerPlan *
          (2 ^ (settings.maxArity + 1) - 2 ^ settings.minArity) + 2)
          ascending.artifact (buildIn engine settings schedule) := by
      rw [ascending.artifact_eq schedule]
      exact costs_buildIn h valid schedule
    refine ⟨ascending.artifact, _, rfl, ?_, ?_, fun order perm => ?_, each⟩
    · rw [build_eq_buildOver _ valid, same]
      exact buildIn_placeholder valid ascending ()
    · rw [build_eq_buildOver _ valid, same]
      exact each ascending
    · obtain ⟨schedule, same⟩ := exists_buildOver_eq valid perm
      rw [same]
      exact each schedule

/-- The call for the arity 0 is made between the two for the arity 1, and the fifth call is
the last one. -/
theorem fails_or_is_complete_between_calls :
    ∃ (schedule : Schedule ⟨0, 1, "out.rs", .rust⟩) (artifact : Artifact) (after : Nat × Unit),
      schedule.steps.map Prod.fst = [1, 0, 1] ∧
      build Engine.placeholder ⟨0, 1, "out.rs", .rust⟩ () = .ok (artifact, ()) ∧
      buildIn (Engine.placeholder.limited (.engine "engine unavailable" none)) _ schedule (5, ()) =
        .ok (artifact, after) ∧
      buildIn (Engine.placeholder.limited (.engine "engine unavailable" none)) _ schedule (4, ()) =
        .error (.template (.engine "engine unavailable" none)) := by
  obtain ⟨alone, ofZero, size, -⟩ := Block.exists_calls .rust (show 0 ≤ 32 by decide)
  obtain ⟨call, rfl⟩ := List.length_eq_one_iff.mp size
  obtain ⟨pair, ofOne, size, -⟩ := Block.exists_calls .rust (show 1 ≤ 32 by decide)
  obtain ⟨first, second, rfl⟩ := List.length_eq_two.mp size
  let schedule : Schedule ⟨0, 1, "out.rs", .rust⟩ :=
    { steps := [(1, first), (0, call), (1, second)]
      own := List.forall_mem_cons.mpr
        ⟨ofZero, List.forall_mem_cons.mpr ⟨ofOne, List.forall_mem_nil _⟩⟩
      only := by simp [Settings.arities, List.range'_succ] }
  have budgeted : ((Engine.placeholder : Engine Unit).limited
      (.engine "engine unavailable" none)).Budgeted Prod.fst := Engine.budgeted_limited _
  obtain ⟨artifact, cost, rfl, built, -, -, each⟩ :=
    (fails_or_is_complete budgeted).2.2 ⟨0, 1, "out.rs", .rust⟩ rfl
  obtain ⟨after, complete, -⟩ := (each schedule).enough (5, ()) (by decide)
  obtain ⟨cause, failed, _, ⟨calls, _⟩, exhausted, own⟩ := (each schedule).short (4, ()) (by decide)
  obtain rfl : calls = 0 := exhausted
  cases own
  exact ⟨schedule, artifact, after, rfl, built, complete, failed⟩

end Artifact

end FactoryOverloads
