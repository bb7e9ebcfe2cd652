import Mathlib.Data.Finset.Card
import FactoryOverloads.Proofs.Signature.Registry

/-!
# The history of a registry

A registry is offered plans one after the other, and admits some of them
(`Registry.offer`, `Registry.after`). It remembers of every key which plan
introduced it, and how many keys there were (`Registry.Remembers`). An offer
keeps this (`Registry.Remembers.offer`), whether the plan is admitted or not, so
by induction on the history every verdict is known from the plans that were
offered before (`Registry.offer_after`).

A check is a history that ends with the first refusal. The refused plan is the
first one whose key occurred before, and the plan that is reported with it is the
one where the key occurred first (`Registry.check_eq_error_iff`), of all the pairs
with one key.
-/

namespace FactoryOverloads

namespace Registry

/-- What an offer does: the verdict, and the registry that is left. A plan that is
refused leaves the registry it found. -/
def offer (registry : Registry) (plan : Plan) : Except Failure Unit × Registry :=
  match registry.register plan with
  | .ok next => (.ok (), next)
  | .error cause => (.error cause, registry)

/-- The registry that is left when plans have been offered in order. -/
def offerAll (registry : Registry) (plans : List Plan) : Registry :=
  plans.foldl (fun registry plan => (registry.offer plan).2) registry

/-- The registry that was offered the plans of a history. -/
def after (history : List Plan) : Registry := empty.offerAll history

/-- The plan of a history that has a key first. -/
def introducer? (history : List Plan) (key : Key) : Option Plan :=
  history.find? fun plan => plan.key == key

/-- The failure of a plan whose key another one has. -/
def collision (first second : Plan) : Failure :=
  .collision second.arity first.partition.text second.partition.text second.key.text

theorem introducer?_eq_some_iff {history : List Plan} {key : Key} {first : Plan} :
    introducer? history key = some first ↔ first.key = key ∧
      ∃ before rest, history = before ++ first :: rest ∧ ∀ other ∈ before, other.key ≠ key := by
  simp [introducer?, List.find?_eq_some_iff_append]

theorem introducer?_eq_none_iff {history : List Plan} {key : Key} :
    introducer? history key = none ↔ key ∉ history.map Plan.key := by
  simp [introducer?]

theorem introducer?_concat (history : List Plan) (plan : Plan) (key : Key) :
    introducer? (history ++ [plan]) key =
      (introducer? history key).or (if plan.key = key then some plan else none) := by
  by_cases own : plan.key = key <;> simp [introducer?, List.find?_append, own]

/-- What a registry keeps of a history: who introduced each key, and the number of
the keys. -/
structure Remembers (registry : Registry) (history : List Plan) : Prop where
  holder : ∀ key, registry.holder? key = (introducer? history key).map Plan.partition
  size : registry.size = (history.map Plan.key).toFinset.card

theorem remembers_empty : empty.Remembers [] := ⟨fun key => holder?_empty key, rfl⟩

theorem toFinset_keys_concat (history : List Plan) (plan : Plan) :
    ((history ++ [plan]).map Plan.key).toFinset =
      insert plan.key (history.map Plan.key).toFinset := by
  ext key
  simp

section Offer

variable {registry : Registry} {history : List Plan} {plan first : Plan}

/-- An offer that is refused. -/
theorem Remembers.offer_of_known (h : registry.Remembers history)
    (known : introducer? history plan.key = some first) :
    registry.offer plan = (.error (collision first plan), registry) := by
  have held : registry.holder? plan.key = some first.partition := by rw [h.holder, known]; rfl
  simp only [Registry.offer, register, held, collision]

/-- An offer that is admitted. -/
theorem Remembers.offer_of_new (h : registry.Remembers history)
    (new : introducer? history plan.key = none) :
    ∃ next, registry.register plan = .ok next ∧ registry.offer plan = (.ok (), next) ∧
      next.size = registry.size + 1 := by
  have free : registry.holder? plan.key = none := by rw [h.holder, new]; rfl
  have step := register_eq_ok_iff.mpr ⟨free, rfl⟩
  exact ⟨_, step, by rw [Registry.offer, step], rfl⟩

/-- An offer keeps what the registry remembers, refused or not. -/
theorem Remembers.offer (h : registry.Remembers history) (plan : Plan) :
    (registry.offer plan).2.Remembers (history ++ [plan]) := by
  cases known : introducer? history plan.key with
  | some first =>
    rw [h.offer_of_known known]
    have old : plan.key ∈ history.map Plan.key := by
      by_contra new
      rw [introducer?_eq_none_iff.mpr new] at known
      cases known
    refine ⟨fun key => ?_, ?_⟩
    · rw [h.holder, introducer?_concat]
      by_cases own : plan.key = key
      · rw [← own, known, Option.some_or]
      · rw [if_neg own, Option.or_none]
    · rw [h.size, toFinset_keys_concat, Finset.insert_eq_of_mem (List.mem_toFinset.mpr old)]
  | none =>
    obtain ⟨next, step, admitted, size⟩ := h.offer_of_new known
    rw [admitted]
    have new := introducer?_eq_none_iff.mp known
    refine ⟨fun key => ?_, ?_⟩
    · rw [holder?_of_register step, h.holder, introducer?_concat]
      by_cases own : plan.key = key
      · rw [← own, known, if_pos rfl, if_pos rfl, Option.none_or, Option.map_some]
      · rw [if_neg own, if_neg own, Option.or_none]
    · rw [size, h.size, toFinset_keys_concat,
        Finset.card_insert_of_notMem (mt List.mem_toFinset.mp new)]

end Offer

/-! ## Histories -/

theorem offerAll_cons (registry : Registry) (plan : Plan) (plans : List Plan) :
    registry.offerAll (plan :: plans) = (registry.offer plan).2.offerAll plans := rfl

theorem after_append (history later : List Plan) :
    after (history ++ later) = (after history).offerAll later :=
  List.foldl_append

/-- By induction on the history, from the last offer on. -/
theorem remembers_after (history : List Plan) : (after history).Remembers history := by
  induction history using List.reverseRecOn with
  | nil => exact remembers_empty
  | append_singleton history plan ih =>
    rw [after_append]
    exact ih.offer plan

/-- The verdict on a plan that is offered after a history. -/
theorem offer_after (history : List Plan) (plan : Plan) :
    ((after history).offer plan).1 =
      match introducer? history plan.key with
      | some first => .error (collision first plan)
      | none => .ok () := by
  cases known : introducer? history plan.key with
  | some first => rw [(remembers_after history).offer_of_known known]
  | none =>
    obtain ⟨next, -, admitted, -⟩ := (remembers_after history).offer_of_new known
    rw [admitted]

theorem offer_eq_ok_iff {history : List Plan} {plan : Plan} :
    ((after history).offer plan).1 = .ok () ↔ introducer? history plan.key = none := by
  rw [offer_after]
  cases introducer? history plan.key <;> simp

theorem offer_eq_error_iff {history : List Plan} {plan : Plan} {cause : Failure} :
    ((after history).offer plan).1 = .error cause ↔
      ∃ first, introducer? history plan.key = some first ∧ cause = collision first plan := by
  rw [offer_after]
  cases introducer? history plan.key <;> simp [eq_comm]

/-- The plan is among those offered, and was admitted. -/
def Admitted (history : List Plan) (plan : Plan) : Prop :=
  ∃ before rest, history = before ++ plan :: rest ∧ ((after before).offer plan).1 = .ok ()

/-- The plan that has a key first is admitted. -/
theorem admitted_of_introducer? {history : List Plan} {key : Key} {first : Plan}
    (h : introducer? history key = some first) : Admitted history first := by
  obtain ⟨rfl, before, rest, split, new⟩ := introducer?_eq_some_iff.mp h
  refine ⟨before, rest, split, offer_eq_ok_iff.mpr (introducer?_eq_none_iff.mpr fun member => ?_)⟩
  obtain ⟨other, inside, same⟩ := List.mem_map.mp member
  exact new other inside same

/-- A plan is refused when an admitted one has its key. -/
theorem exists_offer_eq_error_iff {history : List Plan} {plan : Plan} :
    (∃ cause, ((after history).offer plan).1 = .error cause) ↔
      ∃ other, Admitted history other ∧ other.key = plan.key := by
  constructor
  · rintro ⟨cause, refused⟩
    obtain ⟨first, known, -⟩ := offer_eq_error_iff.mp refused
    exact ⟨first, admitted_of_introducer? known, (introducer?_eq_some_iff.mp known).1⟩
  · rintro ⟨other, ⟨before, rest, rfl, -⟩, same⟩
    cases known : introducer? (before ++ other :: rest) plan.key with
    | some first => exact ⟨_, offer_eq_error_iff.mpr ⟨first, known, rfl⟩⟩
    | none =>
      have new := introducer?_eq_none_iff.mp known
      exact absurd (List.mem_map.mpr ⟨other, by simp, same⟩) new

theorem offer_snd_of_error {registry : Registry} {plan : Plan} {cause : Failure}
    (h : (registry.offer plan).1 = .error cause) : (registry.offer plan).2 = registry := by
  unfold offer at h ⊢
  split at h
  · cases h
  · rfl

/-- After a refusal everything goes on as if the plan had not been offered. -/
theorem after_of_refused {history : List Plan} {plan : Plan} {cause : Failure}
    (h : ((after history).offer plan).1 = .error cause) (later : List Plan) :
    after (history ++ plan :: later) = after (history ++ later) := by
  rw [after_append, offerAll_cons, offer_snd_of_error h, after_append]

/-! ## Checks -/

/-- Two places of one item. The later one is the first of all places whose item
occurred before, and at the earlier one the item occurred first. -/
structure FirstRepetition {α : Type} (items : List α) (earlier later : Nat) : Prop where
  before : earlier < later
  inside : later < items.length
  same : items[earlier]? = items[later]?
  first : ∀ place < earlier, items[place]? ≠ items[later]?
  least : ∀ place < later, ∀ sooner < place, items[sooner]? ≠ items[place]?

namespace FirstRepetition

variable {α : Type} {items : List α} {earlier later earlier' later' : Nat}

theorem unique (h : FirstRepetition items earlier later)
    (h' : FirstRepetition items earlier' later') : earlier = earlier' ∧ later = later' := by
  have places : later = later' := by
    rcases Nat.lt_trichotomy later later' with less | same | more
    · exact absurd h.same (h'.least later less earlier h.before)
    · exact same
    · exact absurd h'.same (h.least later' more earlier' h'.before)
  subst places
  refine ⟨?_, rfl⟩
  rcases Nat.lt_trichotomy earlier earlier' with less | same | more
  · exact absurd h.same (h'.first earlier less)
  · exact same
  · exact absurd h'.same (h.first earlier' more)

theorem not_nodup (h : FirstRepetition items earlier later) : ¬items.Nodup := fun nodup =>
  List.nodup_iff_getElem?_ne_getElem?.mp nodup earlier later h.before h.inside h.same

/-- The first item behind different ones that is one of them. -/
theorem of_nodup {before : List α} {item : α} (nodup : before.Nodup)
    (known : before[earlier]? = some item) (rest : List α) :
    FirstRepetition (before ++ item :: rest) earlier before.length := by
  obtain ⟨below, -⟩ := List.getElem?_eq_some_iff.mp known
  have inside {place : Nat} (h : place < before.length) :
      (before ++ item :: rest)[place]? = before[place]? := List.getElem?_append_left h
  have last : (before ++ item :: rest)[before.length]? = some item := by simp
  have differ := List.nodup_iff_getElem?_ne_getElem?.mp nodup
  refine ⟨below, by simp, by rw [inside below, last, known], fun place less => ?_,
    fun place less sooner still => ?_⟩
  · rw [last, ← known, inside (less.trans below)]
    exact differ place earlier less below
  · rw [inside less, inside (still.trans less)]
    exact differ sooner place still less

end FirstRepetition

/-- A run of registrations that fails does so at some plan, when all plans before
have been admitted. -/
theorem registerAll_eq_error {registry : Registry} {plans : List Plan} {cause : Failure}
    (h : registry.registerAll plans = .error cause) :
    ∃ before plan rest, plans = before ++ plan :: rest ∧
      registry.registerAll before = .ok (registry.offerAll before) ∧
      ((registry.offerAll before).offer plan).1 = .error cause := by
  induction plans generalizing registry with
  | nil => cases h
  | cons plan plans ih =>
    rw [registerAll, List.foldlM_cons] at h
    cases step : registry.register plan with
    | error own =>
      rw [step] at h
      cases h
      refine ⟨[], plan, plans, rfl, rfl, ?_⟩
      show (registry.offer plan).1 = _
      rw [offer, step]
    | ok next =>
      rw [step] at h
      obtain ⟨before, second, rest, rfl, passed, refused⟩ := ih h
      have offered : registry.offerAll (plan :: before) = next.offerAll before := by
        rw [offerAll_cons, offer, step]
      refine ⟨plan :: before, second, rest, rfl, ?_, by rwa [offered]⟩
      rw [offered, registerAll, List.foldlM_cons, step]
      exact passed

theorem registerAll_of_check_eq_error {plans : List Plan} {cause : Failure}
    (h : check plans = .error cause) : empty.registerAll plans = .error cause := by
  rw [check] at h
  cases run : empty.registerAll plans with
  | error own =>
    rw [run] at h
    cases h
    rfl
  | ok next =>
    rw [run] at h
    cases h

/-- The plans that a check reports. -/
theorem reported_of_check {plans : List Plan} {cause : Failure} (h : check plans = .error cause) :
    ∃ earlier later first second, FirstRepetition (plans.map Plan.key) earlier later ∧
      plans[earlier]? = some first ∧ plans[later]? = some second ∧
      cause = collision first second := by
  obtain ⟨before, second, rest, rfl, passed, refused⟩ :=
    registerAll_eq_error (registerAll_of_check_eq_error h)
  obtain ⟨nodup, -⟩ := (exists_registerAll empty before).mp ⟨_, passed⟩
  obtain ⟨first, known, rfl⟩ := offer_eq_error_iff.mp refused
  obtain ⟨same, left, right, rfl, -⟩ := introducer?_eq_some_iff.mp known
  have place : ((left ++ first :: right).map Plan.key)[left.length]? = some second.key := by
    simp [same]
  refine ⟨left.length, (left ++ first :: right).length, first, second, ?_, ?_, ?_, rfl⟩
  · simpa using FirstRepetition.of_nodup nodup place (rest.map Plan.key)
  · simp
  · simp

/-- A check that fails reports the first plan whose key occurred before, with the
plan where the key occurred first. -/
theorem check_eq_error_iff {plans : List Plan} {cause : Failure} :
    check plans = .error cause ↔ ∃ earlier later first second,
      FirstRepetition (plans.map Plan.key) earlier later ∧
        plans[earlier]? = some first ∧ plans[later]? = some second ∧
        cause = collision first second := by
  refine ⟨reported_of_check, fun ⟨earlier, later, first, second, repetition, here, there, e⟩ => ?_⟩
  cases run : check plans with
  | ok done => exact absurd ((check_eq_ok_iff plans).mp run) repetition.not_nodup
  | error own =>
    obtain ⟨earlier', later', first', second', repetition', here', there', rfl⟩ :=
      reported_of_check run
    obtain ⟨rfl, rfl⟩ := repetition.unique repetition'
    rw [here, Option.some_inj] at here'
    rw [there, Option.some_inj] at there'
    rw [e, here', there']

theorem isOk_check_iff (plans : List Plan) :
    (check plans).isOk = true ↔ (plans.map Plan.key).Nodup := by
  rw [← check_eq_ok_iff]
  cases check plans <;> simp [Except.isOk, Except.toBool]

/-- Whether plans pass the check does not depend on their order. -/
theorem isOk_check_of_perm {plans others : List Plan} (h : plans.Perm others) :
    (check plans).isOk = (check others).isOk := by
  rw [Bool.eq_iff_iff, isOk_check_iff, isOk_check_iff]
  exact (h.map Plan.key).nodup_iff

/-! ## What a history decides -/

/-- What becomes of a plan that is offered after a history. -/
structure Judged (history : List Plan) (plan : Plan) : Prop where
  refused : (∃ cause, ((after history).offer plan).1 = .error cause) ↔
    ∃ other, Admitted history other ∧ other.key = plan.key
  reported : ∀ cause, ((after history).offer plan).1 = .error cause ↔
    ∃ first, introducer? history plan.key = some first ∧ Admitted history first ∧
      cause = collision first plan
  skipped : ∀ cause, ((after history).offer plan).1 = .error cause →
    ∀ later, after (history ++ plan :: later) = after (history ++ later)

theorem judged (history : List Plan) (plan : Plan) : Judged history plan where
  refused := exists_offer_eq_error_iff
  reported cause := by
    rw [offer_eq_error_iff]
    exact exists_congr fun first => ⟨fun ⟨known, e⟩ => ⟨known, admitted_of_introducer? known, e⟩,
      fun ⟨known, _, e⟩ => ⟨known, e⟩⟩
  skipped _ refused := after_of_refused refused

/-- The plans that were offered before decide on a plan, and those that were refused
are as if they had not been offered. A check passes when the keys differ, whatever
the order, and else reports the first plan whose key occurred before. -/
theorem history_decides :
    (∀ history plan, Judged history plan) ∧
    (∀ history : List Plan, (after history).size = (history.map Plan.key).toFinset.card) ∧
    (∀ plans : List Plan, check plans = .ok () ↔ (plans.map Plan.key).Nodup) ∧
    (∀ plans others : List Plan, plans.Perm others → (check plans).isOk = (check others).isOk) ∧
    ∀ (plans : List Plan) (cause : Failure), check plans = .error cause ↔
      ∃ earlier later first second, FirstRepetition (plans.map Plan.key) earlier later ∧
        plans[earlier]? = some first ∧ plans[later]? = some second ∧
        cause = collision first second :=
  ⟨judged, fun history => (remembers_after history).size, check_eq_ok_iff,
    fun _ _ => isOk_check_of_perm, fun _ _ => check_eq_error_iff⟩

/-- Two plans of different partitions that were given one key. -/
theorem history_decides_of_engineered_key :
    let first := Plan.ofPartition ⟨3, 4, by decide, by decide⟩
    let second := { Plan.ofPartition ⟨3, 1, by decide, by decide⟩ with key := first.key }
    ((after [first]).offer second).1 = .error (.collision 3 "100" "001" "EII/1") ∧
      after [first, second] = after [first] ∧
      (check [first, second]).isOk = (check [second, first]).isOk := by
  intro first second
  have texts : collision first second = .collision 3 "100" "001" "EII/1" := by
    have one : first.partition.text = "100" := by decide
    have other : second.partition.text = "001" := by decide
    have key : second.key.text = "EII/1" := by decide
    rw [collision, one, other, key]
    rfl
  have refused : ((after [first]).offer second).1 = .error (.collision 3 "100" "001" "EII/1") :=
    ((history_decides.1 [first] second).reported _).mpr
      ⟨first, rfl, ⟨[], [], rfl, rfl⟩, texts.symm⟩
  exact ⟨refused, (history_decides.1 [first] second).skipped _ refused [],
    history_decides.2.2.2.1 _ _ (List.Perm.swap second first [])⟩

end Registry

end FactoryOverloads
