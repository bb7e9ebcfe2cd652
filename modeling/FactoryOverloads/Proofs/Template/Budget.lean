import FactoryOverloads.Proofs.Emission.Pairing

/-!
# Calls on a budget

An engine may answer a number of calls as the built-in engine does and fail after them,
for reasons of its own (`Engine.Budgeted`). What a rendering costs is a number of calls
(`Costs`): with every budget that is large enough it comes to its value and leaves the
rest of the budget, and with every smaller one it comes to no value, but to what the
engine has failed with.

What can be answered costs a call (`costs_answer`), and costs add up (`costs_bind`), so
that a list costs a call for each of its items (`costs_mapM`, by induction on it).
-/

namespace FactoryOverloads

/-- What an engine is asked. -/
structure Call where
  template : String
  bindings : Bindings
  deriving DecidableEq, Repr

namespace Call

/-- The built-in engine has an answer to the call. -/
def Fillable (call : Call) : Prop :=
  ∃ text, Template.render call.template call.bindings = .ok text

/-- What the built-in engine answers to a call, if it does. -/
def text (call : Call) : String :=
  match Template.render call.template call.bindings with
  | .ok text => text
  | .error _ => ""

theorem Fillable.render_eq {call : Call} (h : call.Fillable) :
    Template.render call.template call.bindings = .ok call.text := by
  obtain ⟨text, filled⟩ := h
  rw [Call.text, filled]

end Call

variable {State α β : Type}

namespace Engine

/-- What comes of a call. -/
def answer (engine : Engine State) (call : Call) : Rendering State String :=
  engine.render call.template call.bindings

theorem answer_placeholder {call : Call} {text : String}
    (h : Template.render call.template call.bindings = .ok text) :
    (Engine.placeholder : Engine State).answer call = pure text :=
  funext fun s => Engine.render_placeholder h s

/-- The engine gives the answers of the built-in engine while there are calls left, and
fails when none is left. -/
structure Budgeted (engine : Engine State) (left : State → Nat) : Prop where
  answers : ∀ (call : Call) (s : State), left s ≠ 0 → ∃ after, left after + 1 = left s ∧
    engine.answer call s = (fun text => (text, after)) <$>
      (Template.render call.template call.bindings).mapError Failure.template
  fails : ∀ (call : Call) (s : State), left s = 0 → ∃ cause, engine.answer call s = .error cause

/-- What the engine fails with when no call is left. -/
def OwnFailure (engine : Engine State) (left : State → Nat) (cause : Failure) : Prop :=
  ∃ call s, left s = 0 ∧ engine.answer call s = .error cause

/-- The built-in engine can be put on a budget. -/
theorem budgeted_limited (reason : TemplateError) :
    ((Engine.placeholder : Engine State).limited reason).Budgeted Prod.fst where
  answers call s some_left := by
    obtain ⟨calls, inner⟩ := s
    obtain ⟨calls, rfl⟩ := Nat.exists_eq_succ_of_ne_zero some_left
    refine ⟨(calls, inner), rfl, ?_⟩
    show Except.bind (StateT.lift ((Template.render _ _).mapError Failure.template) inner) _ = _
    cases Template.render call.template call.bindings <;> rfl
  fails call s none_left := by
    obtain ⟨calls, inner⟩ := s
    obtain rfl : calls = 0 := none_left
    exact ⟨_, rfl⟩

end Engine

/-! ## Costs -/

/-- With the engine, the rendering comes to the value for this many calls, and to no value
for fewer. -/
structure Costs (engine : Engine State) (left : State → Nat) (cost : Nat) (value : α)
    (rendering : Rendering State α) : Prop where
  enough : ∀ s, cost ≤ left s →
    ∃ after, rendering s = .ok (value, after) ∧ left after = left s - cost
  short : ∀ s, left s < cost →
    ∃ cause, rendering s = .error cause ∧ engine.OwnFailure left cause

variable {engine : Engine State} {left : State → Nat}

theorem costs_pure (value : α) :
    Costs engine left 0 value (pure value : Rendering State α) where
  enough s _ := ⟨s, rfl, rfl⟩
  short _ few := absurd few (Nat.not_lt_zero _)

theorem costs_bind {first second : Nat} {a : α} {b : β} {x : Rendering State α}
    {f : α → Rendering State β} (here : Costs engine left first a x)
    (next : Costs engine left second b (f a)) :
    Costs engine left (first + second) b (x >>= f) where
  enough s many := by
    obtain ⟨between, ran, rest⟩ := here.enough s (by omega)
    obtain ⟨after, finished, remains⟩ := next.enough between (by omega)
    refine ⟨after, ?_, by omega⟩
    show Except.bind (x s) (fun result => f result.1 result.2) = _
    rw [ran]
    exact finished
  short s few := by
    show ∃ cause, Except.bind (x s) (fun result => f result.1 result.2) = _ ∧ _
    by_cases begun : first ≤ left s
    · obtain ⟨between, ran, rest⟩ := here.enough s begun
      rw [ran]
      exact next.short between (by omega)
    · obtain ⟨cause, failed, own⟩ := here.short s (by omega)
      rw [failed]
      exact ⟨cause, rfl, own⟩

/-- What is made of a value costs no more. -/
theorem costs_map {cost : Nat} {a : α} {x : Rendering State α}
    (h : Costs engine left cost a x) (g : α → β) :
    Costs engine left cost (g a) (x >>= fun a => pure (g a)) :=
  costs_bind (f := fun a => pure (g a)) h (costs_pure (g a))

theorem costs_mapM {f : α → Rendering State β} {g : α → β} {items : List α}
    (h : ∀ item ∈ items, Costs engine left 1 (g item) (f item)) :
    Costs engine left items.length (items.map g) (items.mapM f) := by
  induction items with
  | nil =>
    rw [List.mapM_nil]
    exact costs_pure []
  | cons item items ih =>
    obtain ⟨head, tail⟩ := List.forall_mem_cons.mp h
    rw [List.mapM_cons, List.length_cons, Nat.add_comm, List.map_cons]
    exact costs_bind head (costs_map (ih tail) (g item :: ·))

theorem costs_answer (h : engine.Budgeted left) {call : Call} {text : String}
    (filled : Template.render call.template call.bindings = .ok text) :
    Costs engine left 1 text (engine.answer call) where
  enough s some_left := by
    obtain ⟨after, spent, answered⟩ := h.answers call s (by omega)
    rw [filled] at answered
    exact ⟨after, answered, by omega⟩
  short s none_left := by
    have exhausted : left s = 0 := by omega
    obtain ⟨cause, failed⟩ := h.fails call s exhausted
    exact ⟨cause, failed, call, s, exhausted, failed⟩

end FactoryOverloads
