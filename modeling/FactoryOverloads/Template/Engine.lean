import FactoryOverloads.Template

/-!
# Template engines

What fills templates can be exchanged. An engine may fail for reasons of its own and may remember
something between calls, such as how many calls it still answers.
-/

namespace FactoryOverloads

/-- A computation that may fail and that threads what an engine remembers. -/
abbrev Rendering (State : Type) := StateT State (Except Failure)

/-- What fills a template with bound texts; `State` is what it remembers between calls. -/
structure Engine (State : Type) where
  render (template : String) (bindings : Bindings) : Rendering State String

namespace Engine

/-- The engine that fills every template with one function and remembers nothing. -/
def ofFunction {State : Type} (fill : String → Bindings → Except Failure String) :
    Engine State where
  render template bindings := StateT.lift (fill template bindings)

/-- The engine that puts bound texts in place of placeholders. -/
def placeholder {State : Type} : Engine State :=
  ofFunction fun template bindings => (Template.render template bindings).mapError .template

/-- The engine that works like another one for as many calls as the state says, and fails every
later call for the given reason. -/
def limited {State : Type} (engine : Engine State) (reason : TemplateError) :
    Engine (Nat × State) where
  render template bindings
    | (0, _) => .error (.template reason)
    | (calls + 1, state) => do
      let (text, state) ← engine.render template bindings state
      return (text, (calls, state))

end Engine

end FactoryOverloads
