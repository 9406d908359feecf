import LoadPlan.Behavior.ThinkTime
import LoadPlan.ModelError
import LoadPlan.Service
import LoadPlan.Target
/-!
# Behavior models

One class of synthetic users as a Markov chain over services. A transition carries a
probability and the think time spent before it is taken. A `BehaviorMix` weights several models
against each other.
-/

namespace LoadPlan

/-- A transition, its probability and the waiting time before it. -/
structure MarkovTransition where
  probability : Float
  target : Target
  thinkTime : ThinkTime

/-- A state of a chain: a service, and how it is left. -/
structure MarkovState where
  /-- Id of the service. -/
  service : String
  transitions : List MarkovTransition

/-- A named Markov chain over services. -/
structure BehaviorModel where
  name : String
  /-- File that the matrix of the model is written to. -/
  filename : String
  states : List MarkovState
  initial : Option Nat

namespace BehaviorModel

/-- A model without states. -/
def new (name filename : String) : BehaviorModel := ⟨name, filename, [], none⟩

variable (m : BehaviorModel)

/-- The state with an index. -/
def state? (i : Nat) : Option MarkovState := m.states[i]?

/-- The state the chain starts in. -/
def initialState? : Option MarkovState := m.initial.bind m.state?

/-- The first state of a service. -/
def stateForService? (service : String) : Option MarkovState :=
  m.states.find? fun s => s.service == service

/-- The service a target stands for; none for an exit. -/
def targetService? : Target → Option String
  | .state i => (m.state? i).map (·.service)
  | .exit => none

/-- Add a state, and the index it has. The first state becomes the initial one. -/
def addState (service : String) : BehaviorModel × Nat :=
  ({ m with
    states := m.states ++ [⟨service, []⟩]
    initial := some (m.initial.getD m.states.length) }, m.states.length)

/-- Add a transition whatever its target, if there is a state to add it to. -/
def pushTransition (source : Nat) (t : MarkovTransition) : BehaviorModel :=
  { m with states := m.states.modify source fun s =>
      { s with transitions := s.transitions ++ [t] } }

/-- Add a transition between states of the chain. A missing target is reported before a missing
source. -/
def addTransition (source : Nat) (t : MarkovTransition) : Except ModelError BehaviorModel :=
  match t.target with
  | .state i =>
    if i < m.states.length then
      if source < m.states.length then .ok (m.pushTransition source t)
      else .error (.markovStateNotFound m.name source)
    else .error (.markovStateNotFound m.name i)
  | .exit =>
    if source < m.states.length then .ok (m.pushTransition source t)
    else .error (.markovStateNotFound m.name source)

end BehaviorModel

/-- A model and its weight. Weights need not sum to one. -/
structure WeightedModel where
  relativeFrequency : Float
  model : BehaviorModel

/-- Weighted models, in order. -/
structure BehaviorMix where
  models : List WeightedModel

namespace BehaviorMix

/-- No models. -/
def empty : BehaviorMix := ⟨[]⟩

instance : Inhabited BehaviorMix := ⟨empty⟩

/-- Add a model at the end. -/
def add (mix : BehaviorMix) (relativeFrequency : Float) (model : BehaviorModel) : BehaviorMix :=
  ⟨mix.models ++ [⟨relativeFrequency, model⟩]⟩

end BehaviorMix

end LoadPlan
