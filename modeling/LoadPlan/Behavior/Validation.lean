import LoadPlan.Behavior.Model
import LoadPlan.Files.Path
/-!
# Defects of behavior models

`BehaviorModel.defects` lists everything that is wrong with a model, in a fixed order: the file
name, the initial state, then state by state the service, each transition's target before its
probability, and the sum of the probabilities. A model is refused for the first of them.
-/

namespace LoadPlan

namespace BehaviorModel

/-- By how much the probabilities of a state may exceed one. -/
def tolerance : Float := 1e-9

/-- Is the number between zero and one? -/
def isProbability (p : Float) : Bool := 0.0 ≤ p && p ≤ 1.0

/-- The sum of the probabilities of a state, from left to right. -/
def total (s : MarkovState) : Float := s.transitions.foldl (fun sum t => sum + t.probability) 0.0

/-- What is wrong with a transition. -/
def transitionDefects (m : BehaviorModel) (t : MarkovTransition) : List ModelError :=
  (match t.target with
    | .state i => if i < m.states.length then [] else [.markovStateNotFound m.name i]
    | .exit => []) ++
  if isProbability t.probability then [] else [.invalidProbability m.name t.probability]

/-- What is wrong with a state of a model over the given services. -/
def stateDefects (m : BehaviorModel) (services : List Service) (s : MarkovState) :
    List ModelError :=
  (if services.any fun service => service.id == s.service then []
    else [.unknownMarkovService m.name s.service]) ++
  s.transitions.flatMap m.transitionDefects ++
  if total s > 1.0 + tolerance then [.probabilityOverflow m.name s.service (total s)] else []

/-- Everything that is wrong with a model over the given services. -/
def defects (m : BehaviorModel) (services : List Service) : List ModelError :=
  (if Path.isContained m.filename then [] else [.invalidMatrixFilename m.name m.filename]) ++
  (match m.initial with
    | none => [.noMarkovInitial m.name]
    | some i => if i < m.states.length then [] else [.markovStateNotFound m.name i]) ++
  m.states.flatMap (m.stateDefects services)

/-- Refuse a model for its first defect. -/
def validate (m : BehaviorModel) (services : List Service) : Except ModelError Unit :=
  match m.defects services with
  | [] => .ok ()
  | e :: _ => .error e

end BehaviorModel

end LoadPlan
