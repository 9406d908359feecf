import LoadPlan.Json.Value
import LoadPlan.Model
/-!
# JSON forms of load models

The fields of a form are in the order of the type's. Lists that may be missing are left out when
they are empty, and so is what is absent. `float` says how doubles are written; in documents
that is `Json.float`.
-/

namespace LoadPlan.Json

/-- A list of forms. -/
def array {α : Type} (form : α → Json) (l : List α) : Json := .list (l.map form)

/-- A field that is left out when its list is empty. -/
def listField {α : Type} (name : String) (form : α → Json) : List α → List (String × Json)
  | [] => []
  | l => [(name, array form l)]

/-- A field that is left out when its value is absent. -/
def optionField {α : Type} (name : String) (form : α → Json) : Option α → List (String × Json)
  | none => []
  | some a => [(name, form a)]

/-- A field that is left out when its text is empty. -/
def textField (name s : String) : List (String × Json) := if s = "" then [] else [(name, str s)]

/-- A field that is left out when there are no properties. -/
def propertiesField (p : Properties) : List (String × Json) :=
  if p.entries.isEmpty then []
  else [("properties", record (p.entries.map fun e => (e.1, str e.2)))]

/-- A service. -/
def ofService (s : Service) : Json := record [("id", str s.id), ("name", str s.name)]

/-- A target. -/
def ofTarget : Target → Json
  | .state i => record [("state", nat i)]
  | .exit => str "exit"

/-- An argument of a request. -/
def ofArgument (a : Argument) : Json := record [("name", str a.name), ("value", str a.value)]

/-- What a request is made of. -/
def ofRequestKind : RequestKind → Json
  | .http method protocol domain port path parameters =>
    record ([("type", str "http"), ("method", str method.name), ("protocol", str protocol),
      ("domain", str domain)] ++ optionField "port" nat port ++ [("path", str path)] ++
      listField "parameters" ofArgument parameters)
  | .java className arguments =>
    record ([("type", str "java"), ("class_name", str className)] ++
      listField "arguments" ofArgument arguments)
  | .beanShell script parameters =>
    record ([("type", str "beanshell"), ("script", str script)] ++
      listField "parameters" str parameters)
  | .junit className method =>
    record [("type", str "junit"), ("class_name", str className), ("method", str method)]
  | .soap url action envelope =>
    record ([("type", str "soap"), ("url", str url)] ++ textField "soap_action" action ++
      [("envelope", str envelope)])
  | .extension typeName properties =>
    record ([("type", str "extension"), ("type_name", str typeName)] ++
      propertiesField properties)

/-- A request. -/
def ofRequest (r : Request) : Json := record [("id", str r.id), ("kind", ofRequestKind r.kind)]

/-- The family of a request. -/
def ofRequestTag : RequestTag → Json
  | .http => str "Http"
  | .java => str "Java"
  | .beanShell => str "BeanShell"
  | .junit => str "JUnit"
  | .soap => str "Soap"
  | .extension name => record [("Extension", str name)]

/-- A state of a protocol graph. -/
def ofProtocolState (s : ProtocolState) : Json :=
  record ([("request", ofRequest s.request)] ++
    listField "assertions" (fun p => record [("pattern", str p)]) s.assertions ++
    listField "transitions" (fun t => record [("target", ofTarget t)]) s.transitions)

/-- A protocol graph. -/
def ofProtocolGraph (g : ProtocolGraph) : Json :=
  record ([("states", array ofProtocolState g.states)] ++ optionField "initial" nat g.initial)

/-- A parameter. -/
def ofParameter (p : Parameter) : Json :=
  let kind := match p.kind with
    | .boolean => "boolean"
    | .integer => "integer"
  record ([("name", str p.name), ("kind", str kind)] ++ optionField "source" str p.source ++
    optionField "target" str p.target)

/-- A guard. -/
def ofGuard (g : Guard) : Json :=
  record [("parameter", ofParameter g.parameter), ("negate", .bool g.negate)]

/-- An action. -/
def ofAction (a : Action) : Json := record [("parameter", ofParameter a.parameter)]

/-- A transition of a session graph. -/
def ofSessionTransition (t : SessionTransition) : Json :=
  record ([("source", nat t.source), ("target", ofTarget t.target)] ++
    listField "guards" ofGuard t.guards ++ listField "actions" ofAction t.actions)

/-- A state of a session graph. -/
def ofSessionState (s : SessionState) : Json :=
  record ([("service", str s.service), ("protocol", ofProtocolGraph s.protocol)] ++
    listField "transitions" ofSessionTransition s.transitions)

/-- A session graph. -/
def ofSessionGraph (g : SessionGraph) : Json :=
  record ([("services", array ofService g.services), ("states", array ofSessionState g.states)] ++
    optionField "initial" nat g.initial)

/-- The family of a think time. -/
def ofThinkTimeKind : ThinkTimeKind → Json
  | .normal => str "Normal"
  | .uniform => str "Uniform"
  | .extension name => record [("Extension", str name)]

variable (float : Float → Json)

/-- A think time. -/
def ofThinkTime : ThinkTime → Json
  | .normal mean deviation =>
    record [("type", str "normal"), ("mean", float mean), ("deviation", float deviation)]
  | .uniform least greatest =>
    record [("type", str "uniform"), ("min", float least), ("max", float greatest)]
  | .extension typeName => record [("type", str "extension"), ("type_name", str typeName)]

/-- A transition of a behavior model. -/
def ofMarkovTransition (t : MarkovTransition) : Json :=
  record [("probability", float t.probability), ("target", ofTarget t.target),
    ("think_time", ofThinkTime float t.thinkTime)]

/-- A state of a behavior model. -/
def ofMarkovState (s : MarkovState) : Json :=
  record ([("service", str s.service)] ++
    listField "transitions" (ofMarkovTransition float) s.transitions)

/-- A behavior model. -/
def ofBehaviorModel (m : BehaviorModel) : Json :=
  record ([("name", str m.name), ("filename", str m.filename),
    ("states", array (ofMarkovState float) m.states)] ++ optionField "initial" nat m.initial)

/-- A weighted model. -/
def ofWeightedModel (w : WeightedModel) : Json :=
  record [("relative_frequency", float w.relativeFrequency),
    ("model", ofBehaviorModel float w.model)]

/-- A behavior mix. -/
def ofBehaviorMix (m : BehaviorMix) : Json :=
  record [("models", array (ofWeightedModel float) m.models)]

/-- A load model. -/
def ofLoadModel (m : LoadModel) : Json :=
  record [("name", str m.name), ("session", ofSessionGraph m.session),
    ("behavior_mix", ofBehaviorMix float m.mix)]

end LoadPlan.Json
