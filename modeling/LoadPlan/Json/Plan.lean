import LoadPlan.Config
import LoadPlan.Json.Model
import LoadPlan.Plan.Basic
/-!
# JSON forms of plans and configurations

The fields of a form are in the order of the type's. `float` says how doubles are written; in
documents that is `Json.float`.
-/

namespace LoadPlan.Json

/-- A sampler. -/
def ofSampler : Sampler → Json
  | .http method protocol domain port path arguments =>
    record ([("sampler", str "http"), ("method", str method.name), ("protocol", str protocol),
      ("domain", str domain)] ++ optionField "port" nat port ++ [("path", str path)] ++
      listField "arguments" ofArgument arguments)
  | .java className arguments =>
    record ([("sampler", str "java"), ("class_name", str className)] ++
      listField "arguments" ofArgument arguments)
  | .beanShell script parameters =>
    record ([("sampler", str "beanshell"), ("script", str script)] ++
      textField "parameters" parameters)
  | .junit className method =>
    record [("sampler", str "junit"), ("class_name", str className), ("method", str method)]
  | .soap url action envelope =>
    record ([("sampler", str "soap"), ("url", str url)] ++ textField "soap_action" action ++
      [("envelope", str envelope)])
  | .custom typeName properties =>
    record ([("sampler", str "custom"), ("type_name", str typeName)] ++
      propertiesField properties)

/-- The node of an assertion. -/
def ofAssertionNode (a : AssertionNode) : Json :=
  record [("name", str a.name), ("patterns", array str a.patterns)]

/-- A request node. -/
def ofRequestNode (r : RequestNode) : Json :=
  record ([("name", str r.name), ("sampler", ofSampler r.sampler)] ++
    optionField "assertion" ofAssertionNode r.assertion)

/-- An entry of a transition table. -/
def ofTransitionEntry (e : TransitionEntry) : Json :=
  record [("target", nat e.target), ("target_name", str e.targetName), ("guard", str e.guard),
    ("action", str e.action), ("enabled", .bool e.enabled)]

/-- A session node. -/
def ofSessionNode (n : SessionNode) : Json :=
  record [("id", nat n.id), ("name", str n.name), ("service", str n.service),
    ("requests", array ofRequestNode n.requests),
    ("transitions", array ofTransitionEntry n.transitions)]

/-- A warning. -/
def ofWarning : Warning → Json
  | .nonLinearProtocol service request branches =>
    record [("warning", str "non_linear_protocol"), ("service", str service),
      ("request", str request), ("branches", nat branches)]
  | .duplicateTransition source target =>
    record [("warning", str "duplicate_transition"), ("source", str source),
      ("target", str target)]

/-- A matrix. -/
def ofBehaviorMatrix (m : BehaviorMatrix) : Json :=
  record [("model", str m.model), ("filename", str m.filename),
    ("rows", array (array str) m.rows)]

/-- The layout of matrices. -/
def ofMatrixConfig (c : MatrixConfig) : Json :=
  record [("delimiter", str c.delimiter.toString), ("exit_marker", str c.exitMarker),
    ("initial_marker", str c.initialMarker)]

/-- The whole configuration. -/
def ofConfig (c : Config) : Json :=
  let negation := match c.plan.guardNegation with
    | .prefixUnnegated => "prefix_unnegated"
    | .prefixNegated => "prefix_negated"
  record [("output_dir", str c.outputDir), ("plan", record [("guard_negation", str negation)]),
    ("matrix", ofMatrixConfig c.matrix),
    ("logging", record [("level", str c.logging.level), ("json", .bool c.logging.json),
      ("timestamps", .bool c.logging.timestamps)])]

variable (float : Float → Json)

/-- An entry of a behavior mix. -/
def ofMixEntry (e : MixEntry) : Json :=
  record [("name", str e.name), ("relative_frequency", float e.relativeFrequency),
    ("filename", str e.filename)]

/-- A plan. -/
def ofPlan (p : Plan) : Json :=
  record ([("id", str p.id), ("name", str p.name), ("generated_at", str p.generatedAt.write),
    ("initial", nat p.initial), ("session_nodes", array ofSessionNode p.nodes),
    ("behavior_mix", array (ofMixEntry float) p.mix)] ++
    listField "warnings" ofWarning p.warnings)

end LoadPlan.Json
