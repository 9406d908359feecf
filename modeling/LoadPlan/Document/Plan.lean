import LoadPlan.Document.Model
import LoadPlan.Matrix.Table
import LoadPlan.Plan.Basic
import LoadPlan.Plan.TimestampReading
/-!
# Documents of plans

How plans, matrices and their parts are read from any source.
-/

namespace LoadPlan.Document

variable {σ : Type} [TypedSource σ]

open Source (record?)
open TypedSource (tagged? value?)

/-- The fields of a sampler of some family. -/
def samplerFields? (family : String) (v : Value) : Reading Sampler :=
  match family with
  | "http" => do
    let r ← record? ["method", "protocol", "domain", "port", "path", "arguments"] v
    return .http (← r.required "method" httpMethod?) (← r.required "protocol" text?)
      (← r.required "domain" text?) (← r.optional "port" port?) (← r.required "path" text?)
      (← r.defaulted "arguments" [] (listOf argument?))
  | "java" => do
    let r ← record? ["class_name", "arguments"] v
    return .java (← r.required "class_name" text?) (← r.defaulted "arguments" [] (listOf argument?))
  | "beanshell" => do
    let r ← record? ["script", "parameters"] v
    return .beanShell (← r.required "script" text?) (← r.defaulted "parameters" "" text?)
  | "junit" => do
    let r ← record? ["class_name", "method"] v
    return .junit (← r.required "class_name" text?) (← r.required "method" text?)
  | "soap" => do
    let r ← record? ["url", "soap_action", "envelope"] v
    return .soap (← r.required "url" text?) (← r.defaulted "soap_action" "" text?)
      (← r.required "envelope" text?)
  | "custom" => do
    let r ← record? ["type_name", "properties"] v
    return .custom (← r.required "type_name" text?) (← r.defaulted "properties" .empty properties?)
  | _ => failure

/-- A sampler. Its family is the field `sampler`. -/
def sampler? (x : σ) : Reading Sampler := do
  let (family, v) ← tagged? "sampler" x
  samplerFields? family v

/-- The node of an assertion. -/
def assertionNode? (x : σ) : Reading AssertionNode := do
  let r ← record? ["name", "patterns"] x
  return ⟨← r.required "name" text?, ← r.required "patterns" (listOf text?)⟩

/-- A request node. -/
def requestNode? (x : σ) : Reading RequestNode := do
  let r ← record? ["name", "sampler", "assertion"] x
  return ⟨← r.required "name" text?, ← r.required "sampler" sampler?,
    ← r.optional "assertion" assertionNode?⟩

/-- An entry of a transition table. -/
def transitionEntry? (x : σ) : Reading TransitionEntry := do
  let r ← record? ["target", "target_name", "guard", "action", "enabled"] x
  return ⟨← r.required "target" index?, ← r.required "target_name" text?,
    ← r.required "guard" text?, ← r.required "action" text?, ← r.required "enabled" bool?⟩

/-- A session node. -/
def sessionNode? (x : σ) : Reading SessionNode := do
  let r ← record? ["id", "name", "service", "requests", "transitions"] x
  return ⟨← r.required "id" index?, ← r.required "name" text?, ← r.required "service" text?,
    ← r.required "requests" (listOf requestNode?),
    ← r.required "transitions" (listOf transitionEntry?)⟩

/-- An entry of a behavior mix. -/
def mixEntry? (x : σ) : Reading MixEntry := do
  let r ← record? ["name", "relative_frequency", "filename"] x
  return ⟨← r.required "name" text?, ← r.required "relative_frequency" float?,
    ← r.required "filename" text?⟩

/-- The fields of a warning of some kind. -/
def warningFields? (kind : String) (v : Value) : Reading Warning :=
  match kind with
  | "non_linear_protocol" => do
    let r ← record? ["service", "request", "branches"] v
    return .nonLinearProtocol (← r.required "service" text?) (← r.required "request" text?)
      (← r.required "branches" index?)
  | "duplicate_transition" => do
    let r ← record? ["source", "target"] v
    return .duplicateTransition (← r.required "source" text?) (← r.required "target" text?)
  | _ => failure

/-- A warning. Its kind is the field `warning`. -/
def warning? (x : σ) : Reading Warning := do
  let (kind, v) ← tagged? "warning" x
  warningFields? kind v

/-- A point in time. -/
def timestamp? (x : σ) : Reading Timestamp := do
  let s ← text? x
  (Timestamp.read s : Option Timestamp)

/-- A plan. -/
def plan? (x : σ) : Reading Plan := do
  let r ← record? ["id", "name", "generated_at", "initial", "session_nodes", "behavior_mix",
    "warnings"] x
  return ⟨← r.required "id" text?, ← r.required "name" text?,
    ← r.required "generated_at" timestamp?, ← r.required "initial" index?,
    ← r.required "session_nodes" (listOf sessionNode?),
    ← r.defaulted "behavior_mix" [] (listOf mixEntry?),
    ← r.defaulted "warnings" [] (listOf warning?)⟩

/-- A matrix. -/
def behaviorMatrix? (x : σ) : Reading BehaviorMatrix := do
  let r ← record? ["model", "filename", "rows"] x
  return ⟨← r.required "model" text?, ← r.required "filename" text?,
    ← r.required "rows" (listOf (listOf text?))⟩

end LoadPlan.Document
