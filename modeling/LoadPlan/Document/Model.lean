import LoadPlan.Document.Source
import LoadPlan.Model
/-!
# Documents of load models

How the parts of a model are read from any source. Optional fields may be left out; lists
default to no items.
-/

namespace LoadPlan.Document

open Source (record?)
open TypedSource (tagged? value?)

section Plain

variable {σ : Type} [Source σ]

/-- A variant that carries nothing. -/
def unitVariant? (names : List String) (x : σ) : Reading String := do
  let (name, payload) ← variant? names x
  match payload with
  | none => return name
  | some p => do
    if Source.isTrivial (← Source.settle p) then return name else failure

/-- What a variant carries. -/
def carried? {α : Type} (read : σ → Reading α) : Option σ → Reading α
  | none => failure
  | some p => do read (← Source.settle p)

/-- A service. -/
def service? (x : σ) : Reading Service := do
  let r ← record? ["id", "name"] x
  return ⟨← r.required "id" text?, ← r.required "name" text?⟩

/-- An argument of a request. -/
def argument? (x : σ) : Reading Argument := do
  let r ← record? ["name", "value"] x
  return ⟨← r.required "name" text?, ← r.required "value" text?⟩

/-- An HTTP method. -/
def httpMethod? (x : σ) : Reading HttpMethod := do
  let name ← unitVariant? (HttpMethod.all.map (·.name)) x
  (HttpMethod.ofName? name : Option HttpMethod)

/-- A port. -/
def port? (x : σ) : Reading Nat := natural? (Nat.pow 2 16) x

/-- Texts under keys. -/
def properties? (x : σ) : Reading Properties := return Properties.ofList (← Source.pairs? x)

/-- The family of a request. -/
def requestTag? (x : σ) : Reading RequestTag := do
  let names := ["Http", "Java", "BeanShell", "JUnit", "Soap", "Extension"]
  match ← variant? names x with
  | ("Extension", payload) => return .extension (← carried? text? payload)
  | _ =>
    match ← unitVariant? names x with
    | "Http" => return .http
    | "Java" => return .java
    | "BeanShell" => return .beanShell
    | "JUnit" => return .junit
    | "Soap" => return .soap
    | _ => failure

/-- A pattern that a response must match. -/
def assertion? (x : σ) : Reading String := do
  let r ← record? ["pattern"] x
  r.required "pattern" text?

/-- What values a parameter has. -/
def parameterKind? (x : σ) : Reading ParameterKind := do
  match ← unitVariant? ["boolean", "integer"] x with
  | "boolean" => return .boolean
  | "integer" => return .integer
  | _ => failure

/-- A parameter. -/
def parameter? (x : σ) : Reading Parameter := do
  let r ← record? ["name", "kind", "source", "target"] x
  return ⟨← r.required "name" text?, ← r.required "kind" parameterKind?,
    ← r.optional "source" text?, ← r.optional "target" text?⟩

/-- A guard. -/
def guard? (x : σ) : Reading Guard := do
  let r ← record? ["parameter", "negate"] x
  return ⟨← r.required "parameter" parameter?, ← r.defaulted "negate" false bool?⟩

/-- An action. -/
def action? (x : σ) : Reading Action := do
  let r ← record? ["parameter"] x
  return ⟨← r.required "parameter" parameter?⟩

/-- The family of a think time. -/
def thinkTimeKind? (x : σ) : Reading ThinkTimeKind := do
  let names := ["Normal", "Uniform", "Extension"]
  match ← variant? names x with
  | ("Extension", payload) => return .extension (← carried? text? payload)
  | _ =>
    match ← unitVariant? names x with
    | "Normal" => return .normal
    | "Uniform" => return .uniform
    | _ => failure

end Plain

variable {σ : Type} [TypedSource σ]

/-- Is the typed value the word `exit`, maybe as a key with nothing under it? -/
def isExit (v : Value) : Bool :=
  match Source.variant? ["exit"] v with
  | some ("exit", none) | some ("exit", some .null) => true
  | _ => false

/-- The index that a typed value has in the field `state`. -/
def stateIndex? : Value → Option Nat
  | .map entries => do
    let r ← Record.ofFields ["state"] (← Value.fields? ["state"] entries)
    Source.natural? wordBound (← r.get? "state")
  | _ => none

/-- The target that a typed value names: a map with the index of a state, or the word `exit`. -/
def targetOfValue? (v : Value) : Option Target :=
  match stateIndex? v with
  | some i => some (.state i)
  | none => if isExit v then some .exit else none

/-- A target. -/
def target? (x : σ) : Reading Target := do
  let v ← value? x
  (targetOfValue? v : Option Target)

/-- The fields of a request of some family. -/
def requestKindFields? (family : String) (v : Value) : Reading RequestKind :=
  match family with
  | "http" => do
    let r ← record? ["method", "protocol", "domain", "port", "path", "parameters"] v
    return .http (← r.required "method" httpMethod?)
      (← r.defaulted "protocol" Request.defaultProtocol text?) (← r.required "domain" text?)
      (← r.optional "port" port?) (← r.required "path" text?)
      (← r.defaulted "parameters" [] (listOf argument?))
  | "java" => do
    let r ← record? ["class_name", "arguments"] v
    return .java (← r.required "class_name" text?) (← r.defaulted "arguments" [] (listOf argument?))
  | "beanshell" => do
    let r ← record? ["script", "parameters"] v
    return .beanShell (← r.required "script" text?) (← r.defaulted "parameters" [] (listOf text?))
  | "junit" => do
    let r ← record? ["class_name", "method"] v
    return .junit (← r.required "class_name" text?) (← r.required "method" text?)
  | "soap" => do
    let r ← record? ["url", "soap_action", "envelope"] v
    return .soap (← r.required "url" text?) (← r.defaulted "soap_action" "" text?)
      (← r.required "envelope" text?)
  | "extension" => do
    let r ← record? ["type_name", "properties"] v
    return .extension (← r.required "type_name" text?)
      (← r.defaulted "properties" .empty properties?)
  | _ => failure

/-- What a request is made of. Its family is the field `type`. -/
def requestKind? (x : σ) : Reading RequestKind := do
  let (family, v) ← tagged? "type" x
  requestKindFields? family v

/-- A request. -/
def request? (x : σ) : Reading Request := do
  let r ← record? ["id", "kind"] x
  return ⟨← r.required "id" text?, ← r.required "kind" requestKind?⟩

/-- A transition of a protocol graph. -/
def protocolTransition? (x : σ) : Reading Target := do
  let r ← record? ["target"] x
  r.required "target" target?

/-- A state of a protocol graph. -/
def protocolState? (x : σ) : Reading ProtocolState := do
  let r ← record? ["request", "assertions", "transitions"] x
  return ⟨← r.required "request" request?, ← r.defaulted "assertions" [] (listOf assertion?),
    ← r.defaulted "transitions" [] (listOf protocolTransition?)⟩

/-- A protocol graph. -/
def protocolGraph? (x : σ) : Reading ProtocolGraph := do
  let r ← record? ["states", "initial"] x
  return ⟨← r.defaulted "states" [] (listOf protocolState?), ← r.optional "initial" index?⟩

/-- A transition of a session graph. -/
def sessionTransition? (x : σ) : Reading SessionTransition := do
  let r ← record? ["source", "target", "guards", "actions"] x
  return ⟨← r.required "source" index?, ← r.required "target" target?,
    ← r.defaulted "guards" [] (listOf guard?), ← r.defaulted "actions" [] (listOf action?)⟩

/-- A state of a session graph. -/
def sessionState? (x : σ) : Reading SessionState := do
  let r ← record? ["service", "protocol", "transitions"] x
  return ⟨← r.required "service" text?, ← r.defaulted "protocol" .empty protocolGraph?,
    ← r.defaulted "transitions" [] (listOf sessionTransition?)⟩

/-- A session graph. -/
def sessionGraph? (x : σ) : Reading SessionGraph := do
  let r ← record? ["services", "states", "initial"] x
  return ⟨← r.required "services" (listOf service?), ← r.defaulted "states" [] (listOf sessionState?),
    ← r.optional "initial" index?⟩

/-- The parameters of a distribution of some family. -/
def thinkTimeFields? (family : String) (v : Value) : Reading ThinkTime :=
  match family with
  | "normal" => do
    let r ← record? ["mean", "deviation"] v
    return .normal (← r.required "mean" float?) (← r.required "deviation" float?)
  | "uniform" => do
    let r ← record? ["min", "max"] v
    return .uniform (← r.required "min" float?) (← r.required "max" float?)
  | "extension" => do
    let r ← record? ["type_name"] v
    return .extension (← r.required "type_name" text?)
  | _ => failure

/-- A think time. Its family is the field `type`. -/
def thinkTime? (x : σ) : Reading ThinkTime := do
  let (family, v) ← tagged? "type" x
  thinkTimeFields? family v

/-- A transition of a behavior model. -/
def markovTransition? (x : σ) : Reading MarkovTransition := do
  let r ← record? ["probability", "target", "think_time"] x
  return ⟨← r.required "probability" float?, ← r.required "target" target?,
    ← r.required "think_time" thinkTime?⟩

/-- A state of a behavior model. -/
def markovState? (x : σ) : Reading MarkovState := do
  let r ← record? ["service", "transitions"] x
  return ⟨← r.required "service" text?, ← r.defaulted "transitions" [] (listOf markovTransition?)⟩

/-- A behavior model. -/
def behaviorModel? (x : σ) : Reading BehaviorModel := do
  let r ← record? ["name", "filename", "states", "initial"] x
  return ⟨← r.required "name" text?, ← r.required "filename" text?,
    ← r.defaulted "states" [] (listOf markovState?), ← r.optional "initial" index?⟩

/-- A weighted model. -/
def weightedModel? (x : σ) : Reading WeightedModel := do
  let r ← record? ["relative_frequency", "model"] x
  return ⟨← r.required "relative_frequency" float?, ← r.required "model" behaviorModel?⟩

/-- A behavior mix. -/
def behaviorMix? (x : σ) : Reading BehaviorMix := do
  let r ← record? ["models"] x
  return ⟨← r.defaulted "models" [] (listOf weightedModel?)⟩

/-- A load model. -/
def loadModel? (x : σ) : Reading LoadModel := do
  let r ← record? ["name", "session", "behavior_mix"] x
  return ⟨← r.required "name" text?, ← r.required "session" sessionGraph?,
    ← r.defaulted "behavior_mix" .empty behaviorMix?⟩

end LoadPlan.Document
