import LoadPlan.CompileError
import LoadPlan.Plan.Basic
import LoadPlan.Registry
import LoadPlan.Text.Escape
/-!
# Transformers of requests

A transformer turns the requests of one family into samplers. A request whose family has no
transformer cannot be lowered.
-/

namespace LoadPlan

/-- How the requests of one family become samplers. -/
structure Transformer where
  kind : RequestTag
  transform : Request → Except CompileError Sampler

namespace Transformer

/-- The sampler of a request of a built-in family. -/
def plainSampler (r : Request) : Except CompileError Sampler :=
  match r.kind with
  | .http method protocol domain port path parameters =>
    .ok (.http method protocol domain port path parameters)
  | .java className arguments => .ok (.java className arguments)
  | .beanShell script parameters => .ok (.beanShell script (" ".intercalate parameters))
  | .junit className method => .ok (.junit className method)
  | .soap url action envelope =>
    if url = "" then .error (.invalidRequest r.id "SOAP request without endpoint URL")
    else .ok (.soap url action envelope)
  | .extension .. => .error (.unknownRequestType r.id r.kind.tag)

/-- The transformer of a built-in family. It refuses requests of any other. -/
def builtIn (kind : RequestTag) : Transformer where
  kind := kind
  transform r :=
    if r.kind.tag = kind then plainSampler r else .error (.unknownRequestType r.id r.kind.tag)

/-- Every request becomes a custom sampler with the properties it has. -/
def custom (kind : RequestTag) (typeName : String) : Transformer where
  kind := kind
  transform r := .ok (.custom typeName (match r.kind with
    | .extension _ properties => properties
    | _ => .empty))

/-- Every request is invalid for the same reason. -/
def failing (kind : RequestTag) (reason : String) : Transformer where
  kind := kind
  transform r := .error (.invalidRequest r.id reason)

end Transformer

/-- Transformers by family. -/
abbrev Transformers := Registry RequestTag Transformer

namespace Transformers

/-- Register a transformer under its own family. -/
def register (ts : Transformers) (t : Transformer) : Transformers := ts.insert t.kind t

/-- Register the transformers of all built-in families. -/
def registerBuiltIn (ts : Transformers) : Transformers :=
  RequestTag.builtIn.foldl (fun ts kind => register ts (.builtIn kind)) ts

/-- The transformers of all built-in families. -/
def builtIn : Transformers := registerBuiltIn Registry.empty

/-- A family in a description. -/
def kindText : RequestTag → String
  | .http => "Http"
  | .java => "Java"
  | .beanShell => "BeanShell"
  | .junit => "JUnit"
  | .soap => "Soap"
  | .extension name => "Extension(" ++ Text.quote name ++ ")"

/-- The registered families, in their order. -/
def describe (ts : Transformers) : String :=
  ts.description "RequestTransformers" RequestTag.le kindText

/-- The sampler of a request, by the transformer of its family. -/
def transform (ts : Transformers) (r : Request) : Except CompileError Sampler :=
  match ts.get? r.kind.tag with
  | none => .error (.unknownRequestType r.id r.kind.tag)
  | some t => t.transform r

end Transformers

end LoadPlan
