import LoadPlan.Decimal.Style
/-!
# Defects of a load model

Every way in which a model, or a document of one, can be wrong. `ModelError.message` is the
wording.
-/

namespace LoadPlan

/-- Why a load model is refused. States are given by their index. -/
inductive ModelError where
  | noServices
  | duplicateService (service : String)
  | serviceNotFound (service : String)
  | noInitialState
  | sessionStateNotFound (state : Nat)
  /-- A transition stored on one state claims another one as its source. -/
  | sourceMismatch (owner source : Nat)
  /-- The protocol graph of a session state has states, but no initial one. -/
  | noProtocolInitial (session : Nat)
  /-- The protocol graph of a session state refers to a state it does not have. -/
  | protocolStateNotFound (session state : Nat)
  /-- A protocol graph by itself refers to a state it does not have. -/
  | unknownProtocolState (state : Nat)
  | noMarkovInitial (model : String)
  | markovStateNotFound (model : String) (state : Nat)
  | unknownMarkovService (model service : String)
  | invalidProbability (model : String) (probability : Float)
  | probabilityOverflow (model service : String) (sum : Float)
  | invalidMatrixFilename (model filename : String)
  /-- No document format goes with this file extension. -/
  | unsupportedFormat (extension : String)
  /-- The text is no JSON document of a model. -/
  | badJson
  /-- The text is no YAML document of a model. -/
  | badYaml
  /-- The file is missing, no file, or no text. -/
  | unreadable

/-- A session state by its index. -/
def sessionLabel (state : Nat) : String := "session:" ++ toString state

/-- A protocol state by its index. -/
def protocolLabel (state : Nat) : String := "protocol:" ++ toString state

/-- A Markov state by its index. -/
def markovLabel (state : Nat) : String := "markov:" ++ toString state

namespace ModelError

/-- The wording of a defect. -/
def message : ModelError → String
  | noServices => "Model declares no services"
  | duplicateService s => "Duplicate service ID: " ++ s
  | serviceNotFound s => "Service not found: " ++ s
  | noInitialState => "Session graph has no initial state"
  | sessionStateNotFound n => "Session state not found: " ++ sessionLabel n
  | sourceMismatch owner source =>
    "Transition stored on " ++ sessionLabel owner ++ " claims source " ++ sessionLabel source
  | noProtocolInitial session =>
    "Protocol graph of " ++ sessionLabel session ++ " has no initial state"
  | protocolStateNotFound session state =>
    "Protocol state " ++ protocolLabel state ++ " not found in protocol graph of " ++
      sessionLabel session
  | unknownProtocolState n => "Protocol state not found: " ++ protocolLabel n
  | noMarkovInitial model => "Behavior model '" ++ model ++ "' has no initial state"
  | markovStateNotFound model n =>
    "Markov state " ++ markovLabel n ++ " not found in behavior model '" ++ model ++ "'"
  | unknownMarkovService model service =>
    "Behavior model '" ++ model ++ "' references unknown service " ++ service
  | invalidProbability model p =>
    "Invalid probability " ++ Decimal.plain.write p ++ " in behavior model '" ++ model ++ "'"
  | probabilityOverflow model service sum =>
    "Outgoing probabilities of " ++ service ++ " in behavior model '" ++ model ++ "' sum to " ++
      Decimal.plain.write sum
  | invalidMatrixFilename model filename =>
    "Matrix file '" ++ filename ++ "' of behavior model '" ++ model ++
      "' must be a relative path inside the output directory"
  | unsupportedFormat extension => "Unsupported model document format: " ++ extension
  | badJson => "JSON error"
  | badYaml => "YAML error"
  | unreadable => "I/O error"

end ModelError

end LoadPlan
