import LoadPlan.Mix.Report
import LoadPlan.Plan.Timestamp
import LoadPlan.Plan.Warning
import LoadPlan.Request
/-!
# Execution plans

A plan is flat: one node per session state that can be reached, each with the requests to issue
and a table with one entry for every node of the plan. Nodes are given by their index.
-/

namespace LoadPlan

/-- A request as the load generator issues it. -/
inductive Sampler where
  | http (method : HttpMethod) (protocol domain : String) (port : Option Nat) (path : String)
      (arguments : List Argument)
  | java (className : String) (arguments : List Argument)
  | beanShell (script parameters : String)
  | junit (className method : String)
  | soap (url action envelope : String)
  | custom (typeName : String) (properties : Properties)

/-- The patterns a response must match. -/
structure AssertionNode where
  name : String
  patterns : List String
deriving DecidableEq

/-- One request of a session node. -/
structure RequestNode where
  name : String
  sampler : Sampler
  assertion : Option AssertionNode

/-- One line of a transition table. -/
structure TransitionEntry where
  /-- Id of the node that the entry speaks of. -/
  target : Nat
  targetName : String
  guard : String
  action : String
  enabled : Bool
deriving DecidableEq

/-- The entry of a node that cannot be entered. -/
def TransitionEntry.disabled (target : Nat) (name : String) : TransitionEntry :=
  ⟨target, name, "", "", false⟩

/-- A node: where the user is, what is requested there, where to go. -/
structure SessionNode where
  id : Nat
  /-- Name of the service. -/
  name : String
  /-- Id of the service. -/
  service : String
  requests : List RequestNode
  transitions : List TransitionEntry

namespace SessionNode

/-- The first entry for a node. -/
def transitionTo? (n : SessionNode) (target : Nat) : Option TransitionEntry :=
  n.transitions.find? fun t => t.target == target

/-- The entries that can be taken. -/
def enabled (n : SessionNode) : List TransitionEntry := n.transitions.filter (·.enabled)

end SessionNode

/-- A plan. -/
structure Plan where
  id : String
  name : String
  generatedAt : Timestamp
  /-- Index of the node that a session starts in. -/
  initial : Nat
  nodes : List SessionNode
  mix : List MixEntry
  warnings : List Warning

/-- A node of a plan, of either level. -/
inductive PlanItem where
  | session (n : SessionNode)
  | request (r : RequestNode)

namespace PlanItem

/-- The name of the node. -/
def name : PlanItem → String
  | session n => n.name
  | request r => r.name

/-- Is it a session node? -/
def isSession : PlanItem → Bool
  | session _ => true
  | request _ => false

end PlanItem

namespace Plan

variable (p : Plan)

/-- The plan's id in messages. -/
def label : String := "plan:" ++ p.id

/-- The node with an index. -/
def node? (i : Nat) : Option SessionNode := p.nodes[i]?

/-- The first node with a name. -/
def nodeByName? (name : String) : Option SessionNode := p.nodes.find? fun n => n.name == name

/-- The node that a session starts in. -/
def initialNode? : Option SessionNode := p.node? p.initial

/-- How many requests the nodes have. -/
def requestCount : Nat := (p.nodes.map fun n => n.requests.length).foldr (· + ·) 0

/-- Every node, each before its requests. -/
def walk : List PlanItem := p.nodes.flatMap fun n => .session n :: n.requests.map .request

end Plan

/-- A session node by its id. -/
def nodeLabel (id : Nat) : String := "node:" ++ toString id

end LoadPlan
