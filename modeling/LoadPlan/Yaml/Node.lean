import LoadPlan.Yaml.Token
/-!
# YAML nodes

The tree of a document. An alias refers to a node by the number of its anchor; what it stands for
is looked up when it is read, so a node may refer to one that it lies in.

Anchors are numbered by how many names there were before. A name that is used again gets a number
that the next new name gets too; such a number stands for the last node that has it.
-/

namespace LoadPlan.Yaml

/-- What stands before the content of a node. -/
structure Properties where
  tag : Option Tag
  /-- The number of the anchor. -/
  anchor : Option Nat
deriving DecidableEq, Repr

/-- Neither tag nor anchor. -/
def Properties.none : Properties := ⟨.none, .none⟩

/-- A node of the tree. -/
inductive Node where
  /-- What a text without any document holds. -/
  | void
  | scalar (properties : Properties) (style : Style) (text : String)
  | list (properties : Properties) (items : List Node)
  | map (properties : Properties) (entries : List (Node × Node))
  | alias (anchor : Nat)

namespace Node

/-- A plain scalar without text. -/
def empty (p : Properties) : Node := .scalar p .plain ""

/-- The node under the number of its anchor, if it has one. -/
def anchored (p : Properties) (n : Node) : List (Nat × Node) :=
  match p.anchor with
  | some i => [(i, n)]
  | none => []

mutual

/-- The nodes with anchors, a node before those inside it. -/
def anchors : Node → List (Nat × Node)
  | .void => []
  | .scalar p s t => anchored p (.scalar p s t)
  | .list p items => anchored p (.list p items) ++ itemAnchors items
  | .map p entries => anchored p (.map p entries) ++ entryAnchors entries
  | .alias _ => []

/-- The nodes with anchors inside items. -/
def itemAnchors : List Node → List (Nat × Node)
  | [] => []
  | n :: rest => anchors n ++ itemAnchors rest

/-- The nodes with anchors inside entries. -/
def entryAnchors : List (Node × Node) → List (Nat × Node)
  | [] => []
  | (k, v) :: rest => anchors k ++ anchors v ++ entryAnchors rest

end

mutual

/-- How many parts the node has; lists and maps have a start and an end. -/
def size : Node → Nat
  | .void | .scalar .. | .alias _ => 1
  | .list _ items => 2 + itemsSize items
  | .map _ entries => 2 + entriesSize entries

/-- How many parts the items have. -/
def itemsSize : List Node → Nat
  | [] => 0
  | n :: rest => size n + itemsSize rest

/-- How many parts the entries have. -/
def entriesSize : List (Node × Node) → Nat
  | [] => 0
  | (k, v) :: rest => size k + size v + entriesSize rest

end

end Node

end LoadPlan.Yaml
