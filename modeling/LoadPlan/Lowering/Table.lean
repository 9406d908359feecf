import LoadPlan.Plan.Basic
/-!
# Complete transition tables

Every node of a plan gets one entry for every node, in the order of the nodes: an enabled entry
that its table has, else a disabled one.
-/

namespace LoadPlan

/-- The list without the element at an index, whose place the last element takes. -/
def swapRemove {α : Type} (l : List α) (i : Nat) : List α :=
  match l.getLast? with
  | none => []
  | some last => (l.set i last).dropLast

namespace SessionNode

/-- Is the entry an enabled one for the node `target`? -/
def servesFor (target : Nat) (e : TransitionEntry) : Bool := e.target == target && e.enabled

/-- The entries for the given nodes. An entry that is used is taken out of the table. -/
def fill : List TransitionEntry → List (Nat × String) → List TransitionEntry
  -- what no node has taken is dropped
  | _, [] => []
  | table, (target, name) :: rest =>
    match table.findIdx? (servesFor target) with
    | some i => (table[i]?.getD (.disabled target name)) :: fill (swapRemove table i) rest
    | none => .disabled target name :: fill table rest

end SessionNode

/-- Complete the tables of all nodes. -/
def completeTables (nodes : List SessionNode) : List SessionNode :=
  let targets := nodes.map fun n => (n.id, n.name)
  nodes.map fun n => { n with transitions := SessionNode.fill n.transitions targets }

end LoadPlan
