import LoadPlan.Proofs.Lowering.Completion
import Mathlib.Data.List.Forall2
/-!
# Complete tables

Completion works on any tables, also on ones that lack entries, hold them in disorder, or hold
disabled, foreign or repeated ones. `SessionNode.Completed` says what it makes of a node:
nothing changes but the table, which gets one entry for each node, in the order of the nodes, an
enabled entry of the old table where there is one. A complete table has one entry for each node to
choose from, so completing it again changes nothing (`fill_fill`). Both hold wherever the ids of
the nodes are distinct: `completeTables_exact`.
-/

namespace LoadPlan

namespace SessionNode

/-- **A node with its table completed** for some nodes. -/
structure Completed (nodes : List SessionNode) (before after : SessionNode) : Prop where
  id : after.id = before.id
  name : after.name = before.name
  service : after.service = before.service
  requests : after.requests = before.requests
  /-- There is one entry for each node, in their order. -/
  entries : List.Forall₂ (fun n e => Completes before.transitions n.id n.name e) nodes
    after.transitions

variable {table : List TransitionEntry} {targets : List (Nat × String)}

/-- An entry speaks of the node that it was put in for. -/
theorem Completes.target_eq {target : Nat} {name : String} {e : TransitionEntry}
    (h : Completes table target name e) : e.target = target := by
  rcases h with ⟨-, hserves⟩ | ⟨-, rfl⟩
  · exact (servesFor_iff.1 hserves).1
  · rfl

/-- A filled table has one entry for each node, in their order. -/
theorem forall₂_fill (hnodup : (targets.map (·.1)).Nodup) (table : List TransitionEntry) :
    List.Forall₂ (fun t e => Completes table t.1 t.2 e) targets (fill table targets) := by
  rw [List.forall₂_iff_get]
  refine ⟨(length_fill table targets).symm, fun k hk hk' => ?_⟩
  obtain ⟨e, he, hcompletes⟩ := getElem?_fill hnodup table (List.getElem?_eq_getElem hk)
  obtain rfl : (fill table targets)[k] = e :=
    Option.some.inj ((List.getElem?_eq_getElem hk').symm.trans he)
  exact hcompletes

/-- The entry for a node is found in its place only. -/
theorem place_of_mem_fill (hnodup : (targets.map (·.1)).Nodup) {e : TransitionEntry}
    (he : e ∈ fill table targets) {p : Nat} {t : Nat × String} (hp : targets[p]? = some t)
    (htarget : e.target = t.1) : (fill table targets)[p]? = some e := by
  obtain ⟨k, hk⟩ := List.mem_iff_getElem?.1 he
  obtain ⟨hklt, -⟩ := List.getElem?_eq_some_iff.1 hk
  rw [length_fill] at hklt
  obtain ⟨u, hu⟩ : ∃ u, targets[k]? = some u := ⟨_, List.getElem?_eq_getElem hklt⟩
  obtain ⟨e', he', hcompletes⟩ := getElem?_fill hnodup table hu
  cases hk.symm.trans he'
  have hsame : (targets.map (·.1))[k]? = (targets.map (·.1))[p]? := by
    rw [List.getElem?_map, List.getElem?_map, hu, hp, Option.map_some, Option.map_some, ← htarget,
      hcompletes.target_eq]
  rw [← (List.getElem?_inj (by simpa using hklt) hnodup).1 hsame, hk]

/-- **A table that is filled stays as it is.** -/
theorem fill_fill (hnodup : (targets.map (·.1)).Nodup) (table : List TransitionEntry) :
    fill (fill table targets) targets = fill table targets := by
  apply List.ext_getElem?
  intro p
  rcases Nat.lt_or_ge p targets.length with hlt | hge
  · have hp := List.getElem?_eq_getElem hlt
    obtain ⟨e, he, hcompletes⟩ := getElem?_fill hnodup table hp
    obtain ⟨e', he', ⟨hmem, hserves⟩ | ⟨hnone, rfl⟩⟩ :=
      getElem?_fill hnodup (fill table targets) hp
    · -- the entry that is taken is the one that stands there
      rw [he', place_of_mem_fill hnodup hmem hp (servesFor_iff.1 hserves).1]
    · -- there is none to take, so a disabled one stands there
      rcases hcompletes with ⟨-, hserves⟩ | ⟨-, rfl⟩
      · exact absurd hserves (hnone e (List.mem_of_getElem? he))
      · rw [he', he]
  · rw [List.getElem?_eq_none (by rwa [length_fill]), List.getElem?_eq_none (by rwa [length_fill])]

end SessionNode

open SessionNode

variable {nodes : List SessionNode}

/-- Completion leaves the nodes their ids and names. -/
theorem map_completeTables (nodes : List SessionNode) :
    (completeTables nodes).map (fun n => (n.id, n.name)) = nodes.map fun n => (n.id, n.name) := by
  rw [completeTables, List.map_map]
  rfl

/-- Every place of a completed table is filled from the old one. -/
theorem exists_completes (hids : (nodes.map (·.id)).Nodup) {i j : Nat}
    {before after n : SessionNode} (hbefore : nodes[i]? = some before)
    (hafter : (completeTables nodes)[i]? = some after) (hn : nodes[j]? = some n) :
    ∃ e, after.transitions[j]? = some e ∧ Completes before.transitions n.id n.name e := by
  rw [completeTables, List.getElem?_map, hbefore, Option.map_some, Option.some.injEq] at hafter
  subst hafter
  exact getElem?_fill (by rwa [List.map_map]) _ (by rw [List.getElem?_map, hn, Option.map_some])

/-- **Completion makes of every node what it is to be**, and completing once more changes nothing,
if the ids of the nodes are distinct. -/
theorem completeTables_exact (hids : (nodes.map (·.id)).Nodup) :
    List.Forall₂ (Completed nodes) nodes (completeTables nodes) ∧
      completeTables (completeTables nodes) = completeTables nodes := by
  have hnodup : ((nodes.map fun n => (n.id, n.name)).map (·.1)).Nodup := by
    rwa [List.map_map]
  constructor
  · rw [completeTables, List.forall₂_map_right_iff, List.forall₂_same]
    intro n _
    exact ⟨rfl, rfl, rfl, rfl, List.forall₂_map_left_iff.1 (forall₂_fill hnodup n.transitions)⟩
  · conv_lhs => rw [completeTables, map_completeTables]
    rw [completeTables, List.map_map]
    refine List.map_congr_left fun n _ => ?_
    rw [Function.comp_apply, fill_fill hnodup]

/-- Three nodes with hand-made tables. The table of the first has two entries for the second, a
disabled one for the last and one for a node that there is not; the last has one for itself. -/
def handmade : List SessionNode :=
  [⟨7, "Home", "home", [], [⟨9, "Gone", "", "", false⟩, ⟨42, "Lost", "", "", true⟩,
      ⟨3, "Cart", "!paid", "items=items+1", true⟩, ⟨3, "Cart", "paid", "", true⟩]⟩,
    ⟨3, "Cart", "cart", [], []⟩,
    ⟨9, "Exit", "exit", [], [⟨7, "Home", "", "", true⟩, ⟨9, "Exit", "", "x=true", true⟩]⟩]

theorem completeTables_exact_handmade :
    (handmade.map (·.id)).Nodup ∧
      (completeTables handmade).map (·.transitions) =
        [[.disabled 7 "Home", ⟨3, "Cart", "!paid", "items=items+1", true⟩, .disabled 9 "Exit"],
          [.disabled 7 "Home", .disabled 3 "Cart", .disabled 9 "Exit"],
          [⟨7, "Home", "", "", true⟩, .disabled 3 "Cart", ⟨9, "Exit", "", "x=true", true⟩]] ∧
      List.Forall₂ (Completed handmade) handmade (completeTables handmade) ∧
      completeTables (completeTables handmade) = completeTables handmade :=
  have hids : (handmade.map (·.id)).Nodup := by decide
  ⟨hids, by decide, completeTables_exact hids⟩

end LoadPlan
