import LoadPlan.Proofs.First
import LoadPlan.Proofs.Lowering.Tables
/-!
# Which of several entries is kept

A table may have several enabled entries for one node; a lookup finds the first of them, and
completion keeps one. It keeps the first one of those that the nodes before have left
(`getElem?_fill_eq`). But the place of an entry that is taken goes to the last entry of the table,
which may be another one for the node and come to stand before the first. So completion may keep an
entry that no lookup has found before (`not_keepsFirst_rushed`). When it does not is said by
`keepsFirst_iff`; in particular the first entry is kept where there is no other, and where none is
taken from in front of it.
-/

namespace LoadPlan

/-- An element is removed without a change in front of it. -/
theorem getElem?_swapRemove_of_lt {α : Type} {l : List α} {i k : ℕ} (hki : k < i)
    (hi : i < l.length) : (swapRemove l i)[k]? = l[k]? := by
  have hne : l ≠ [] := List.ne_nil_of_length_pos (by omega)
  rw [swapRemove, List.getLast?_eq_some_getLast hne]
  dsimp only
  rw [List.getElem?_dropLast, List.length_set, if_pos (by omega),
    List.getElem?_set_ne (by omega)]

namespace SessionNode

/-- **The table that nodes leave** when each has taken the first enabled entry for it. -/
def leftover : List TransitionEntry → List ℕ → List TransitionEntry
  | table, [] => table
  | table, target :: rest =>
    match table.findIdx? (servesFor target) with
    | some i => leftover (swapRemove table i) rest
    | none => leftover table rest

/-- **Nothing comes before the first entry** for a node in a table that the given nodes take from:
there is no other one, or they take nothing from in front of it. -/
def Undisturbed (table : List TransitionEntry) (before : List ℕ) (target : ℕ) : Prop :=
  ∀ k first, FirstAt (fun e => servesFor target e) table k first →
    (∀ e ∈ table, servesFor target e → e = first) ∨
      ∀ i < k, ∀ e, table[i]? = some e → ∀ taker ∈ before, ¬ servesFor taker e

variable {table : List TransitionEntry} {before : List ℕ} {target : ℕ}

theorem find?_servesFor_eq_some_iff {e : TransitionEntry} :
    table.find? (servesFor target) = some e ↔
      ∃ k, FirstAt (fun e => servesFor target e) table k e := by
  rw [← find?_eq_some_iff_firstAt]
  simp only [Bool.decide_eq_true]

/-- A node takes an entry that serves it, or leaves the table as it is. -/
theorem leftover_cons (table : List TransitionEntry) (taker : ℕ) (rest : List ℕ) :
    (∃ i e, table[i]? = some e ∧ servesFor taker e ∧
        leftover table (taker :: rest) = leftover (swapRemove table i) rest) ∨
      leftover table (taker :: rest) = leftover table rest := by
  rcases findIdx?_servesFor_cases table taker with ⟨i, e, hget, hserves, hfind⟩ | ⟨-, hfind⟩
  · exact .inl ⟨i, e, hget, hserves, by simp only [leftover, hfind]⟩
  · exact .inr (by simp only [leftover, hfind])

/-- What is left was there before. -/
theorem mem_of_mem_leftover {e : TransitionEntry} (he : e ∈ leftover table before) :
    e ∈ table := by
  induction before generalizing table with
  | nil => exact he
  | cons taker rest ih =>
    rcases leftover_cons table taker rest with ⟨i, e', hget, -, h⟩ | h
    · rw [h] at he
      exact (cons_swapRemove_perm hget).subset (List.mem_cons_of_mem _ (ih he))
    · rw [h] at he
      exact ih he

/-- **A node gets the first entry that the nodes before it have left**, and a disabled one if they
have left none. -/
theorem getElem?_fill_eq (table : List TransitionEntry) {targets : List (ℕ × String)} {p : ℕ}
    {name : String} (hp : targets[p]? = some (target, name)) :
    (fill table targets)[p]? =
      some (((leftover table ((targets.take p).map (·.1))).find? (servesFor target)).getD
        (.disabled target name)) := by
  induction targets generalizing table p with
  | nil => simp at hp
  | cons t rest ih =>
    cases p with
    | zero =>
      obtain rfl : t = (target, name) := Option.some.inj hp
      rw [List.take_zero, List.map_nil, leftover, List.find?_eq_bind_findIdx?_getElem?]
      cases hfind : table.findIdx? (servesFor target) with
      | none => simp only [fill, hfind, List.getElem?_cons_zero, Option.bind_none, Option.getD_none]
      | some i => simp only [fill, hfind, List.getElem?_cons_zero, Option.bind_some]
    | succ p =>
      rw [List.getElem?_cons_succ] at hp
      rw [List.take_succ_cons, List.map_cons]
      cases hfind : table.findIdx? (servesFor t.1) with
      | none => simp only [fill, leftover, hfind, List.getElem?_cons_succ, ih table hp]
      | some i =>
        simp only [fill, leftover, hfind, List.getElem?_cons_succ, ih (swapRemove table i) hp]

/-- The first entry stays where it is while nothing is taken from in front of it. -/
theorem firstAt_leftover (hbefore : target ∉ before) {k : ℕ} {first : TransitionEntry}
    (hfirst : FirstAt (fun e => servesFor target e) table k first)
    (hfront : ∀ i < k, ∀ e, table[i]? = some e → ∀ taker ∈ before, ¬ servesFor taker e) :
    FirstAt (fun e => servesFor target e) (leftover table before) k first := by
  induction before generalizing table with
  | nil => exact hfirst
  | cons taker rest ih =>
    obtain ⟨hne, hrest⟩ := List.ne_and_not_mem_of_not_mem_cons hbefore
    rcases leftover_cons table taker rest with ⟨i, e, hget, hserves, h⟩ | h
    · rw [h]
      obtain ⟨hi, -⟩ := List.getElem?_eq_some_iff.1 hget
      have hki : k < i := by
        rcases Nat.lt_trichotomy i k with hlt | rfl | hlt
        · exact absurd hserves (hfront i hlt e hget taker (List.mem_cons_self ..))
        · -- the first entry is for another node
          cases hget.symm.trans hfirst.member
          exact absurd ((servesFor_iff.1 hfirst.holds).1.symm.trans (servesFor_iff.1 hserves).1) hne
        · exact hlt
      have hsame : ∀ q ≤ k, (swapRemove table i)[q]? = table[q]? := fun q hq =>
        getElem?_swapRemove_of_lt (Nat.lt_of_le_of_lt hq hki) hi
      refine ih hrest ⟨?_, hfirst.holds, fun q hq b hb => ?_⟩ fun q hq b hb t ht => ?_
      · rw [hsame k (Nat.le_refl k), hfirst.member]
      · rw [hsame q (Nat.le_of_lt hq)] at hb
        exact hfirst.fails q hq b hb
      · rw [hsame q (Nat.le_of_lt hq)] at hb
        exact hfront q hq b hb t (List.mem_cons_of_mem _ ht)
    · rw [h]
      exact ih hrest hfirst fun q hq b hb t ht => hfront q hq b hb t (List.mem_cons_of_mem _ ht)

end SessionNode

open SessionNode

/-- **Completion keeps the first entries**: the entry of a node for another one is the first enabled
one that its table had, wherever it had one. -/
def KeepsFirst (nodes : List SessionNode) : Prop :=
  ∀ (i : ℕ) (before after : SessionNode), nodes[i]? = some before →
    (completeTables nodes)[i]? = some after → ∀ (j : ℕ) (n : SessionNode), nodes[j]? = some n →
      ∀ k first, FirstAt (fun e => servesFor n.id e) before.transitions k first →
        after.transitions[j]? = some first

/-- What the nodes before place `j` leave of a table. -/
def leftBefore (nodes : List SessionNode) (j : ℕ) (table : List TransitionEntry) :
    List TransitionEntry :=
  leftover table ((nodes.take j).map (·.id))

variable {nodes : List SessionNode} {i j : ℕ} {before after n : SessionNode}

/-- The entry of a node for another one is the first that is left for it. -/
theorem getElem?_transitions_completeTables (hbefore : nodes[i]? = some before)
    (hafter : (completeTables nodes)[i]? = some after) (hn : nodes[j]? = some n) :
    after.transitions[j]? =
      some (((leftBefore nodes j before.transitions).find? (servesFor n.id)).getD
        (.disabled n.id n.name)) := by
  rw [completeTables, List.getElem?_map, hbefore, Option.map_some, Option.some.injEq] at hafter
  subst hafter
  have htarget : (nodes.map fun n => (n.id, n.name))[j]? = some (n.id, n.name) := by
    rw [List.getElem?_map, hn, Option.map_some]
  rw [getElem?_fill_eq before.transitions htarget, ← List.map_take, List.map_map]
  rfl

/-- **It is the first entry of the table if and only if that is the first that is left.** -/
theorem eq_first_iff (hbefore : nodes[i]? = some before)
    (hafter : (completeTables nodes)[i]? = some after) (hn : nodes[j]? = some n) {k : ℕ}
    {first : TransitionEntry}
    (hfirst : FirstAt (fun e => servesFor n.id e) before.transitions k first) :
    after.transitions[j]? = some first ↔
      (leftBefore nodes j before.transitions).find? (servesFor n.id) = some first := by
  rw [getElem?_transitions_completeTables hbefore hafter hn, Option.some.injEq]
  cases hfind : (leftBefore nodes j before.transitions).find? (servesFor n.id) with
  | some e => simp
  | none =>
    simp only [Option.getD_none, reduceCtorEq, iff_false]
    rintro rfl
    -- a disabled entry is not the first enabled one
    exact absurd (servesFor_iff.1 hfirst.holds).2 (by simp [TransitionEntry.disabled])

/-- No node before another one has its id. -/
theorem id_not_mem_take (hids : (nodes.map (·.id)).Nodup) (hn : nodes[j]? = some n) :
    n.id ∉ (nodes.take j).map (·.id) := by
  intro hmem
  obtain ⟨k, hk⟩ := List.mem_iff_getElem?.1 hmem
  obtain ⟨hkj, -⟩ := List.getElem?_eq_some_iff.1 hk
  rw [List.length_map, List.length_take] at hkj
  obtain ⟨hj, -⟩ := List.getElem?_eq_some_iff.1 hn
  rw [List.map_take, List.getElem?_take_of_lt (by omega)] at hk
  have hsame : (nodes.map (·.id))[j]? = (nodes.map (·.id))[k]? := by
    rw [hk, List.getElem?_map, hn, Option.map_some]
  have := (List.getElem?_inj (by simpa using hj) hids).1 hsame
  omega

/-- The first entry is kept if nothing comes before it. -/
theorem keeps_of_undisturbed (hids : (nodes.map (·.id)).Nodup) (hbefore : nodes[i]? = some before)
    (hafter : (completeTables nodes)[i]? = some after) (hn : nodes[j]? = some n)
    (h : Undisturbed before.transitions ((nodes.take j).map (·.id)) n.id) {k : ℕ}
    {first : TransitionEntry}
    (hfirst : FirstAt (fun e => servesFor n.id e) before.transitions k first) :
    after.transitions[j]? = some first := by
  rcases h k first hfirst with honly | hfront
  · obtain ⟨e, he, ⟨hmem, hserves⟩ | ⟨hnone, -⟩⟩ := exists_completes hids hbefore hafter hn
    · rw [he, honly e hmem hserves]
    · exact absurd hfirst.holds (hnone first hfirst.mem)
  · rw [eq_first_iff hbefore hafter hn hfirst, find?_servesFor_eq_some_iff]
    exact ⟨k, firstAt_leftover (id_not_mem_take hids hn) hfirst hfront⟩

/-- **When completion keeps the first entries**: if and only if a lookup finds in what the nodes
before another one leave of a table what it finds for that node in the whole table. This is so if
the first entry of a table for a node is undisturbed wherever there is one. -/
theorem keepsFirst_iff (hids : (nodes.map (·.id)).Nodup) :
    (KeepsFirst nodes ↔ ∀ node ∈ nodes, ∀ (j : ℕ) (n : SessionNode), nodes[j]? = some n →
      (leftBefore nodes j node.transitions).find? (servesFor n.id) =
        node.transitions.find? (servesFor n.id)) ∧
    ((∀ node ∈ nodes, ∀ (j : ℕ) (n : SessionNode), nodes[j]? = some n →
      Undisturbed node.transitions ((nodes.take j).map (·.id)) n.id) → KeepsFirst nodes) := by
  refine ⟨⟨fun hkeeps node hnode j n hn => ?_, fun hsame i before after hbefore hafter j n hn k first
    hfirst => ?_⟩, fun h i before after hbefore hafter j n hn k first => ?_⟩
  · obtain ⟨i, hi⟩ := List.mem_iff_getElem?.1 hnode
    obtain ⟨after, hafter⟩ : ∃ after, (completeTables nodes)[i]? = some after :=
      ⟨_, by rw [completeTables, List.getElem?_map, hi, Option.map_some]⟩
    cases hfind : node.transitions.find? (servesFor n.id) with
    | some first =>
      obtain ⟨k, hfirst⟩ := find?_servesFor_eq_some_iff.1 hfind
      have hkept := hkeeps i node after hi hafter j n hn k first hfirst
      exact (eq_first_iff hi hafter hn hfirst).1 hkept
    | none =>
      -- what is left is no more than what there was
      rw [List.find?_eq_none] at hfind ⊢
      exact fun e he => hfind e (mem_of_mem_leftover he)
  · rw [eq_first_iff hbefore hafter hn hfirst, hsame before (List.mem_of_getElem? hbefore) j n hn,
      find?_servesFor_eq_some_iff]
    exact ⟨k, hfirst⟩
  · exact keeps_of_undisturbed hids hbefore hafter hn
      (h before (List.mem_of_getElem? hbefore) j n hn)

/-- The table of the home page has two entries for the cart, and none for itself. -/
theorem keepsFirst_iff_handmade :
    (handmade.map (·.id)).Nodup ∧ KeepsFirst handmade ∧
      (∀ node ∈ handmade, ∀ (j : ℕ) (n : SessionNode), handmade[j]? = some n →
        (leftBefore handmade j node.transitions).find? (servesFor n.id) =
          node.transitions.find? (servesFor n.id)) := by
  have hids : (handmade.map (·.id)).Nodup := by decide
  have hall : ∀ node ∈ handmade, ∀ (j : ℕ) (hj : j < handmade.length),
      (leftBefore handmade j node.transitions).find? (servesFor handmade[j].id) =
        node.transitions.find? (servesFor handmade[j].id) := by
    decide
  have hsame : ∀ node ∈ handmade, ∀ (j : ℕ) (n : SessionNode), handmade[j]? = some n →
      (leftBefore handmade j node.transitions).find? (servesFor n.id) =
        node.transitions.find? (servesFor n.id) := by
    intro node hnode j n hn
    obtain ⟨hj, rfl⟩ := List.getElem?_eq_some_iff.1 hn
    exact hall node hnode j hj
  exact ⟨hids, (keepsFirst_iff hids).1.2 hsame, hsame⟩

/-- Two nodes. The table of the first has an entry for itself before two for the second. -/
def rushed : List SessionNode :=
  [⟨0, "Home", "home", [], [⟨0, "Home", "", "", true⟩, ⟨1, "Cart", "first", "", true⟩,
      ⟨1, "Cart", "second", "", true⟩]⟩,
    ⟨1, "Cart", "cart", [], []⟩]

/-- The second entry for the cart takes the place of the entry for the home page, and is kept. -/
theorem not_keepsFirst_rushed :
    (rushed.map (·.id)).Nodup ∧
      rushed.map (fun n => n.transitions.find? (servesFor 1)) =
        [some ⟨1, "Cart", "first", "", true⟩, none] ∧
      (completeTables rushed).map (fun n => n.transitions.find? (servesFor 1)) =
        [some ⟨1, "Cart", "second", "", true⟩, none] ∧
      ¬ KeepsFirst rushed := by
  refine ⟨by decide, by decide, by decide, fun hkeeps => ?_⟩
  have hfirst : FirstAt (fun e => servesFor 1 e) (rushed.head (by decide)).transitions 1
      ⟨1, "Cart", "first", "", true⟩ := ⟨rfl, rfl, by decide⟩
  have := hkeeps 0 _ _ rfl rfl 1 _ rfl 1 _ hfirst
  exact absurd this (by decide)

end LoadPlan
