import LoadPlan.Proofs.Protocol.Walk
import Mathlib.Data.List.Chain
import Mathlib.Data.List.Nodup
/-!
# The first-transition path

A protocol graph has one path that starts in its initial state and goes on along first transitions
until it would come to a place again (`isTrail_path`, `IsTrail.eq`). `ProtocolGraph.path` computes
it as `follow` walks it, with a list of fresh states that grows shorter. First transitions may
lead out of the graph: the path then ends with the place that is no state.
-/

namespace LoadPlan

namespace ProtocolGraph

variable {g : ProtocolGraph}

/-! ## The path -/

/-- **The path of first transitions**: from the initial state on, each place leads to the next, no
place comes twice, and the last one leads to no place that is not on the path. A place that is no
state can only be the last one. -/
structure IsTrail (g : ProtocolGraph) (path : List ℕ) : Prop where
  head : path.head? = g.initial
  nodup : path.Nodup
  chain : path.IsChain g.Follows
  last : ∀ i ∈ path.getLast?, ∀ j, g.Follows i j → j ∈ path

/-- The places that a walk comes to from `i` on. -/
def pathFrom (g : ProtocolGraph) (fresh : List ℕ) (i : ℕ) : List ℕ :=
  match g.state? i with
  | none => [i]
  | some s =>
    if _h : i ∈ fresh then
      match s.transitions.head? with
      | some (.state j) => i :: pathFrom g (fresh.erase i) j
      | _ => [i]
    else []
termination_by fresh.length
decreasing_by
  have := List.length_pos_of_mem _h
  rw [List.length_erase_of_mem _h]
  omega

/-- The path of first transitions, as a walk comes through it (`isTrail_path`). -/
def path (g : ProtocolGraph) : List ℕ :=
  match g.initial with
  | none => []
  | some i => g.pathFrom (List.range g.states.length) i

section Equations

variable {fresh : List ℕ} {i j : ℕ} {s : ProtocolState}

theorem pathFrom_missing (hs : g.state? i = none) : g.pathFrom fresh i = [i] := by
  rw [pathFrom]
  simp only [hs]

theorem pathFrom_stale (hs : g.state? i = some s) (hi : i ∉ fresh) : g.pathFrom fresh i = [] := by
  rw [pathFrom]
  simp only [hs, dif_neg hi]

theorem pathFrom_next (hs : g.state? i = some s) (hi : i ∈ fresh)
    (hnext : s.transitions.head? = some (.state j)) :
    g.pathFrom fresh i = i :: g.pathFrom (fresh.erase i) j := by
  rw [pathFrom]
  simp only [hs, dif_pos hi, hnext]

theorem pathFrom_last (hs : g.state? i = some s) (hi : i ∈ fresh)
    (hlast : ∀ j, s.transitions.head? = some (.state j) → False) : g.pathFrom fresh i = [i] := by
  rw [pathFrom]
  simp only [hs, dif_pos hi]

end Equations

/-- A walk starts where it is, unless it has been there. -/
theorem head?_pathFrom {fresh : List ℕ} {i : ℕ} (hi : i ∈ fresh ∨ g.state? i = none) :
    (g.pathFrom fresh i).head? = some i := by
  cases hs : g.state? i with
  | none => rw [pathFrom_missing hs, List.head?_cons]
  | some s =>
    have hi : i ∈ fresh := hi.resolve_right (by simp [hs])
    by_cases hnext : ∃ j, s.transitions.head? = some (.state j)
    · obtain ⟨j, hnext⟩ := hnext
      rw [pathFrom_next hs hi hnext, List.head?_cons]
    · rw [pathFrom_last hs hi fun j hj => hnext ⟨j, hj⟩, List.head?_cons]

theorem exists_pathFrom_eq_cons {fresh : List ℕ} {i : ℕ} (hi : i ∈ fresh ∨ g.state? i = none) :
    ∃ rest, g.pathFrom fresh i = i :: rest := by
  have hhead := head?_pathFrom hi
  exact List.head?_eq_some_iff.1 hhead

theorem stale_of_pathFrom_eq_nil {fresh : List ℕ} {i : ℕ} (h : g.pathFrom fresh i = []) :
    i ∉ fresh ∧ ∃ s, g.state? i = some s := by
  by_contra hnot
  have hi : i ∈ fresh ∨ g.state? i = none := by
    rw [not_and_or, not_not, not_exists] at hnot
    exact hnot.imp_right Option.eq_none_iff_forall_ne_some.2
  have hhead := head?_pathFrom hi
  rw [h] at hhead
  cases hhead

theorem eq_of_mem_head?_pathFrom {fresh : List ℕ} {i k : ℕ}
    (h : k ∈ (g.pathFrom fresh i).head?) : k = i := by
  by_cases hi : i ∈ fresh ∨ g.state? i = none
  · rw [head?_pathFrom hi] at h
    exact (Option.some.inj h).symm
  · rw [not_or] at hi
    obtain ⟨s, hs⟩ := Option.ne_none_iff_exists'.1 hi.2
    rw [pathFrom_stale hs hi.1] at h
    cases h

/-- **A part of the path** that comes to fresh states only, or out of the graph, and stops where it
would come to a state that is not fresh. -/
structure Walked (g : ProtocolGraph) (fresh path : List ℕ) : Prop where
  nodup : path.Nodup
  places : ∀ k ∈ path, k ∈ fresh ∨ g.state? k = none
  chain : path.IsChain g.Follows
  last : ∀ i, path.getLast? = some i → ∀ j, g.Follows i j →
    j ∈ path ∨ (j ∉ fresh ∧ ∃ s, g.state? j = some s)

/-- A part of one place. -/
theorem walked_singleton {fresh : List ℕ} {i : ℕ} (hi : i ∈ fresh ∨ g.state? i = none)
    (hlast : ∀ j, ¬ g.Follows i j) : g.Walked fresh [i] := by
  refine ⟨List.nodup_singleton i, by simpa using hi, List.isChain_singleton i, fun k hk j hj => ?_⟩
  rw [List.getLast?_singleton, Option.some.injEq] at hk
  exact absurd (hk ▸ hj) (hlast j)

theorem walked_pathFrom {fresh : List ℕ} {i : ℕ} (hfresh : fresh.Nodup) :
    g.Walked fresh (g.pathFrom fresh i) := by
  induction fresh, i using pathFrom.induct g with
  | case1 fresh i hs =>
    rw [pathFrom_missing hs]
    refine walked_singleton (.inr hs) ?_
    rintro j ⟨s, hs', -⟩
    rw [hs] at hs'
    cases hs'
  | case2 fresh i s hs hi j hnext ih =>
    rw [pathFrom_next hs hi hnext]
    obtain ⟨hnodup, hplaces, hchain, hlast⟩ := ih (hfresh.erase i)
    have hnot : i ∉ g.pathFrom (fresh.erase i) j := by
      intro hmem
      rcases hplaces i hmem with herase | hnone
      · exact hfresh.not_mem_erase herase
      · rw [hs] at hnone
        cases hnone
    -- what is not fresh after this step is `i`, or was not fresh before
    have hgrow : ∀ k, k ∉ fresh.erase i →
        k ∈ i :: g.pathFrom (fresh.erase i) j ∨ k ∉ fresh := by
      intro k hk
      rcases eq_or_ne k i with rfl | hne
      · exact .inl (List.mem_cons_self ..)
      · exact .inr ((List.mem_erase_of_ne hne).not.1 hk)
    refine ⟨List.nodup_cons.2 ⟨hnot, hnodup⟩, ?_, ?_, fun k hk m hm => ?_⟩
    · refine List.forall_mem_cons.2 ⟨.inl hi, fun k hk => ?_⟩
      exact (hplaces k hk).imp_left List.mem_of_mem_erase
    · refine List.isChain_cons.2 ⟨fun k hk => ?_, hchain⟩
      rw [eq_of_mem_head?_pathFrom hk]
      exact ⟨s, hs, hnext⟩
    · rw [List.getLast?_cons, Option.some.injEq] at hk
      cases hrest : (g.pathFrom (fresh.erase i) j).getLast? with
      | some last =>
        rw [hrest, Option.getD_some] at hk
        subst hk
        obtain hmem | ⟨hm', hstate⟩ := hlast last hrest m hm
        · exact .inl (List.mem_cons_of_mem i hmem)
        · exact (hgrow m hm').imp_right fun hm' => ⟨hm', hstate⟩
      | none =>
        rw [hrest, Option.getD_none] at hk
        subst hk
        cases hnext.symm.trans (hm.head? hs)
        obtain ⟨hj, hstate⟩ := stale_of_pathFrom_eq_nil (List.getLast?_eq_none_iff.1 hrest)
        exact (hgrow j hj).imp_right fun hj' => ⟨hj', hstate⟩
  | case3 fresh i s hs hi hlast =>
    rw [pathFrom_last hs hi hlast]
    exact walked_singleton (.inl hi) fun j hj => hlast j (hj.head? hs)
  | case4 fresh i s hs hi =>
    rw [pathFrom_stale hs hi]
    exact ⟨List.nodup_nil, by simp, List.isChain_nil, by simp⟩

/-- **A graph has a path of first transitions.** -/
theorem isTrail_path (g : ProtocolGraph) : g.IsTrail g.path := by
  cases hinitial : g.initial with
  | none =>
    rw [path, hinitial]
    exact ⟨hinitial.symm, List.nodup_nil, List.isChain_nil, by simp⟩
  | some i =>
    have hwalked : g.Walked (List.range g.states.length) g.path := by
      rw [path, hinitial]
      exact walked_pathFrom List.nodup_range
    have hplace : ∀ k s, g.state? k = some s → k ∈ List.range g.states.length := fun k s hs =>
      List.mem_range.2 (List.getElem?_eq_some_iff.1 hs).1
    refine ⟨?_, hwalked.nodup, hwalked.chain, fun k hk j hj => ?_⟩
    · rw [path, hinitial]
      refine head?_pathFrom ?_
      cases hs : g.state? i with
      | none => exact .inr rfl
      | some s => exact .inl (hplace i s hs)
    · obtain hmem | ⟨hj', s, hs⟩ := hwalked.last k hk j hj
      · exact hmem
      · exact absurd (hplace j s hs) hj'

/-- A place leads to one other at most. -/
theorem Follows.unique {i j k : ℕ} (hj : g.Follows i j) (hk : g.Follows i k) : j = k := by
  obtain ⟨s, hs, hhead⟩ := hj
  rw [hk.head? hs] at hhead
  cases hhead
  rfl

/-- A path goes on where another one of the same beginning does. -/
theorem IsTrail.getElem?_succ {p q : List ℕ} (hp : g.IsTrail p) (hq : g.IsTrail q) {n : ℕ}
    (hsame : ∀ m ≤ n, p[m]? = q[m]?) {j : ℕ} (hj : p[n + 1]? = some j) : q[n + 1]? = some j := by
  obtain ⟨hlt, rfl⟩ := List.getElem?_eq_some_iff.1 hj
  have hfollows : g.Follows p[n] p[n + 1] := List.isChain_iff_getElem.1 hp.chain n (by omega)
  have hn : q[n]? = some p[n] := by
    rw [← hsame n le_rfl, List.getElem?_eq_getElem]
  obtain ⟨hnq, hat⟩ := List.getElem?_eq_some_iff.1 hn
  rcases Nat.lt_or_ge (n + 1) q.length with hlt' | hge
  · -- both go on from the same place, which leads to one other only
    have hfollows' : g.Follows q[n] q[n + 1] := List.isChain_iff_getElem.1 hq.chain n (by omega)
    rw [hat] at hfollows'
    rw [List.getElem?_eq_getElem hlt', hfollows'.unique hfollows]
  · -- the place that the longer one goes on to would be one that it has come through
    have hmem : p[n + 1] ∈ q := by
      refine hq.last p[n] ?_ p[n + 1] hfollows
      rw [List.getLast?_eq_getElem?, show q.length - 1 = n by omega, hn]
      rfl
    obtain ⟨m, hm, hmat⟩ := List.getElem_of_mem hmem
    have hmp : p[m]? = some p[n + 1] := by
      rw [hsame m (by omega), List.getElem?_eq_getElem hm, hmat]
    have := (List.getElem?_inj hlt hp.nodup).1 (hj.trans hmp.symm)
    omega

/-- **There is no other.** -/
theorem IsTrail.eq {p q : List ℕ} (hp : g.IsTrail p) (hq : g.IsTrail q) : p = q := by
  have hsame : ∀ n : ℕ, ∀ m ≤ n, p[m]? = q[m]? := by
    intro n
    induction n with
    | zero =>
      intro m hm
      rw [Nat.le_zero.1 hm, ← List.head?_eq_getElem?, ← List.head?_eq_getElem?, hp.head, hq.head]
    | succ n ih =>
      intro m hm
      rcases Nat.lt_or_ge n m with hlt | hle
      · obtain rfl : m = n + 1 := by omega
        refine Option.ext fun j => ⟨hp.getElem?_succ hq ih, ?_⟩
        exact hq.getElem?_succ hp fun m hm => (ih m hm).symm
      · exact ih m hle
  exact List.ext_getElem? fun n => hsame n n le_rfl

end ProtocolGraph

end LoadPlan
