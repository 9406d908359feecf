import LoadPlan.Proofs.Protocol.Builders
/-!
# The path that lowering takes through a protocol graph

`ProtocolGraph.follow` goes from the initial state along the first transitions and stops where it
comes back to a state. `ProtocolGraph.OnPath` says which states that are, without a set of fresh
states: those that first transitions lead to. In a graph that refers to its own states only the
walk fails for a request on the path, and for nothing else (`Sound.exists_lower_iff`).
-/

namespace LoadPlan

/-! ## Samplers -/

/-- **A request that no built-in transformer takes**: one of another family, or one without an
address to send its envelope to. -/
def RequestKind.Unsupported : RequestKind → Prop
  | .extension .. => True
  | .soap url _ _ => url = ""
  | _ => False

/-- Among them the built-in transformers know every family they have. -/
theorem Transformers.transform_builtIn (r : Request) :
    builtIn.transform r = Transformer.plainSampler r := by
  cases h : r.kind <;>
    simp [transform, builtIn, registerBuiltIn, register, RequestTag.builtIn, Registry.get?_insert, h,
      RequestKind.tag, Transformer.builtIn, Transformer.plainSampler]

/-- They take all other requests. -/
theorem Transformers.exists_transform_builtIn_iff {r : Request} :
    (∃ sampler, builtIn.transform r = .ok sampler) ↔ ¬ r.kind.Unsupported := by
  rw [transform_builtIn, Transformer.plainSampler]
  cases h : r.kind with
  | soap url action envelope => by_cases hurl : url = "" <;> simp [RequestKind.Unsupported, hurl]
  | _ => simp [RequestKind.Unsupported]

namespace ProtocolGraph

variable {ts : Transformers} {service : String} {g : ProtocolGraph} {fresh : List Nat} {i : Nat}

/-- **A state on the path of first transitions** that starts in the initial state. -/
def OnPath (g : ProtocolGraph) (s : ProtocolState) : Prop :=
  ∃ initial i, g.initial = some initial ∧ Relation.ReflTransGen g.Follows initial i ∧
    g.state? i = some s

/-- **States that a walk has come through**: their requests have samplers, and each leads to
another of them or to one that was not fresh. -/
structure Passed (ts : Transformers) (g : ProtocolGraph) (fresh passed : List Nat) : Prop where
  transforms : ∀ i ∈ passed, ∀ s, g.state? i = some s →
    ∃ sampler, ts.transform s.request = .ok sampler
  closed : ∀ i ∈ passed, ∀ j, g.Follows i j → j ∈ passed ∨ j ∉ fresh

/-- A walk that does not fail comes through the state it starts in, if that is fresh. -/
theorem exists_passed_of_follow {nodes : List RequestNode}
    (h : (g.follow ts service fresh i).1 = .ok nodes) :
    ∃ passed, (i ∈ fresh → i ∈ passed) ∧ Passed ts g fresh passed := by
  induction fresh, i using follow.induct ts service g generalizing nodes with
  | case1 fresh i hs => rw [follow_missing hs] at h; cases h
  | case2 fresh i s hs hi e hnode => rw [follow_failed hs hi hnode] at h; cases h
  | case3 fresh i s hs hi node hnode j hnext rest more hrest ih =>
    rw [follow_next hs hi hnode hnext] at h
    cases hfollow : (g.follow ts service (fresh.erase i) j).1 with
    | error e => rw [hfollow] at h; cases h
    | ok nodes =>
      obtain ⟨passed, hj, hpassed⟩ := ih hfollow
      -- only `i` stops being fresh in this step, and `i` has been passed
      have hgrow : ∀ k, k ∈ passed ∨ k ∉ fresh.erase i → k ∈ i :: passed ∨ k ∉ fresh := by
        rintro k (hk | hk)
        · exact .inl (.tail _ hk)
        · rcases eq_or_ne k i with rfl | hne
          · exact .inl (List.mem_cons_self ..)
          · exact .inr ((List.mem_erase_of_ne hne).not.1 hk)
      refine ⟨i :: passed, fun _ => List.mem_cons_self .., ?_, ?_⟩
      · refine List.forall_mem_cons.2 ⟨fun s' hs' => ?_, hpassed.transforms⟩
        rw [hs] at hs'
        cases hs'
        exact Transformers.exists_requestNode_iff.1 ⟨node, hnode⟩
      · refine List.forall_mem_cons.2 ⟨fun k hk => ?_, fun m hm k hk => ?_⟩
        · cases hnext.symm.trans (hk.head? hs)
          exact hgrow j ((Decidable.em (j ∈ fresh.erase i)).imp_left hj)
        · exact hgrow k (hpassed.closed m hm k hk)
  | case4 fresh i s hs hi node hnode hlast =>
    refine ⟨[i], fun _ => List.mem_cons_self .., ?_, ?_⟩
    · refine List.forall_mem_singleton.2 fun s' hs' => ?_
      rw [hs] at hs'
      cases hs'
      exact Transformers.exists_requestNode_iff.1 ⟨node, hnode⟩
    · exact List.forall_mem_singleton.2 fun k hk => absurd (hk.head? hs) (hlast k)
  | case5 fresh i s hs hi => exact ⟨[], fun hi' => absurd hi' hi, by simp, by simp⟩

/-- **A sound graph lowers exactly when every request on its path has a sampler.** -/
theorem Sound.exists_lower_iff (hg : g.Sound) :
    (∃ requests, (g.lower ts service).1 = .ok requests) ↔
      ∀ s, g.OnPath s → ∃ sampler, ts.transform s.request = .ok sampler := by
  cases hinitial : g.initial with
  | none =>
    have hpath : ∀ s, ¬ g.OnPath s := by
      rintro s ⟨initial, i, hsome, -⟩
      rw [hinitial] at hsome
      cases hsome
    simp [lower, hinitial, hpath]
  | some initial =>
    have hlt := hg.initial_lt initial hinitial
    simp only [lower, hinitial]
    constructor
    · rintro ⟨requests, h⟩ s ⟨start, i, hstart, hreach, hs⟩
      rw [hinitial] at hstart
      cases hstart
      obtain ⟨passed, hfirst, hpassed⟩ := exists_passed_of_follow h
      suffices hi : i ∈ passed from hpassed.transforms i hi s hs
      clear hs
      -- every state of the graph is fresh, so the path never leaves what was passed
      induction hreach with
      | refl => exact hfirst (List.mem_range.2 hlt)
      | tail _ hfollows ih =>
        refine (hpassed.closed _ ih _ hfollows).resolve_right fun hfresh => hfresh ?_
        obtain ⟨s, hs, hhead⟩ := hfollows
        exact List.mem_range.2 (hg.wellFormed.closed s (List.mem_of_getElem? hs) _
          (List.mem_of_mem_head? hhead))
    · intro hall
      cases h : (g.follow ts service (List.range g.states.length) initial).1 with
      | ok requests => exact ⟨requests, rfl⟩
      | error e =>
        obtain ⟨k, s, hreach, hs, htransform⟩ := fault_of_follow hg.wellFormed.closed hlt h
        obtain ⟨sampler, hsampler⟩ := hall s ⟨initial, k, hinitial, hreach, hs⟩
        rw [htransform] at hsampler
        cases hsampler

end ProtocolGraph

end LoadPlan
