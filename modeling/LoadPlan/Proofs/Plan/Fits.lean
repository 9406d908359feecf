import LoadPlan.Proofs.Compile.Stages
import LoadPlan.Proofs.Document.Fits
import LoadPlan.Proofs.Plan.Timestamps
import LoadPlan.Proofs.Protocol.Path
/-!
# Plans that fit a document

A plan counts its nodes and the branches it warns of, and takes ports from samplers. What it counts
is in lists of the model, and what a machine holds of a model it can count; so a compiled plan fits
(`Compiler.fits_of_compile`). Only the frequencies of its mix are as the model has them: nothing
has looked at them (`Compiler.exists_weighted_of_mem_mix`).
-/

namespace LoadPlan

open Document (wordBound)

/-! ## What fits -/

/-- The port fits two bytes. -/
def Sampler.Fits : Sampler → Prop
  | .http _ _ _ port _ _ => ∀ n ∈ port, n < Nat.pow 2 16
  | _ => True

/-- Transformers that answer with samplers that fit. -/
def Transformers.Fit (ts : Transformers) : Prop :=
  ∀ r : Request, r.kind.Fits → ∀ sampler, ts.transform r = .ok sampler → sampler.Fits

/-- The number of branches fits a word. -/
def Warning.Fits : Warning → Prop
  | .nonLinearProtocol _ _ branches => branches < wordBound
  | .duplicateTransition .. => True

/-- A node of a plan that fits. -/
structure SessionNode.Fits (n : SessionNode) : Prop where
  id : n.id < wordBound
  requests : ∀ r ∈ n.requests, r.sampler.Fits
  transitions : ∀ e ∈ n.transitions, e.target < wordBound

/-- **A plan that fits**, up to the frequencies of its mix. -/
structure Plan.Fits (p : Plan) : Prop where
  generatedAt : p.generatedAt.Valid
  initial : p.initial < wordBound
  nodes : ∀ n ∈ p.nodes, n.Fits
  warnings : ∀ w ∈ p.warnings, w.Fits

/-- A state of a protocol graph as a machine holds it. -/
@[mk_iff]
structure ProtocolState.Sized (s : ProtocolState) : Prop where
  request : s.request.kind.Fits
  branches : s.transitions.length < wordBound

instance (s : ProtocolState) : Decidable s.Sized := decidable_of_iff' _ (ProtocolState.sized_iff s)

/-- **A session graph as a machine holds it**: its lists can be counted, and its ports fit. -/
@[mk_iff]
structure SessionGraph.Sized (g : SessionGraph) : Prop where
  states : g.states.length < wordBound
  protocols : ∀ s ∈ g.states, ∀ p ∈ s.protocol.states, p.Sized

instance (g : SessionGraph) : Decidable g.Sized := decidable_of_iff' _ (SessionGraph.sized_iff g)

/-! ## Requests -/

/-- The built-in transformers keep the port of a request. -/
theorem Transformers.fit_builtIn : Transformers.builtIn.Fit := by
  intro r hr sampler h
  rw [transform_builtIn, Transformer.plainSampler] at h
  cases hkind : r.kind with
  | http method protocol domain port path parameters =>
    rw [hkind] at h hr
    cases h
    exact hr
  | soap url action envelope =>
    rw [hkind] at h
    dsimp only at h
    split at h
    · cases h
    · cases h
      trivial
  | extension typeName properties =>
    rw [hkind] at h
    cases h
  | java className arguments | beanShell script parameters | junit className method =>
    rw [hkind] at h
    cases h
    trivial

variable {ts : Transformers} {service : String}

theorem Transformers.Fit.requestNode (hts : ts.Fit) {s : ProtocolState} (hs : s.Sized)
    {node : RequestNode} (h : ts.requestNode s = .ok node) : node.sampler.Fits := by
  obtain ⟨sampler, hsampler, hnode⟩ := bind_eq_ok_iff.1 h
  cases hnode
  exact hts s.request hs.request sampler hsampler

theorem ProtocolState.Sized.branchWarnings {s : ProtocolState} (hs : s.Sized) :
    ∀ w ∈ s.branchWarnings service, w.Fits := by
  intro w hw
  unfold ProtocolState.branchWarnings at hw
  split at hw
  · rw [List.mem_singleton] at hw
    subst hw
    exact hs.branches
  · cases hw

namespace ProtocolGraph

variable {g : ProtocolGraph}

/-- **What a walk asks for and what it reports fits.** -/
theorem fits_follow (hts : ts.Fit) (hg : ∀ s ∈ g.states, s.Sized) (fresh : List Nat) (i : Nat) :
    (∀ nodes, (g.follow ts service fresh i).1 = .ok nodes → ∀ r ∈ nodes, r.sampler.Fits) ∧
      ∀ w ∈ (g.follow ts service fresh i).2, w.Fits := by
  induction fresh, i using follow.induct ts service g with
  | case1 fresh i hs =>
    rw [follow_missing hs]
    simp
  | case2 fresh i s hs hi e hnode =>
    rw [follow_failed hs hi hnode]
    simp
  | case3 fresh i s hs hi node hnode j hnext rest more hrest ih =>
    have hsized := hg s (List.mem_of_getElem? hs)
    obtain ⟨hrequests, hreports⟩ := ih
    rw [follow_next hs hi hnode hnext, follow_next_reports hs hi hnode hnext]
    refine ⟨fun nodes hnodes => ?_, fun w hw => ?_⟩
    · cases hfollow : (g.follow ts service (fresh.erase i) j).1 with
      | error e =>
        rw [hfollow] at hnodes
        cases hnodes
      | ok later =>
        rw [hfollow] at hnodes
        cases hnodes
        exact List.forall_mem_cons.2 ⟨hts.requestNode hsized hnode, hrequests later hfollow⟩
    · rcases List.mem_append.1 hw with hw | hw
      · exact hsized.branchWarnings w hw
      · exact hreports w hw
  | case4 fresh i s hs hi node hnode hlast =>
    have hsized := hg s (List.mem_of_getElem? hs)
    rw [follow_last hs hi hnode hlast]
    refine ⟨fun nodes hnodes => ?_, hsized.branchWarnings⟩
    cases hnodes
    exact List.forall_mem_singleton.2 (hts.requestNode hsized hnode)
  | case5 fresh i s hs hi =>
    rw [follow_stale hs hi]
    simp

theorem fits_lower (hts : ts.Fit) (hg : ∀ s ∈ g.states, s.Sized) :
    (∀ nodes, (g.lower ts service).1 = .ok nodes → ∀ r ∈ nodes, r.sampler.Fits) ∧
      ∀ w ∈ (g.lower ts service).2, w.Fits := by
  unfold lower
  cases g.initial with
  | none => simp
  | some i => exact fits_follow hts hg _ i

end ProtocolGraph

/-! ## Sessions -/

namespace SessionGraph

variable {g : SessionGraph} {convention : GuardNegation} {vs : List Visit}

/-- **What the visits of a walk ask for and what the walk reports fits.** -/
theorem Walk.fits (hts : ts.Fit) (hg : g.Sized) {fresh stack : List Nat} {ws : List Warning}
    (h : Walk ts g fresh stack vs ws) :
    (∀ v ∈ vs, ∀ r ∈ v.requests, r.sampler.Fits) ∧ ∀ w ∈ ws, w.Fits := by
  induction h with
  | done => simp
  | skip _ _ _ ih => exact ih
  | @come fresh stack i s v vs ws more hs _ hv _ ih =>
    obtain ⟨hrequests, hreports⟩ := ih
    obtain ⟨-, -, -, hlower⟩ := lowered_of_visit hv
    have hfits : (∀ nodes, (s.protocol.lower ts v.service.name).1 = .ok nodes →
        ∀ r ∈ nodes, r.sampler.Fits) ∧ ∀ w ∈ (s.protocol.lower ts v.service.name).2, w.Fits :=
      ProtocolGraph.fits_lower hts (hg.protocols s (List.mem_of_getElem? hs))
    rw [hlower] at hfits
    refine ⟨List.forall_mem_cons.2 ⟨hfits.1 v.requests rfl, hrequests⟩, fun w hw => ?_⟩
    rcases List.mem_append.1 hw with hw | hw
    · exact hfits.2 w hw
    · exact hreports w hw

/-- No more states are visited than there are. -/
theorem Tour.length_le {initial : Nat} (h : Tour ts g initial vs) :
    vs.length ≤ g.states.length := by
  have hsub : ∀ i ∈ vs.map (·.index), i ∈ List.range g.states.length := by
    intro i hi
    obtain ⟨v, hv, rfl⟩ := List.mem_map.1 hi
    exact mem_range_of_state? (h.declared v hv).state
  have hle := (List.subperm_of_subset h.nodup hsub).length_le
  rwa [List.length_map, List.length_range] at hle

/-- Wiring reports repeated transitions only. -/
theorem fits_wire {source : String} {transitions : List SessionTransition}
    {table table' : List TransitionEntry} {ws : List Warning}
    (h : wire convention vs source table transitions = .ok (table', ws)) :
    ∀ w ∈ ws, w.Fits := by
  induction transitions generalizing table table' ws with
  | nil =>
    cases h
    simp
  | cons t rest ih =>
    cases ht : t.target with
    | exit =>
      rw [wire_exit ht] at h
      exact ih h
    | state j =>
      cases hj : nodeOf? vs j with
      | none =>
        -- wiring fails at a state that has no node
        simp only [wire, ht, hj] at h
        cases h
      | some k =>
        by_cases hold : ∃ e ∈ table, e.target = k
        · rw [wire_repeated ht hj hold] at h
          cases hrest : wire convention vs source table rest with
          | error e =>
            rw [hrest] at h
            cases h
          | ok r =>
            rw [hrest] at h
            cases h
            exact List.forall_mem_cons.2 ⟨trivial, ih hrest⟩
        · have hnew : ∀ e ∈ table, e.target ≠ k := fun e he hk => hold ⟨e, he, hk⟩
          rw [wire_new ht hj hnew] at h
          exact ih h

theorem fits_wireAll {rest : List Visit} {id : Nat} {nodes : List SessionNode} {ws : List Warning}
    (h : wireAll convention vs id rest = .ok (nodes, ws)) : ∀ w ∈ ws, w.Fits := by
  induction rest generalizing id nodes ws with
  | nil =>
    cases h
    simp
  | cons v rest ih =>
    rw [wireAll] at h
    obtain ⟨⟨table, reports⟩, hwire, h⟩ := bind_eq_ok_iff.1 h
    obtain ⟨⟨later, more⟩, hall, h⟩ := bind_eq_ok_iff.1 h
    cases h
    intro w hw
    rcases List.mem_append.1 hw with hw | hw
    · exact fits_wire hwire w hw
    · exact ih hall w hw

/-- The node of a visit has entries for the nodes of the visits, and no others. -/
theorem fits_plannedNode (hlength : vs.length < wordBound)
    (hrequests : ∀ v ∈ vs, ∀ r ∈ v.requests, r.sampler.Fits) :
    ∀ n ∈ vs.mapIdx (plannedNode convention vs), n.Fits := by
  intro n hn
  obtain ⟨k, hk, rfl⟩ := List.mem_mapIdx.1 hn
  refine ⟨hk.trans hlength, hrequests _ (List.getElem_mem hk), fun e he => ?_⟩
  obtain ⟨m, hm, rfl⟩ := List.mem_mapIdx.1 he
  have htarget : (plannedEntry convention vs[k] m vs[m]).target = m := by
    unfold plannedEntry
    split <;> rfl
  rw [htarget]
  exact hm.trans hlength

/-- **A lowered session fits**: it has a node for each visit of a walk. -/
theorem fits_lower (hts : ts.Fit) (hg : g.Sized) {l : LoweredSession}
    (h : g.lower ts convention = .ok l) :
    l.initial < wordBound ∧ (∀ n ∈ l.nodes, n.Fits) ∧ ∀ w ∈ l.warnings, w.Fits := by
  obtain ⟨initial, vs, ws, hinitial, hvisits, hstart, hnodes⟩ := nodes_of_lower h
  have htour := tour_of_visits hvisits
  obtain ⟨hrequests, hreports⟩ := (walk_of_visits hvisits).fits hts hg
  have hlength := htour.length_le.trans_lt hg.states
  obtain ⟨nodes, more, hall, hmore⟩ := warnings_of_lower h hinitial hvisits
  rw [hstart, hnodes, hmore]
  refine ⟨htour.length_pos.trans hlength, fits_plannedNode hlength hrequests, fun w hw => ?_⟩
  rcases List.mem_append.1 hw with hw | hw
  · exact hreports w hw
  · exact fits_wireAll hall w hw

end SessionGraph

/-! ## Plans -/

namespace Compiler

variable {c : Compiler} {m : LoadModel} {stamp : Stamp} {tree tree' : FileTree}
  {artifact : Artifact}

/-- What a compiled plan is made of. -/
theorem parts_of_compile (h : c.compile stamp m tree = (tree', .ok artifact)) :
    ∃ l initial outcomes, m.session.lower c.transformers c.config.plan.guardNegation = .ok l ∧
      c.matrices.produceAll m.session.services initial c.config.outputDir [] tree m.mix.models =
        (tree', outcomes) ∧
      artifact.plan = ⟨stamp.id, m.name, stamp.time, l.initial, l.nodes,
        (MixReport.mk outcomes).entries, l.warnings⟩ := by
  obtain ⟨l, hadmits, hmix, hplan⟩ := compile_eq_ok_iff.1 h
  obtain ⟨outcomes, hrun, hreport⟩ := MatrixBuilder.exists_run_of_writeMix hmix
  exact ⟨l, _, outcomes, hadmits.lowered, hrun, by rw [hplan, hreport]⟩

/-- **A compiled plan fits.** -/
theorem fits_of_compile (hts : c.transformers.Fit) (hm : m.session.Sized)
    (htime : stamp.time.Valid) (h : c.compile stamp m tree = (tree', .ok artifact)) :
    artifact.plan.Fits := by
  obtain ⟨l, initial, outcomes, hlower, -, hplan⟩ := parts_of_compile h
  obtain ⟨hinitial, hnodes, hwarnings⟩ := SessionGraph.fits_lower hts hm hlower
  rw [hplan]
  exact ⟨htime, hinitial, hnodes, hwarnings⟩

end Compiler

/-! ## Mixes -/

/-- **An entry of a mix is of a model, and has the frequency that the model has.** -/
theorem MatrixBuilder.Run.exists_weighted {b : MatrixBuilder} {services : List Service}
    {initial : Option String} {dir : String} {tree last : FileTree} {models : List WeightedModel}
    {outcomes : List MixOutcome}
    (h : Run b services initial dir tree models last outcomes) {e : MixEntry}
    (he : .written e ∈ outcomes) :
    ∃ w ∈ models, e.name = w.model.name ∧ e.relativeFrequency = w.relativeFrequency := by
  induction h with
  | done => cases he
  | fail f _ _ ih =>
    obtain ⟨w, hw, hentry⟩ := ih ((List.mem_cons.1 he).resolve_left (by simp))
    exact ⟨w, List.mem_cons_of_mem _ hw, hentry⟩
  | @write tree next last w rest outcomes text _ _ _ _ ih =>
    rcases List.mem_cons.1 he with hfirst | hlater
    · cases hfirst
      exact ⟨w, List.mem_cons_self, rfl, rfl⟩
    · obtain ⟨w', hw', hentry⟩ := ih hlater
      exact ⟨w', List.mem_cons_of_mem _ hw', hentry⟩

/-- So a compiled plan has the frequencies of the model, whatever they are. -/
theorem Compiler.exists_weighted_of_mem_mix {c : Compiler} {m : LoadModel} {stamp : Stamp}
    {tree tree' : FileTree} {artifact : Artifact}
    (h : c.compile stamp m tree = (tree', .ok artifact)) {e : MixEntry}
    (he : e ∈ artifact.plan.mix) :
    ∃ w ∈ m.mix.models, e.name = w.model.name ∧ e.relativeFrequency = w.relativeFrequency := by
  obtain ⟨l, initial, outcomes, -, hproduce, hplan⟩ := parts_of_compile h
  rw [hplan] at he
  obtain ⟨o, ho, hwritten⟩ := List.mem_filterMap.1 he
  refine (MatrixBuilder.run_of_produceAll hproduce).exists_weighted ?_
  cases o with
  | written e' =>
    cases hwritten
    exact ho
  | failed f => cases hwritten

end LoadPlan
