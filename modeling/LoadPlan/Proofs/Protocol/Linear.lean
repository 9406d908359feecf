import LoadPlan.Proofs.First
import LoadPlan.Proofs.Protocol.Builders
import LoadPlan.Proofs.Protocol.Issuing
import Mathlib.Data.List.Range
/-!
# Requests in a row

`ProtocolGraph.linear` is what a loop makes that adds one state after the other and leads to it from
the one before (`Row.ofRequests_eq`). In such a graph each place leads to the next, so its path is
all of it in order, without branches. Lowering it is going through the requests (`lower_linear`): it
undoes what the loop has done (`lower_undoes_linear`).
-/

namespace LoadPlan

/-! ## Requests alone -/

/-- **What a request becomes on its own**: a node with its name and its sampler. -/
structure Request.Becomes (r : Request) (ts : Transformers) (node : RequestNode) : Prop where
  name : node.name = r.id
  sampler : ts.transform r = .ok node.sampler
  assertion : node.assertion = none

namespace Transformers

variable {ts : Transformers} {r : Request}

theorem requestNode_ofRequest_eq_ok_iff {node : RequestNode} :
    ts.requestNode (.ofRequest r) = .ok node ↔ r.Becomes ts node := by
  rw [requestNode, bind_eq_ok_iff]
  constructor
  · rintro ⟨sampler, hsampler, hnode⟩
    cases hnode
    exact ⟨rfl, hsampler, rfl⟩
  · rintro ⟨hname, hsampler, hassertion⟩
    obtain ⟨name, sampler, assertion⟩ := node
    cases hname
    cases hassertion
    exact ⟨sampler, hsampler, rfl⟩

theorem requestNode_ofRequest_eq_error_iff {e : CompileError} :
    ts.requestNode (.ofRequest r) = .error e ↔ ts.transform r = .error e := by
  refine ⟨transform_of_requestNode, fun h => ?_⟩
  have hbind : ts.requestNode (.ofRequest r) = ts.transform r >>= _ := rfl
  rw [hbind, h]
  rfl

end Transformers

namespace ProtocolGraph

variable {requests : List Request}

/-! ## A longer row -/

/-- A state that leads to one place more. -/
def lead (i : ℕ) (s : ProtocolState) : ProtocolState :=
  { s with transitions := s.transitions ++ [.state i] }

/-- The last state of a row leads on when the row goes on. -/
theorem lead_placed {n k : ℕ} (hk : k < n) (r : Request) :
    (if n - 1 = k then lead n (placed n k r) else placed n k r) = placed (n + 1) k r := by
  by_cases hlast : n - 1 = k
  · obtain rfl : n = k + 1 := by omega
    simp [placed, lead]
  · have hlt : k + 1 < n := by omega
    simp [placed, hlast, hlt, hk]

/-- **The states of a longer row**: one more, which the last one leads to. -/
theorem states_linear_concat (hne : requests ≠ []) (r : Request) :
    (linear (requests ++ [r])).states =
      ((linear requests).states ++ [ProtocolState.ofRequest r]).modify (requests.length - 1)
        (lead requests.length) := by
  have hpos : 0 < requests.length := List.length_pos_iff.2 hne
  have hplaces : ∀ k, (linear requests).states[k]? = _ := state?_linear
  have hplaces' : ∀ k, (linear (requests ++ [r])).states[k]? = _ := state?_linear
  -- only the last place of the shorter row changes
  apply List.ext_getElem?
  intro k
  rw [hplaces', List.getElem?_modify, List.length_append, List.length_singleton]
  rcases Nat.lt_or_ge k requests.length with hlt | hge
  · rw [List.getElem?_append_left hlt,
      List.getElem?_append_left (by rwa [length_states_linear]), hplaces,
      List.getElem?_eq_getElem hlt]
    exact congrArg some (lead_placed hlt _).symm
  · rw [List.getElem?_append_right hge,
      List.getElem?_append_right (by rwa [length_states_linear]), length_states_linear]
    have hlast : requests.length - 1 ≠ k := by omega
    rcases hge.eq_or_lt with rfl | hgt
    · simp [placed, ProtocolState.ofRequest, hlast]
    · have hnone : 1 ≤ k - requests.length := by omega
      rw [List.getElem?_eq_none hnone, List.getElem?_eq_none hnone]
      rfl

/-- A row is extended by a state, and a transition to it from the last place. -/
theorem pushTransition_linear (hne : requests ≠ []) (r : Request) :
    ((linear requests).addState (.ofRequest r)).1.pushTransition (requests.length - 1)
      (Target.state requests.length) = linear (requests ++ [r]) := by
  have hinitial : (linear requests).initial = some 0 := by simp [linear, hne]
  have hinitial' : (linear (requests ++ [r])).initial = some 0 := by simp [linear]
  rw [addState, hinitial, Option.getD_some, ← hinitial', pushTransition]
  exact congrArg (ProtocolGraph.mk · _) (states_linear_concat hne r).symm

/-! ## The loop that makes a row -/

/-- What the loop has between two turns: the graph, and the place of the last state. -/
structure Row where
  graph : ProtocolGraph
  last : Option ℕ

namespace Row

/-- One turn of the loop: a new state, and a transition to it from the last one. There is no answer
if the graph has no state in that place. -/
def extend (row : Row) (r : Request) : Option Row :=
  let (g, i) := row.graph.addState (.ofRequest r)
  match row.last with
  | none => some ⟨g, some i⟩
  | some k =>
    if k < g.states.length then some ⟨g.pushTransition k (.state i), some i⟩ else none

/-- **The loop that puts requests in a row.** -/
def ofRequests (requests : List Request) : Option Row := requests.foldlM extend ⟨empty, none⟩

/-- What is there after some requests. -/
def made (requests : List Request) : Row :=
  ⟨linear requests, if requests.isEmpty then none else some (requests.length - 1)⟩

/-- **A turn of the loop extends the row by one request.** -/
theorem extend_made (requests : List Request) (r : Request) :
    (made requests).extend r = some (made (requests ++ [r])) := by
  rcases eq_or_ne requests [] with rfl | hne
  · rfl
  · have hpos : 0 < requests.length := List.length_pos_iff.2 hne
    have hlength : (linear requests).states.length = requests.length := length_states_linear
    have hlt : requests.length - 1 <
        ((linear requests).addState (ProtocolState.ofRequest r)).1.states.length := by
      rw [addState, List.length_append, hlength, List.length_singleton]
      omega
    have hplace : ((linear requests).addState (ProtocolState.ofRequest r)).2 = requests.length :=
      hlength
    simp only [made, extend, List.isEmpty_iff, if_neg hne, if_pos hlt, hplace,
      pushTransition_linear hne r]
    simp

/-- **The loop makes the graph of requests in a row**, and never looks for a state in vain. -/
theorem ofRequests_eq (requests : List Request) : ofRequests requests = some (made requests) := by
  induction requests using List.reverseRecOn with
  | nil => rfl
  | append_singleton requests r ih =>
    rw [ofRequests, List.foldlM_append, ← ofRequests, ih]
    simp [extend_made]

end Row

/-! ## The way through a row -/

theorem follows_linear_iff {i j : ℕ} :
    (linear requests).Follows i j ↔ j = i + 1 ∧ j < requests.length := by
  constructor
  · rintro ⟨s, hs, hhead⟩
    rw [state?_linear, Option.map_eq_some_iff] at hs
    obtain ⟨r, -, rfl⟩ := hs
    exact mem_placed_iff.1 (List.mem_of_mem_head? hhead)
  · rintro ⟨rfl, hlt⟩
    have hi : requests[i]? = some requests[i] := List.getElem?_eq_getElem (Nat.lt_of_succ_lt hlt)
    exact ⟨_, by rw [state?_linear, hi, Option.map_some], by simp [placed, hlt]⟩

/-- **The path through a row is all of it, in order.** -/
theorem isTrail_linear (requests : List Request) :
    (linear requests).IsTrail (List.range requests.length) := by
  refine ⟨?_, List.nodup_range, ?_, ?_⟩
  · cases requests <;> simp [linear, List.head?_range]
  · rw [List.isChain_range]
    intro k hk
    exact follows_linear_iff.2 ⟨rfl, by omega⟩
  · intro i hi j hj
    exact List.mem_range.2 (follows_linear_iff.1 hj).2

theorem path_linear (requests : List Request) :
    (linear requests).path = List.range requests.length :=
  (isTrail_path _).eq (isTrail_linear requests)

variable {ts : Transformers} {service : String}

/-- There are no branches on it. -/
theorem branches_linear (path : List ℕ) : (linear requests).branches service path = [] := by
  rw [branches, List.map_eq_nil_iff, List.filter_eq_nil_iff]
  intro s hs
  obtain ⟨k, -, hk⟩ := List.mem_filterMap.1 hs
  rw [state?_linear, Option.map_eq_some_iff] at hk
  obtain ⟨r, -, rfl⟩ := hk
  rw [placed]
  split <;> simp

/-- **Requests in a row are lowered one after the other.** -/
theorem lower_linear (ts : Transformers) (service : String) (requests : List Request) :
    (linear requests).lower ts service =
      (requests.mapM fun r => ts.requestNode (.ofRequest r), []) := by
  have hnodes : (List.range requests.length).map ((linear requests).nodeAt ts) =
      requests.map fun r => ts.requestNode (.ofRequest r) := by
    refine List.ext_getElem (by simp) fun k hk hk' => ?_
    rw [List.length_map] at hk'
    have hr : requests[k]? = some requests[k] := List.getElem?_eq_getElem hk'
    have hs : (linear requests).state? k = _ := state?_linear k
    rw [hr, Option.map_some] at hs
    rw [List.getElem_map, List.getElem_map, List.getElem_range, nodeAt_state hs]
    rfl
  rw [lower_eq, along, path_linear, branches_linear]
  congr 1
  calc (List.range requests.length).mapM ((linear requests).nodeAt ts)
      = ((List.range requests.length).map ((linear requests).nodeAt ts)).mapM id := by
        rw [List.mapM_map]
        rfl
    _ = requests.mapM fun r => ts.requestNode (.ofRequest r) := by
        rw [hnodes, List.mapM_map]
        rfl

/-- **Lowering undoes what the loop has done**, whatever was reported before. If all requests have
samplers, each becomes its node, in their order, and nothing is reported. Otherwise lowering fails as
the first request does that has none. -/
theorem lower_undoes_linear (ts : Transformers) (service : String) (ws : List Warning)
    (requests : List Request) :
    Row.ofRequests requests = some (Row.made requests) ∧
    ((∀ r ∈ requests, ∃ sampler, ts.transform r = .ok sampler) → ∃ nodes,
      (linear requests).lower ts service = (.ok nodes, []) ∧
      (linear requests).loop ts service ws = some (.ok nodes, ws) ∧
      List.Forall₂ (fun r node => r.Becomes ts node) requests nodes) ∧
    (¬ (∀ r ∈ requests, ∃ sampler, ts.transform r = .ok sampler) → ∃ k r e,
      FirstAt (fun r => ∃ e, ts.transform r = .error e) requests k r ∧ ts.transform r = .error e ∧
      (linear requests).lower ts service = (.error e, []) ∧
      (linear requests).loop ts service ws = some (.error e, ws)) := by
  have hlower := lower_linear ts service requests
  have hloop := (linear requests).loop_eq ts service ws
  rw [hlower, List.append_nil] at hloop
  cases hnodes : requests.mapM fun r => ts.requestNode (.ofRequest r) with
  | ok nodes =>
    rw [hnodes] at hlower hloop
    have hbecomes : List.Forall₂ (fun r node => r.Becomes ts node) requests nodes :=
      (mapM_eq_ok_iff.1 hnodes).imp fun _ _ => Transformers.requestNode_ofRequest_eq_ok_iff.1
    refine ⟨Row.ofRequests_eq requests, fun _ => ⟨nodes, hlower, hloop, hbecomes⟩, fun hnot => ?_⟩
    refine absurd (fun r hr => ?_) hnot
    obtain ⟨node, -, hnode⟩ := exists_of_mem_of_forall₂ hbecomes.flip hr
    exact ⟨node.sampler, hnode.sampler⟩
  | error e =>
    rw [hnodes] at hlower hloop
    obtain ⟨k, r, hfirst, hr⟩ := mapM_eq_error_iff_firstAt.1 hnodes
    simp only [Transformers.requestNode_ofRequest_eq_error_iff] at hfirst hr
    refine ⟨Row.ofRequests_eq requests, fun hall => ?_, fun _ => ⟨k, r, e, hfirst, hr, hlower, hloop⟩⟩
    obtain ⟨sampler, hsampler⟩ := hall r hfirst.mem
    cases hr.symm.trans hsampler

/-- A page that is loaded twice, and a search. -/
def reload : List Request :=
  [⟨"open", .junit "Shop" "open"⟩, ⟨"open", .junit "Shop" "open"⟩, ⟨"find", .junit "Shop" "find"⟩]

/-- A call without an address, and a request that no transformer knows. -/
def astray : List Request :=
  [⟨"open", .junit "Shop" "open"⟩, ⟨"buy", .soap "" "buy" ""⟩, ⟨"pay", .extension "cash" .empty⟩]

/-- The page is issued twice. The call without an address fails first. -/
theorem lower_undoes_linear_reload :
    (∃ nodes, (linear reload).loop .builtIn "Shop" [.duplicateTransition "A" "B"] =
        some (.ok nodes, [.duplicateTransition "A" "B"]) ∧
      nodes.map (·.name) = ["open", "open", "find"]) ∧
    (linear astray).loop .builtIn "Shop" [.duplicateTransition "A" "B"] =
      some (.error (.invalidRequest "buy" "SOAP request without endpoint URL"),
        [.duplicateTransition "A" "B"]) := by
  constructor
  · obtain ⟨-, hok, -⟩ :=
      lower_undoes_linear .builtIn "Shop" [.duplicateTransition "A" "B"] reload
    have hall : ∀ r ∈ reload, ∃ sampler, Transformers.builtIn.transform r = .ok sampler :=
      List.forall_mem_cons.2 ⟨⟨_, rfl⟩, List.forall_mem_cons.2 ⟨⟨_, rfl⟩,
        List.forall_mem_singleton.2 ⟨_, rfl⟩⟩⟩
    obtain ⟨nodes, -, hloop, hnodes⟩ := hok hall
    refine ⟨nodes, hloop, ?_⟩
    obtain _ | ⟨hopen, _ | ⟨hagain, _ | ⟨hfind, _ | _⟩⟩⟩ := hnodes
    simp [hopen.name, hagain.name, hfind.name]
  · obtain ⟨-, -, herror⟩ :=
      lower_undoes_linear .builtIn "Shop" [.duplicateTransition "A" "B"] astray
    have hopen : Transformers.builtIn.transform ⟨"open", .junit "Shop" "open"⟩ =
        .ok (.junit "Shop" "open") := rfl
    have hbuy : Transformers.builtIn.transform ⟨"buy", .soap "" "buy" ""⟩ =
        .error (.invalidRequest "buy" "SOAP request without endpoint URL") := rfl
    have hnot : ¬ ∀ r ∈ astray, ∃ sampler, Transformers.builtIn.transform r = .ok sampler := by
      intro hall
      obtain ⟨sampler, hsampler⟩ := hall ⟨"buy", .soap "" "buy" ""⟩ (by simp [astray])
      cases hbuy.symm.trans hsampler
    obtain ⟨k, r, e, hfirst, hr, -, hloop⟩ := herror hnot
    rcases k with _ | _ | k
    · cases hfirst.member
      cases hopen.symm.trans hr
    · cases hfirst.member
      cases hbuy.symm.trans hr
      exact hloop
    · exact absurd ⟨_, hbuy⟩ (hfirst.fails 1 (by omega) _ rfl)

end ProtocolGraph

end LoadPlan
