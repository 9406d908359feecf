import LoadPlan.Proofs.Compile.Stages
import LoadPlan.Proofs.Session.Reachability
import LoadPlan.Proofs.Session.WellFormed
/-!
# The plan and the matrices of one model

A load generator joins the two by label: the row of a node is the row with the node's name, and the
service that a session starts in is marked. The names of nodes come from the walk over the session
graph, the labels of rows from the services as they are declared, and the mark from a lookup of the
initial state. `Compiler.labels_agree_of_compile` says that they agree in every matrix written with
a plan.
-/

namespace LoadPlan

/-! ## Labels -/

namespace BehaviorMatrix

variable (m : BehaviorMatrix)

/-- The label of row `k`, below the header. -/
def rowLabel? (k : ℕ) : Option String := m.body[k]?.bind (·.head?)

/-- The label of column `k`, after the column of labels. -/
def columnLabel? (k : ℕ) : Option String := m.header[k + 1]?

end BehaviorMatrix

namespace Plan

variable (p : Plan)

/-- Id of the service that a session starts in. -/
def initialService? : Option String := p.initialNode?.map (·.service)

/-- The name of a service, with the marker if a session starts there. -/
def marked (marker id name : String) : String :=
  if p.initialService? = some id then name ++ marker else name

end Plan

/-- **A plan and a matrix agree on their labels.** -/
structure LabelsAgree (marker : String) (services : List Service) (p : Plan) (m : BehaviorMatrix) :
    Prop where
  length : m.body.length = services.length
  /-- Row `k` and column `k` are those of service `k`. -/
  service : ∀ k s, services[k]? = some s →
    m.rowLabel? k = some (p.marked marker s.id s.name) ∧
      m.columnLabel? k = some (p.marked marker s.id s.name)
  /-- The service of a node is declared in one place, and has the node's name there. -/
  node : ∀ n ∈ p.nodes, ∃ k, (∀ j, services[j]?.map (·.id) = some n.service ↔ j = k) ∧
    m.rowLabel? k = some (p.marked marker n.service n.name) ∧
      m.columnLabel? k = some (p.marked marker n.service n.name)
  /-- The marker is appended in one row. -/
  initial : ∃ k < services.length, (∀ j, services[j]?.map (·.id) = p.initialService? ↔ j = k) ∧
    (∀ j s, services[j]? = some s →
      m.rowLabel? j = some (if j = k then s.name ++ marker else s.name)) ∧
    (marker ≠ "" → ∀ j s, services[j]? = some s →
      (m.rowLabel? j = some (s.name ++ marker) ↔ j = k))

/-- Services with distinct ids have their places by id. -/
theorem exists_place_of_mem {services : List Service} (hids : (services.map (·.id)).Nodup)
    {s : Service} (hs : s ∈ services) :
    ∃ k : ℕ, services[k]? = some s ∧
      ∀ j : ℕ, services[j]?.map (·.id) = some s.id ↔ j = k := by
  obtain ⟨k, hk⟩ := List.mem_iff_getElem?.1 hs
  refine ⟨k, hk, fun j => ⟨fun hj => ?_, ?_⟩⟩
  · have hk' : (services.map (·.id))[k]? = some s.id := by
      rw [List.getElem?_map, hk, Option.map_some]
    rw [← List.getElem?_map] at hj
    obtain ⟨hlt, -⟩ := List.getElem?_eq_some_iff.1 hj
    exact (List.getElem?_inj hlt hids).1 (hj.trans hk'.symm)
  · rintro rfl
    rw [hk, Option.map_some]

/-- **A built matrix has the labels of the services**, in their order. -/
theorem MatrixBuilder.labels_of_build {b : MatrixBuilder} {services : List Service}
    {initial : Option String} {model : BehaviorModel} {m : BehaviorMatrix}
    (h : b.build services initial model = .ok m) :
    m.body.length = services.length ∧ ∀ k s, services[k]? = some s →
      m.rowLabel? k = some (b.label initial s) ∧ m.columnLabel? k = some (b.label initial s) := by
  obtain ⟨-, -, f, hf, -, rows, hrows, hm⟩ := build_eq_ok_iff.1 h
  have hheader : m.header = b.headerRow services initial := by rw [hm]; rfl
  have hbody : m.body = rows := by rw [hm]; rfl
  refine ⟨hbody ▸ hrows.length_eq.symm, fun k s hs => ⟨?_, ?_⟩⟩
  · obtain ⟨row, hrow, hmade⟩ := exists_row_of_build h hf hs
    rw [BehaviorMatrix.rowLabel?, hrow, Option.bind_some, head?_of_row hmade]
  · rw [BehaviorMatrix.columnLabel?, hheader, getElem?_headerRow hs]

/-! ## Nodes -/

namespace SessionGraph

variable {ts : Transformers} {g : SessionGraph} {convention : GuardNegation} {l : LoweredSession}

/-- A service that is found is declared, with the id that it is found by. -/
theorem mem_of_service? {id : String} {s : Service} (h : g.service? id = some s) :
    s ∈ g.services ∧ s.id = id := by
  unfold service? Service.find? at h
  exact ⟨List.mem_of_find?_eq_some h, by simpa using List.find?_some h⟩

/-- **A node has the name and the id of a service.** -/
theorem exists_service_of_mem (h : g.lower ts convention = .ok l) {n : SessionNode}
    (hn : n ∈ l.nodes) : ∃ s ∈ g.services, n.service = s.id ∧ n.name = s.name := by
  obtain ⟨initial, vs, ws, hinitial, hvisits, -, hnodes⟩ := nodes_of_lower h
  rw [hnodes, List.mem_mapIdx] at hn
  obtain ⟨k, hk, rfl⟩ := hn
  have hdeclared := (tour_of_visits hvisits).declared vs[k] (List.getElem_mem hk)
  exact ⟨vs[k].service, (mem_of_service? hdeclared.service).1, rfl, rfl⟩

/-- **The node that a session starts in is that of the initial service.** -/
theorem exists_initial_of_lower (h : g.lower ts convention = .ok l) :
    ∃ s n, g.initialService? = some s ∧ s ∈ g.services ∧ l.nodes[l.initial]? = some n ∧
      n.service = s.id := by
  obtain ⟨initial, vs, ws, hinitial, hvisits, hstart, hnodes⟩ := nodes_of_lower h
  have htour := tour_of_visits hvisits
  obtain ⟨v, hv, rfl⟩ := getElem?_index_eq_some_iff.1 htour.getElem?_zero
  have hdeclared := htour.declared v (List.mem_of_getElem? hv)
  refine ⟨v.service, plannedNode convention vs 0 v, ?_, (mem_of_service? hdeclared.service).1, ?_,
    rfl⟩
  · rw [initialService?, hinitial, Option.bind_some, serviceOf?, hdeclared.state, Option.bind_some,
      hdeclared.service]
  · rw [hstart, hnodes, getElem?_plannedNode convention hv]

end SessionGraph

/-! ## Both together -/

namespace Compiler

variable {c : Compiler} {stamp : Stamp} {m : LoadModel} {tree last : FileTree} {artifact : Artifact}

/-- **Every matrix that is built with a plan agrees with it.** -/
theorem labelsAgree_of_build (h : c.compile stamp m tree = (last, .ok artifact))
    {model : BehaviorModel} {matrix : BehaviorMatrix}
    (hbuild : c.matrices.build m.session.services (m.session.initialService?.map (·.id)) model =
      .ok matrix) :
    LabelsAgree c.matrices.config.initialMarker m.session.services artifact.plan matrix := by
  obtain ⟨l, hadmits, -, hplan⟩ := compile_eq_ok_iff.1 h
  have hids : (m.session.services.map (·.id)).Nodup :=
    (SessionGraph.validate_eq_ok_iff.1 hadmits.model).ids
  obtain ⟨s₀, n₀, hs₀, hmem₀, hn₀, hid₀⟩ := SessionGraph.exists_initial_of_lower hadmits.lowered
  have hinitial : artifact.plan.initialService? = some s₀.id := by
    rw [Plan.initialService?, Plan.initialNode?, Plan.node?, hplan, hn₀, Option.map_some, hid₀]
  obtain ⟨hlength, hlabels⟩ := MatrixBuilder.labels_of_build hbuild
  -- the builder marks the service that the plan starts in
  have hlabel : ∀ s, c.matrices.label (m.session.initialService?.map (·.id)) s =
      artifact.plan.marked c.matrices.config.initialMarker s.id s.name := by
    intro s
    rw [MatrixBuilder.label, Plan.marked, hs₀, hinitial, Option.map_some]
  simp only [hlabel] at hlabels
  refine ⟨hlength, hlabels, fun n hn => ?_, ?_⟩
  · rw [hplan] at hn
    obtain ⟨s, hs, hid, hname⟩ := SessionGraph.exists_service_of_mem hadmits.lowered hn
    obtain ⟨k, hk, hplace⟩ := exists_place_of_mem hids hs
    rw [hid, hname]
    exact ⟨k, hplace, hlabels k s hk⟩
  · obtain ⟨k, hk, hplace⟩ := exists_place_of_mem hids hmem₀
    have hrow : ∀ j s, m.session.services[j]? = some s → matrix.rowLabel? j =
        some (if j = k then s.name ++ c.matrices.config.initialMarker else s.name) := by
      intro j s hs
      rw [(hlabels j s hs).1, Plan.marked, hinitial]
      have hsame : s₀.id = s.id ↔ j = k := by
        rw [← hplace j, hs, Option.map_some, Option.some.injEq, eq_comm]
      simp only [Option.some.injEq, hsame]
    refine ⟨k, (List.getElem?_eq_some_iff.1 hk).1, by rwa [hinitial], hrow,
      fun hmarker j s hs => ?_⟩
    rw [hrow j s hs, Option.some.injEq]
    refine ⟨fun heq => by_contra fun hjk => ?_, fun hjk => if_pos hjk⟩
    rw [if_neg hjk, ← String.toList_inj, String.toList_append, List.self_eq_append_right] at heq
    exact hmarker (String.toList_eq_nil_iff.1 heq)

/-- **A plan agrees with every matrix that is written with it**: with the one that is built for the
model, and with the one that its file holds in the end. -/
theorem labels_agree_of_compile (config : Config) (transformers : Transformers)
    (formatters : Formatters)
    (h : (ofRegistries config transformers formatters).compile stamp m tree = (last, .ok artifact))
    {k : ℕ} {w : WeightedModel} {entry : MixEntry} (hw : m.mix.models[k]? = some w)
    (hentry : artifact.report.outcomes[k]? = some (.written entry)) :
    ∃ built held : BehaviorMatrix,
      (MatrixBuilder.mk config.matrix formatters).build m.session.services
        (m.session.initialService?.map (·.id)) w.model = .ok built ∧
      LabelsAgree config.matrix.initialMarker m.session.services artifact.plan built ∧
      last.read? entry.filename = some (held.delimited config.matrix.delimiter).toUTF8 ∧
      LabelsAgree config.matrix.initialMarker m.session.services artifact.plan held := by
  obtain ⟨l, -, hmix, -⟩ := compile_eq_ok_iff.1 h
  obtain ⟨outcomes, hrun, hreport⟩ := MatrixBuilder.exists_run_of_writeMix hmix
  rw [hreport] at hentry
  obtain ⟨w', built, hw', hbuilt, -⟩ := MatrixBuilder.exists_build_of_written hrun hentry
  obtain rfl : w = w' := Option.some.inj (hw.symm.trans hw')
  -- the file may hold the matrix of a later model
  obtain ⟨j, text, -, hheld, hread⟩ :=
    (MatrixBuilder.run_of_produceAll hrun).read?_entry hw hentry
  obtain ⟨v, -, -, htext⟩ := hheld.model
  obtain ⟨held, hbuilt', rfl⟩ := MatrixBuilder.text?_eq_some_iff.1 htext
  exact ⟨built, held, hbuilt, labelsAgree_of_build h hbuilt, hread, labelsAgree_of_build h hbuilt'⟩

/-- The plan and the matrix of the ride: the session starts in a state of `A`, which is not the
first one of the graph. -/
theorem labels_agree_ride : ∃ last artifact entry built,
    standard.compile rideStamp ride .empty = (last, .ok artifact) ∧
    artifact.report.outcomes[0]? = some (.written entry) ∧
    artifact.plan.initialService? = some "A" ∧
    LabelsAgree "*" SessionGraph.shuttle.services artifact.plan built ∧
    built.rowLabel? 0 = some "A*" ∧ built.rowLabel? 1 = some "B" := by
  have hplaces : ((standard.matrices.writeMix SessionGraph.shuttle.services (some "A") ride.mix "."
      .empty).2.outcomes.map (MixOutcome.place? []))[0]? = some (some ["rider.csv"]) := by
    decide +kernel
  rcases hmix : standard.matrices.writeMix SessionGraph.shuttle.services (some "A") ride.mix "."
    .empty with ⟨last, report⟩
  rw [hmix, List.getElem?_map, Option.map_eq_some_iff] at hplaces
  obtain ⟨o, ho, hplace⟩ := hplaces
  have hcompile : standard.compile rideStamp ride .empty = (last, .ok ⟨⟨"ride-1", "ride",
      rideStamp.time, 0, SessionGraph.shuttlePlan.nodes, report.entries,
        SessionGraph.shuttlePlan.warnings⟩, report⟩) :=
    compile_eq_ok_iff.2 ⟨_, admits_ride, hmix, rfl⟩
  cases o with
  | written entry =>
    obtain ⟨built, held, -, hagree, -⟩ :=
      labels_agree_of_compile .standard .builtIn .builtIn hcompile rfl ho
    exact ⟨last, _, entry, built, hcompile, ho, rfl, hagree, (hagree.service 0 _ rfl).1,
      (hagree.service 1 _ rfl).1⟩
  | failed failure => cases hplace

end Compiler

end LoadPlan
