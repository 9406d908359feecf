import LoadPlan.Proofs.Behavior.Defects
import LoadPlan.Proofs.Matrix.Shape
/-!
# What a build looks at

Once its checks of the layout and the model are passed, a build looks at little of a model: at the
think time that chooses a formatter, at the names of the model, and at what the searches find for
the cells, of which it takes the probability and the think time. Models with the same view and the
same formatter are filled in the same way (`MatrixBuilder.fill_congr`). So the think times of
transitions that no cell shows do not matter, but for the choice of the formatter
(`MatrixBuilder.build_rethink`).
-/

namespace LoadPlan

/-- What a cell shows of a transition. -/
def MarkovTransition.shown (t : MarkovTransition) : Float × ThinkTime := (t.probability, t.thinkTime)

namespace BehaviorModel

/-- The think time that chooses the formatter: that of the initial state's first transition. -/
def firstThinkTime? (m : BehaviorModel) : Option ThinkTime :=
  (m.initialState?.bind fun s => s.transitions.head?).map (·.thinkTime)

/-- **Two models that look the same** when a matrix over some services is filled. -/
structure SameView (services : List Service) (m m' : BehaviorModel) : Prop where
  name : m'.name = m.name
  filename : m'.filename = m.filename
  found : ∀ s ∈ services, ∀ column ∈ Column.all services,
    (m'.transitionBetween? s.id column).map MarkovTransition.shown =
      (m.transitionBetween? s.id column).map MarkovTransition.shown

end BehaviorModel

namespace MatrixBuilder

variable {b : MatrixBuilder} {services : List Service} {initial : Option String}
  {m m' : BehaviorModel} {f : Formatter}

/-- What a build does after the checks of the layout and the model. -/
def fill (b : MatrixBuilder) (services : List Service) (initial : Option String)
    (m : BehaviorModel) : Except MatrixError BehaviorMatrix := do
  let f ← b.formatterFor m
  b.checkLabels m (services.map (b.label initial))
  let rows ← services.mapM (b.row services initial m f)
  return ⟨m.name, m.filename, b.headerRow services initial :: rows⟩

theorem build_eq_fill :
    b.build services initial m = (do
      b.config.validate
      (m.validate services).mapError .badModel
      b.fill services initial m) := rfl

/-- Think times of one family choose the same formatter. -/
theorem formatterFor_congr (hname : m'.name = m.name)
    (hfirst : m'.firstThinkTime?.map (·.kind) = m.firstThinkTime?.map (·.kind)) :
    b.formatterFor m' = b.formatterFor m := by
  rw [BehaviorModel.firstThinkTime?, BehaviorModel.firstThinkTime?, Option.map_map,
    Option.map_map] at hfirst
  rw [formatterFor, formatterFor, hname]
  cases h : m.initialState?.bind fun s => s.transitions.head? with
  | none =>
    rw [h, Option.map_none, Option.map_eq_none_iff] at hfirst
    rw [hfirst]
  | some t =>
    rw [h, Option.map_some, Option.map_eq_some_iff] at hfirst
    obtain ⟨t', ht', hkind⟩ := hfirst
    rw [Function.comp_apply, Function.comp_apply] at hkind
    simp only [ht', hkind]

/-- A cell shows no more than it shows. -/
theorem cell_congr (hname : m'.name = m.name) {found found' : Option MarkovTransition}
    (h : found'.map MarkovTransition.shown = found.map MarkovTransition.shown) :
    MatrixBuilder.cell m' f found' = MatrixBuilder.cell m f found := by
  cases found with
  | none =>
    rw [Option.map_none, Option.map_eq_none_iff] at h
    rw [h, MatrixBuilder.cell, MatrixBuilder.cell]
  | some t =>
    rw [Option.map_some, Option.map_eq_some_iff] at h
    obtain ⟨t', rfl, hshown⟩ := h
    obtain ⟨hprobability, htime⟩ := Prod.mk.inj hshown
    rw [MatrixBuilder.cell, MatrixBuilder.cell, hname, hprobability, htime]

/-- **Models that look the same are filled in the same way**, with the same formatter. -/
theorem fill_congr (h : BehaviorModel.SameView services m m')
    (hformatter : b.formatterFor m' = b.formatterFor m) :
    b.fill services initial m' = b.fill services initial m := by
  have hlabels : ∀ labels, b.checkLabels m' labels = b.checkLabels m labels := by
    intro labels
    rw [checkLabels, checkLabels, h.name]
  have hrow : ∀ f, ∀ s ∈ services,
      b.row services initial m' f s = b.row services initial m f s := by
    intro f s hs
    rw [row, row]
    congr 1
    exact mapM_congr fun column hcolumn => cell_congr h.name (h.found s hs column hcolumn)
  rw [fill, fill, hformatter, hlabels, h.name, h.filename]
  simp only [mapM_congr (hrow _)]

end MatrixBuilder

/-! ## Other think times -/

/-- The state with other think times: `τ k` says what becomes of that of transition number `k`. -/
def MarkovState.rethink (s : MarkovState) (τ : ℕ → ThinkTime → ThinkTime) : MarkovState :=
  { s with transitions := s.transitions.mapIdx fun k t => { t with thinkTime := τ k t.thinkTime } }

namespace BehaviorModel

/-- **The model with other think times**: `τ i k` says what becomes of the think time of transition
number `k` of state number `i`. -/
def rethink (m : BehaviorModel) (τ : ℕ → ℕ → ThinkTime → ThinkTime) : BehaviorModel :=
  { m with states := m.states.mapIdx fun i s => s.rethink (τ i) }

/-- **Transition number `k` of state number `i` is shown** in some cell: the state stands for the
service of a row, and the transition feeds a column. -/
def ShownAt (m : BehaviorModel) (services : List Service) (i k : ℕ) : Prop :=
  ∃ r ∈ services, ∃ column ∈ Column.all services, ∃ s t,
    FirstAt (fun s => s.service = r.id) m.states i s ∧ m.Feeds s column k t

variable {m : BehaviorModel} {services : List Service} {τ : ℕ → ℕ → ThinkTime → ThinkTime}

/-- What does not depend on the change of members is as before. -/
theorem map_mapIdx_eq {α β γ : Type} {f : ℕ → α → β} {g : β → γ} {h : α → γ}
    (hg : ∀ i a, g (f i a) = h a) (l : List α) : (l.mapIdx f).map g = l.map h := by
  apply List.ext_getElem?
  intro i
  rw [List.getElem?_map, List.getElem?_mapIdx, List.getElem?_map, Option.map_map]
  exact congrArg (Option.map · l[i]?) (funext fun a => hg i a)

theorem flatMap_mapIdx_eq {α β γ : Type} {f : ℕ → α → β} {g : β → List γ} {h : α → List γ}
    (hg : ∀ i a, g (f i a) = h a) (l : List α) : (l.mapIdx f).flatMap g = l.flatMap h := by
  rw [List.flatMap_def, List.flatMap_def, map_mapIdx_eq hg]

/-- Validation does not look at think times. -/
theorem validate_rethink : (m.rethink τ).validate services = m.validate services := by
  have hlength : (m.rethink τ).states.length = m.states.length := List.length_mapIdx ..
  have htransition : ∀ i k (t : MarkovTransition),
      (m.rethink τ).transitionDefects { t with thinkTime := τ i k t.thinkTime } =
        m.transitionDefects t := by
    intro i k t
    simp only [transitionDefects, hlength]
    rfl
  have hstate : ∀ i (s : MarkovState),
      (m.rethink τ).stateDefects services (s.rethink (τ i)) = m.stateDefects services s := by
    intro i s
    have htotal : total (s.rethink (τ i)) = total s := by
      have hprobabilities : (s.rethink (τ i)).transitions.map (·.probability) =
          s.transitions.map (·.probability) := by
        refine map_mapIdx_eq ?_ s.transitions
        exact fun _ _ => rfl
      rw [total_eq_leftSum, total_eq_leftSum, MarkovState.leftSum, MarkovState.leftSum,
        hprobabilities]
    have htransitions : (s.rethink (τ i)).transitions.flatMap (m.rethink τ).transitionDefects =
        s.transitions.flatMap m.transitionDefects :=
      flatMap_mapIdx_eq (htransition i) s.transitions
    rw [stateDefects, stateDefects, htotal, htransitions]
    rfl
  have hstates : (m.rethink τ).states.flatMap ((m.rethink τ).stateDefects services) =
      m.states.flatMap (m.stateDefects services) := flatMap_mapIdx_eq hstate m.states
  rw [validate, validate, defects, defects, hlength, hstates]
  rfl

theorem state?_rethink (i : ℕ) :
    (m.rethink τ).state? i = (m.state? i).map fun s => s.rethink (τ i) :=
  List.getElem?_mapIdx

/-- A transition leads into the same column, whatever its think time. -/
theorem columnOf?_rethink (t : MarkovTransition) (x : ThinkTime) :
    (m.rethink τ).columnOf? { t with thinkTime := x } = m.columnOf? t := by
  rw [columnOf?, columnOf?]
  cases t.target with
  | exit => rfl
  | state i =>
    rw [Column.ofTarget?, Column.ofTarget?, state?_rethink, Option.map_map]
    rfl

/-- The first state of a service has the same place. -/
theorem firstAt_states_rethink {service : String} {i : ℕ} {s' : MarkovState} :
    FirstAt (fun s => s.service = service) (m.rethink τ).states i s' ↔
      ∃ s, FirstAt (fun s => s.service = service) m.states i s ∧ s.rethink (τ i) = s' := by
  refine firstAt_mapIdx ?_
  exact fun _ _ => Iff.rfl

/-- So has the first transition into a column. -/
theorem feeds_rethink {i k : ℕ} {s : MarkovState} {column : Column} {t' : MarkovTransition} :
    (m.rethink τ).Feeds (s.rethink (τ i)) column k t' ↔
      ∃ t, m.Feeds s column k t ∧ { t with thinkTime := τ i k t.thinkTime } = t' :=
  firstAt_mapIdx fun _ t => by rw [columnOf?_rethink]

/-- **The same is found for a cell**, if what is shown there keeps its think time. -/
theorem transitionBetween?_rethink (hkeep : ∀ i k, m.ShownAt services i k → ∀ x, τ i k x = x)
    {r : Service} (hr : r ∈ services) {column : Column} (hcolumn : column ∈ Column.all services) :
    (m.rethink τ).transitionBetween? r.id column = m.transitionBetween? r.id column := by
  have hkept : ∀ i k s t, FirstAt (fun s => s.service = r.id) m.states i s →
      m.Feeds s column k t → { t with thinkTime := τ i k t.thinkTime } = t := by
    intro i k s t hs ht
    rw [hkeep i k ⟨r, hr, column, hcolumn, s, t, hs, ht⟩]
  ext t
  rw [transitionBetween?_eq_some_iff, transitionBetween?_eq_some_iff]
  constructor
  · rintro ⟨_, k, ⟨i, hs'⟩, ht'⟩
    obtain ⟨s, hs, rfl⟩ := firstAt_states_rethink.1 hs'
    obtain ⟨t, ht, rfl⟩ := feeds_rethink.1 ht'
    rw [hkept i k s t hs ht]
    exact ⟨s, k, ⟨i, hs⟩, ht⟩
  · rintro ⟨s, k, ⟨i, hs⟩, ht⟩
    refine ⟨_, k, ⟨i, firstAt_states_rethink.2 ⟨s, hs, rfl⟩⟩, ?_⟩
    exact feeds_rethink.2 ⟨t, ht, hkept i k s t hs ht⟩

end BehaviorModel

/-- **The formatter is chosen by the family of one think time**, that of the initial state's first
transition. -/
theorem MatrixBuilder.formatterFor_rethink {b : MatrixBuilder} {m : BehaviorModel}
    {τ : ℕ → ℕ → ThinkTime → ThinkTime}
    (hkind : ∀ i, m.initial = some i → ∀ x, (τ i 0 x).kind = x.kind) :
    b.formatterFor (m.rethink τ) = b.formatterFor m := by
  refine formatterFor_congr rfl ?_
  have hinitial : (m.rethink τ).initialState? = m.initial.bind (m.rethink τ).state? := rfl
  rw [BehaviorModel.firstThinkTime?, hinitial, BehaviorModel.firstThinkTime?,
    BehaviorModel.initialState?]
  cases hi : m.initial with
  | none => rfl
  | some i =>
    rw [Option.bind_some, Option.bind_some, BehaviorModel.state?_rethink]
    cases m.state? i with
    | none => rfl
    | some s =>
      rw [Option.map_some, Option.bind_some, Option.bind_some, MarkovState.rethink,
        List.head?_mapIdx]
      cases s.transitions.head? with
      | none => rfl
      | some t => exact congrArg some (hkind i hi t.thinkTime)

/-- **Think times that are not shown do not matter.** A build has the same result, matrix or error,
whatever the think times are of the transitions that no cell shows, as long as the same formatter is
chosen. -/
theorem MatrixBuilder.build_rethink {b : MatrixBuilder} {services : List Service}
    {initial : Option String} {m : BehaviorModel} {τ : ℕ → ℕ → ThinkTime → ThinkTime}
    (hkeep : ∀ i k, m.ShownAt services i k → ∀ x, τ i k x = x)
    (hformatter : b.formatterFor (m.rethink τ) = b.formatterFor m) :
    b.build services initial (m.rethink τ) = b.build services initial m := by
  have hview : BehaviorModel.SameView services m (m.rethink τ) :=
    ⟨rfl, rfl, fun r hr column hcolumn => by
      rw [BehaviorModel.transitionBetween?_rethink hkeep hr hcolumn]⟩
  rw [build_eq_fill, build_eq_fill, BehaviorModel.validate_rethink, fill_congr hview hformatter]

end LoadPlan
