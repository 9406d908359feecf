import LoadPlan.Proofs.Behavior.Defects
import LoadPlan.Proofs.Matrix.Cells
import LoadPlan.Proofs.Matrix.FirstMatch
import LoadPlan.Proofs.Matrix.ReadBack
/-!
# What a matrix shows of its model

A model is declared by states, a matrix is read by services. `Covers` says that the matrix shows
all of the model: every declared transition stands in its cell, and every row weighs what is
declared for its service. A row weighs what the searches of a build find, so the rows lack exactly
the transitions that these pass over (`total?_row_add_dropped`), and a matrix covers its model if and
only if what they pass over weighs nothing and is written as what they find (`covers_iff`).
Validation does not look for such transitions, so a model can lose them (`not_covers_forked`).
-/

namespace LoadPlan

/-! ## Valid states -/

namespace BehaviorModel

/-- **What validation sees to in a state**: its service is declared, its targets exist, and its
probabilities are some. -/
structure ValidState (m : BehaviorModel) (services : List Service) (s : MarkovState) : Prop where
  service : ∃ r ∈ services, r.id = s.service
  targets : ∀ t ∈ s.transitions, ∀ i, t.target = .state i → i < m.states.length
  probabilities : ∀ t ∈ s.transitions, isProbability t.probability

variable {m : BehaviorModel} {services : List Service}

theorem validState_of_validate (h : m.validate services = .ok ()) {s : MarkovState}
    (hs : s ∈ m.states) : m.ValidState services s := by
  obtain ⟨-, hwell⟩ := validate_eq_ok_iff_wellFormed.1 h
  have hstate := hwell.states s hs
  refine ⟨hstate.service, fun t ht i hi => ?_, fun t ht => ?_⟩
  · obtain hexit | ⟨j, hj, hlt⟩ := (hstate.transitions t ht).target
    · cases hi.symm.trans hexit
    · cases hi.symm.trans hj
      exact hlt
  · exact isProbability_iff.2 (hstate.transitions t ht).probability

/-- Every transition of a valid model leads into a column. -/
theorem exists_columnOf? (h : m.validate services = .ok ()) {s : MarkovState} (hs : s ∈ m.states)
    {t : MarkovTransition} (ht : t ∈ s.transitions) :
    ∃ column ∈ Column.all services, m.columnOf? t = some column := by
  rw [columnOf?]
  cases htarget : t.target with
  | exit => exact ⟨.exit, Column.exit_mem_all, rfl⟩
  | state i =>
    have hlt := (validState_of_validate h hs).targets t ht i htarget
    have hi : m.state? i = some m.states[i] := List.getElem?_eq_getElem hlt
    refine ⟨.service m.states[i].service, ?_, by rw [Column.ofTarget?, hi, Option.map_some]⟩
    exact Column.service_mem_all.2 (validState_of_validate h (List.getElem_mem hlt)).service

/-- What a build finds is declared. -/
theorem mem_declared_of_transitionBetween? {service : String} {column : Column}
    {t : MarkovTransition} (h : m.transitionBetween? service column = some t) :
    t ∈ m.declared service := by
  obtain ⟨s, hs, ht⟩ := Option.bind_eq_some_iff.1 h
  exact mem_declared.2 ⟨s, List.mem_of_find?_eq_some hs, by simpa using List.find?_some hs,
    List.mem_of_find?_eq_some ht⟩

/-- What a build finds has a probability. -/
theorem isProbability_of_transitionBetween? (h : m.validate services = .ok ()) {service : String}
    {column : Column} {t : MarkovTransition} (ht : m.transitionBetween? service column = some t) :
    isProbability t.probability := by
  obtain ⟨s, hs, -, hmem⟩ := mem_declared.1 (mem_declared_of_transitionBetween? ht)
  exact (validState_of_validate h hs).probabilities t hmem

end BehaviorModel

/-! ## Exact weights -/

/-- The exact probability that a cell shows. -/
def Cell.weight? (cell : String) : Option ℚ :=
  (split? cell).map fun parts => Decimal.exactly parts.1

/-- **The exact sum of the probabilities in a row**, which has its label first. -/
def BehaviorMatrix.total? (row : List String) : Option ℚ :=
  (row.tail.mapM Cell.weight?).map List.sum

/-- The exact probability of a transition. -/
def MarkovTransition.weight (t : MarkovTransition) : ℚ := Decimal.exactly t.probability

/-- A written cell shows the probability it was written from. -/
theorem Cell.weight?_write {p : Float} (hp : Decimal.isFinite p) (thinkTime : String) :
    weight? (write p thinkTime) = some (Decimal.exactly p) := by
  rw [weight?, split?_write hp, Option.map_some]

/-! ## Showing a model -/

/-- **The cell stands in the row of the service and in the column.** -/
def BehaviorMatrix.Holds (m : BehaviorMatrix) (services : List Service) (service : String)
    (column : Column) (cell : String) : Prop :=
  ∃ (k j : Nat) (s : Service) (row : List String), services[k]? = some s ∧ s.id = service ∧
    (Column.all services)[j]? = some column ∧ m.body[k]? = some row ∧ row[j + 1]? = some cell

namespace MatrixBuilder

/-- The text that a build writes for a transition, or for none. -/
def rendering (b : MatrixBuilder) (model : BehaviorModel) (t : Option MarkovTransition) :
    Except MatrixError String := do
  let f ← b.formatterFor model
  MatrixBuilder.cell model f t

/-- **The matrix shows all of the model**: every transition stands in its cell, and every row
weighs what is declared for its service. -/
structure Covers (b : MatrixBuilder) (services : List Service) (model : BehaviorModel)
    (m : BehaviorMatrix) : Prop where
  cells : ∀ s ∈ model.states, ∀ t ∈ s.transitions, ∃ column cell,
    model.columnOf? t = some column ∧ m.Holds services s.service column cell ∧
      b.rendering model (some t) = .ok cell
  totals : ∀ (k : Nat) (s : Service), services[k]? = some s → ∃ row, m.body[k]? = some row ∧
    BehaviorMatrix.total? row = some ((model.declared s.id).map MarkovTransition.weight).sum

variable {b : MatrixBuilder} {services : List Service} {initial : Option String}
  {model : BehaviorModel} {m : BehaviorMatrix} {f : Formatter}

/-- A cell weighs what the transition weighs that it was made for, and nothing if there is none. -/
theorem weight?_cell {found : Option MarkovTransition} {text : String}
    (hfound : ∀ t, found = some t → BehaviorModel.isProbability t.probability)
    (h : MatrixBuilder.cell model f found = .ok text) :
    Cell.weight? text = some ((found.map MarkovTransition.weight).getD 0) := by
  rcases cell_eq_ok_iff.1 h with ⟨rfl, rfl⟩ | ⟨t, thinkTime, rfl, -, rfl⟩
  · have hzero : Decimal.isFinite 0.0 := Decimal.isFinite_of_isProbability (by decide)
    rw [Cell.weight?_write hzero]
    rfl
  · exact Cell.weight?_write (Decimal.isFinite_of_isProbability (hfound t rfl)) _

/-- A row weighs what its cells weigh together. -/
theorem total?_row {s : Service} {row : List String} (hmodel : model.validate services = .ok ())
    (h : b.row services initial model f s = .ok row) :
    BehaviorMatrix.total? row = some ((Column.all services).map fun column =>
      ((model.transitionBetween? s.id column).map MarkovTransition.weight).getD 0).sum := by
  obtain ⟨cells, rfl, hcells⟩ := row_eq_ok_iff.1 h
  clear h
  have hweights : cells.mapM Cell.weight? = some ((Column.all services).map fun column =>
      ((model.transitionBetween? s.id column).map MarkovTransition.weight).getD 0) := by
    generalize Column.all services = columns at hcells
    induction hcells with
    | nil => rfl
    | @cons column cell columns cells hcell _ ih =>
      have hweight := weight?_cell
        (fun _ => BehaviorModel.isProbability_of_transitionBetween? hmodel) hcell
      rw [List.mapM_cons, hweight, ih]
      rfl
  rw [BehaviorMatrix.total?, List.tail_cons, hweights, Option.map_some]

/-- **A row lacks exactly the transitions that are passed over.** -/
theorem total?_row_add_dropped (hids : (services.map (·.id)).Nodup) {s : Service}
    {row : List String} (hmodel : model.validate services = .ok ())
    (h : b.row services initial model f s = .ok row) :
    ∃ total, BehaviorMatrix.total? row = some total ∧
      total + ((model.dropped s.id).map MarkovTransition.weight).sum =
        ((model.declared s.id).map MarkovTransition.weight).sum := by
  refine ⟨_, total?_row hmodel h, ?_⟩
  refine BehaviorModel.sum_found_add_sum_dropped _ (Column.nodup_all hids) fun t ht => ?_
  obtain ⟨st, hst, -, hmem⟩ := BehaviorModel.mem_declared.1 ht
  exact BehaviorModel.exists_columnOf? hmodel hst hmem

/-! ## Cells by service and column -/

theorem rendering_eq (hf : b.formatterFor model = .ok f) (t : Option MarkovTransition) :
    b.rendering model t = MatrixBuilder.cell model f t := by
  rw [rendering, hf]
  rfl

/-- **In a row and a column stands what the searches find there.** -/
theorem holds_iff (h : b.build services initial model = .ok m) {s : Service} (hs : s ∈ services)
    {column : Column} (hcolumn : column ∈ Column.all services) {cell : String} :
    m.Holds services s.id column cell ↔
      b.rendering model (model.transitionBetween? s.id column) = .ok cell := by
  obtain ⟨-, -, f, hf, -⟩ := build_eq_ok_iff.1 h
  rw [rendering_eq hf]
  constructor
  · rintro ⟨k, j, s', row, hk, hid, hj, hrow, hcell⟩
    obtain ⟨row', hrow', hmade⟩ := exists_row_of_build h hf hk
    rw [hrow] at hrow'
    cases hrow'
    obtain ⟨cell', hcell', hshown⟩ := exists_cell_of_row hmade hj
    rw [hcell] at hcell'
    cases hcell'
    rw [← hid]
    exact hshown
  · intro hcell
    obtain ⟨k, hk⟩ := List.mem_iff_getElem?.1 hs
    obtain ⟨j, hj⟩ := List.mem_iff_getElem?.1 hcolumn
    obtain ⟨row, hrow, hmade⟩ := exists_row_of_build h hf hk
    obtain ⟨cell', hcell', hshown⟩ := exists_cell_of_row hmade hj
    cases hcell.symm.trans hshown
    exact ⟨k, j, s, row, hk, rfl, hj, hrow, hcell'⟩

/-- Something stands in every row and column. -/
theorem exists_rendering_of_build (h : b.build services initial model = .ok m) {s : Service}
    (hs : s ∈ services) {column : Column} (hcolumn : column ∈ Column.all services) :
    ∃ cell, b.rendering model (model.transitionBetween? s.id column) = .ok cell := by
  obtain ⟨-, -, f, hf, -⟩ := build_eq_ok_iff.1 h
  obtain ⟨k, hk⟩ := List.mem_iff_getElem?.1 hs
  obtain ⟨j, hj⟩ := List.mem_iff_getElem?.1 hcolumn
  obtain ⟨row, -, hmade⟩ := exists_row_of_build h hf hk
  obtain ⟨cell, -, hshown⟩ := exists_cell_of_row hmade hj
  rw [rendering_eq hf]
  exact ⟨cell, hshown⟩

/-! ## Exactly when a matrix shows its model -/

/-- **What is passed over for a service is not missed**: it weighs nothing, and is written as what
stands in its place. -/
def SparesDropped (b : MatrixBuilder) (model : BehaviorModel) (service : String) : Prop :=
  ∀ t ∈ model.dropped service, t.weight = 0 ∧ ∃ column, model.columnOf? t = some column ∧
    b.rendering model (some t) = b.rendering model (model.transitionBetween? service column)

/-- A sum of probabilities is nothing if each of them is. -/
theorem sum_weight_eq_zero_iff {ts : List MarkovTransition}
    (h : ∀ t ∈ ts, BehaviorModel.isProbability t.probability) :
    (ts.map MarkovTransition.weight).sum = 0 ↔ ∀ t ∈ ts, t.weight = 0 := by
  have hnonneg : ∀ w ∈ ts.map MarkovTransition.weight, 0 ≤ w :=
    List.forall_mem_map.2 fun t ht => Decimal.exactly_nonneg (h t ht)
  constructor
  · exact fun hsum t ht =>
      List.all_zero_of_le_zero_le_of_sum_eq_zero hnonneg hsum (List.mem_map_of_mem ht)
  · intro hzero
    exact List.sum_eq_zero (List.forall_mem_map.2 hzero)

/-- A row weighs all that is declared if and only if what is passed over weighs nothing. -/
theorem total?_eq_declared_iff (hids : (services.map (·.id)).Nodup)
    (h : b.build services initial model = .ok m) {k : Nat} {s : Service}
    (hs : services[k]? = some s) :
    (∃ row, m.body[k]? = some row ∧
      BehaviorMatrix.total? row = some ((model.declared s.id).map MarkovTransition.weight).sum) ↔
        ∀ t ∈ model.dropped s.id, t.weight = 0 := by
  obtain ⟨-, hmodel, f, hf, -⟩ := build_eq_ok_iff.1 h
  obtain ⟨row, hrow, hmade⟩ := exists_row_of_build h hf hs
  obtain ⟨total, htotal, hsum⟩ := total?_row_add_dropped hids hmodel hmade
  have hprobability : ∀ t ∈ model.dropped s.id, BehaviorModel.isProbability t.probability := by
    intro t ht
    obtain ⟨st, hst, -, hmem⟩ :=
      BehaviorModel.mem_declared.1 (BehaviorModel.mem_declared_of_mem_dropped ht)
    exact (BehaviorModel.validState_of_validate hmodel hst).probabilities t hmem
  rw [← sum_weight_eq_zero_iff hprobability]
  constructor
  · rintro ⟨row', hrow', htotal'⟩
    rw [hrow] at hrow'
    cases hrow'
    rw [htotal] at htotal'
    cases htotal'
    linarith
  · intro hzero
    rw [hzero, add_zero] at hsum
    exact ⟨row, hrow, hsum ▸ htotal⟩

/-- A transition stands in its cell if and only if it is written as what the searches find there. -/
theorem exists_cell_iff (h : b.build services initial model = .ok m) {st : MarkovState}
    (hst : st ∈ model.states) {t : MarkovTransition} (ht : t ∈ st.transitions) :
    (∃ column cell, model.columnOf? t = some column ∧ m.Holds services st.service column cell ∧
      b.rendering model (some t) = .ok cell) ↔
        ∃ column, model.columnOf? t = some column ∧
          b.rendering model (some t) =
            b.rendering model (model.transitionBetween? st.service column) := by
  obtain ⟨-, hmodel, -⟩ := build_eq_ok_iff.1 h
  obtain ⟨s, hs, hid⟩ := (BehaviorModel.validState_of_validate hmodel hst).service
  obtain ⟨column, hin, hcolumn⟩ := BehaviorModel.exists_columnOf? hmodel hst ht
  have hholds : ∀ cell, m.Holds services st.service column cell ↔
      b.rendering model (model.transitionBetween? st.service column) = .ok cell := by
    intro cell
    rw [← hid]
    exact holds_iff h hs hin
  constructor
  · rintro ⟨column', cell, hcolumn', hcell, hwritten⟩
    rw [hcolumn] at hcolumn'
    cases hcolumn'
    exact ⟨column, hcolumn, hwritten.trans ((hholds cell).1 hcell).symm⟩
  · rintro ⟨column', hcolumn', hsame⟩
    rw [hcolumn] at hcolumn'
    cases hcolumn'
    obtain ⟨cell, hcell⟩ := exists_rendering_of_build h hs hin
    rw [hid] at hcell
    exact ⟨column, cell, hcolumn, (hholds cell).2 hcell, hsame.trans hcell⟩

/-- **A matrix shows all of its model if and only if what a build passes over is not missed.** So it
does when no service has two states, and no state two transitions into one column. -/
theorem covers_iff (hids : (services.map (·.id)).Nodup)
    (h : b.build services initial model = .ok m) :
    (b.Covers services model m ↔ ∀ s ∈ services, b.SparesDropped model s.id) ∧
      ((model.states.map (·.service)).Nodup →
        (∀ s ∈ model.states, (s.transitions.map model.columnOf?).Nodup) →
          b.Covers services model m) := by
  obtain ⟨-, hmodel, -⟩ := build_eq_ok_iff.1 h
  have hiff : b.Covers services model m ↔ ∀ s ∈ services, b.SparesDropped model s.id := by
    constructor
    · intro hcovers s hs t ht
      obtain ⟨k, hk⟩ := List.mem_iff_getElem?.1 hs
      obtain ⟨st, hst, hservice, hmem⟩ :=
        BehaviorModel.mem_declared.1 (BehaviorModel.mem_declared_of_mem_dropped ht)
      refine ⟨(total?_eq_declared_iff hids h hk).1 (hcovers.totals k s hk) t ht, ?_⟩
      rw [← hservice]
      exact (exists_cell_iff h hst hmem).1 (hcovers.cells st hst t hmem)
    · intro hspares
      refine ⟨fun st hst t ht => (exists_cell_iff h hst ht).2 ?_, fun k s hk =>
        (total?_eq_declared_iff hids h hk).2 fun t ht => (hspares s (List.mem_of_getElem? hk) t ht).1⟩
      obtain ⟨s, hs, hid⟩ := (BehaviorModel.validState_of_validate hmodel hst).service
      rw [← hid]
      -- a declared transition is passed over, or it is what the searches find
      have hdeclared : t ∈ model.declared s.id :=
        BehaviorModel.mem_declared.2 ⟨st, hst, hid.symm, ht⟩
      rcases BehaviorModel.mem_dropped_or_found hdeclared with hdropped | hfound
      · exact (hspares s hs t hdropped).2
      · obtain ⟨column, -, hcolumn⟩ := BehaviorModel.exists_columnOf? hmodel hst ht
        exact ⟨column, hcolumn, by rw [hfound column hcolumn]⟩
  refine ⟨hiff, fun hstates hcolumns => hiff.2 fun s _ t ht => ?_⟩
  rw [BehaviorModel.dropped_eq_nil hstates hcolumns] at ht
  cases ht

/-- The matrix of the commuter shows how either service is left. -/
theorem covers_iff_commuter :
    ([⟨"h", "Home"⟩, ⟨"w", "Work"⟩].map Service.id).Nodup ∧
      ∃ m, standard.build [⟨"h", "Home"⟩, ⟨"w", "Work"⟩] (some "h") commuter = .ok m ∧
        standard.Covers [⟨"h", "Home"⟩, ⟨"w", "Work"⟩] commuter m ∧
        standard.SparesDropped commuter "h" := by
  have hids : ([⟨"h", "Home"⟩, ⟨"w", "Work"⟩].map Service.id).Nodup := by decide
  have hbuilt : (standard.build [⟨"h", "Home"⟩, ⟨"w", "Work"⟩] (some "h") commuter).toBool := by
    decide +kernel
  cases h : standard.build [⟨"h", "Home"⟩, ⟨"w", "Work"⟩] (some "h") commuter with
  | error e =>
    rw [h] at hbuilt
    cases hbuilt
  | ok m =>
    obtain ⟨hiff, hcovers⟩ := covers_iff hids h
    have hall := hcovers (by decide) (by decide)
    exact ⟨hids, m, rfl, hall, hiff.1 hall ⟨"h", "Home"⟩ (by decide)⟩

/-- A model with two states of the service `a`: one is left for good, the other for `b`. -/
def forked : BehaviorModel where
  name := "forked"
  filename := "forked.csv"
  states := [
    ⟨"a", [⟨0.25, .exit, .normal 1.0 1.0⟩]⟩,
    ⟨"a", [⟨0.5, .state 2, .normal 1.0 1.0⟩]⟩,
    ⟨"b", [⟨1.0, .exit, .normal 1.0 1.0⟩]⟩]
  initial := some 0

/-- Its matrix is built, and says that no one goes from `a` to `b`. -/
theorem not_covers_forked :
    ([Service.named "a", Service.named "b"].map (·.id)).Nodup ∧
      ∃ m, standard.build [.named "a", .named "b"] none forked = .ok m ∧
        m.rows = [["", "a", "b", "$"], ["a", "0.0; n(0 0)", "0.0; n(0 0)", "0.25; n(1 1)"],
          ["b", "0.0; n(0 0)", "0.0; n(0 0)", "1.0; n(1 1)"]] ∧
        ¬ standard.Covers [.named "a", .named "b"] forked m := by
  have hrows : (standard.build [.named "a", .named "b"] none forked).toOption.map (·.rows) =
      some [["", "a", "b", "$"], ["a", "0.0; n(0 0)", "0.0; n(0 0)", "0.25; n(1 1)"],
        ["b", "0.0; n(0 0)", "0.0; n(0 0)", "1.0; n(1 1)"]] := by decide +kernel
  refine ⟨by decide, ?_⟩
  cases h : standard.build [.named "a", .named "b"] none forked with
  | error e =>
    rw [h] at hrows
    cases hrows
  | ok m =>
    rw [h] at hrows
    refine ⟨m, rfl, Option.some.inj hrows, fun hcovers => ?_⟩
    obtain ⟨column, cell, hcolumn, hholds, hcell⟩ := hcovers.cells
      ⟨"a", [⟨0.5, .state 2, .normal 1.0 1.0⟩]⟩ (by simp [forked]) ⟨0.5, .state 2, .normal 1.0 1.0⟩
      (by simp)
    cases hcolumn
    have hfound := (holds_iff (s := .named "a") h (by decide) (by decide)).1 hholds
    have htexts : (standard.rendering forked (some ⟨0.5, .state 2, .normal 1.0 1.0⟩)).toOption ≠
        (standard.rendering forked (forked.transitionBetween? "a" (.service "b"))).toOption := by
      decide +kernel
    exact htexts (congrArg Except.toOption (hcell.trans hfound.symm))

end MatrixBuilder

end LoadPlan
