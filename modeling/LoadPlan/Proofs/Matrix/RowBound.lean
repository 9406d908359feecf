import LoadPlan.Proofs.Matrix.Coverage
import LoadPlan.Proofs.Matrix.Shape
/-!
# What a row can add up to

A row is filled from one Markov state, the one that stands for its service. Over services with
distinct ids the columns are distinct, and a transition leads into one of them, so it feeds at most
one cell (`BehaviorModel.place_unique`). The cells of a row are then weights of different
transitions of the state, and zeros, and add up to no more than the state's own total
(`BehaviorModel.sum_found_le`). `MatrixBuilder.row_bound_of_build` reads all this off the texts of a
built matrix.
-/

namespace LoadPlan

/-- **The exact sum of the probabilities of a state.** -/
def MarkovState.exactTotal (s : MarkovState) : ℚ := (s.transitions.map MarkovTransition.weight).sum

namespace BehaviorModel

/-- **The sum check of validation, taken in exact arithmetic**: the probabilities of no state exceed
one by more than the tolerance. -/
def SumsExactly (m : BehaviorModel) : Prop := ∀ s ∈ m.states, s.exactTotal ≤ 1 + 1 / 10 ^ 9

/-- **A row is bounded by the state that stands for its service.** -/
structure RowBound (m : BehaviorModel) (services : List Service) (service : String)
    (row : List String) : Prop where
  /-- A transition feeds at most one cell. -/
  once : ∀ s, m.StandsFor service s → ∀ (i j k : ℕ) column column' t t',
    (Column.all services)[i]? = some column → (Column.all services)[j]? = some column' →
      m.Feeds s column k t → m.Feeds s column' k t' → i = j
  /-- A cell that a transition feeds has its probability. -/
  fed : ∀ s, m.StandsFor service s → ∀ (j k : ℕ) column t,
    (Column.all services)[j]? = some column → m.Feeds s column k t →
      row[j + 1]?.bind Cell.weight? = some t.weight
  /-- Every other cell has probability zero. -/
  unfed : ∀ (j : ℕ) column, (Column.all services)[j]? = some column →
    (∀ s k t, m.StandsFor service s → ¬ m.Feeds s column k t) →
      row[j + 1]?.bind Cell.weight? = some 0
  cells : ∀ cell ∈ row.tail, ∃ w, Cell.weight? cell = some w ∧ 0 ≤ w ∧ w ≤ 1
  /-- The row adds up to no more than the state, and to nothing without a state. -/
  total : ∃ total, BehaviorMatrix.total? row = some total ∧
    (∀ s, m.StandsFor service s → total ≤ s.exactTotal) ∧
    ((∀ s, ¬ m.StandsFor service s) → total = 0) ∧
    (m.SumsExactly → total ≤ 1 + 1 / 10 ^ 9)

variable {m : BehaviorModel} {services : List Service} {service : String}

/-- A state that stands for a service is one of the model. -/
theorem StandsFor.mem {s : MarkovState} (h : m.StandsFor service s) : s ∈ m.states := by
  obtain ⟨i, hfirst⟩ := h
  exact List.mem_of_getElem? hfirst.member

/-- **A transition feeds at most one column**, and so one place, if the ids of services are
distinct. -/
theorem place_unique (hids : (services.map (·.id)).Nodup) {s : MarkovState} {i j k : ℕ}
    {column column' : Column} {t t' : MarkovTransition}
    (hi : (Column.all services)[i]? = some column) (hj : (Column.all services)[j]? = some column')
    (h : m.Feeds s column k t) (h' : m.Feeds s column' k t') : i = j := by
  have ht : t = t' := Option.some.inj (h.member.symm.trans h'.member)
  have hcolumns : column = column' := by
    have hcolumn : m.columnOf? t = some column := h.holds
    have hcolumn' : m.columnOf? t' = some column' := h'.holds
    rw [← ht, hcolumn] at hcolumn'
    exact Option.some.inj hcolumn'
  obtain ⟨hlt, -⟩ := List.getElem?_eq_some_iff.1 hi
  exact (List.getElem?_inj hlt (Column.nodup_all hids)).1 (by rw [hi, hj, hcolumns])

/-- **What a build finds for a service weighs no more than the state** that stands for it. -/
theorem sum_found_le (hids : (services.map (·.id)).Nodup) (h : m.validate services = .ok ())
    {s : MarkovState} (hs : m.StandsFor service s) :
    ((Column.all services).map fun column =>
      ((m.transitionBetween? service column).map MarkovTransition.weight).getD 0).sum ≤
        s.exactTotal := by
  have hstate : m.stateForService? service = some s := stateForService?_eq_some_iff.2 hs
  have hsum := sum_transitionInto?_add_sum_repeats MarkovTransition.weight
    (Column.nodup_all hids) fun t ht => exists_columnOf? h hs.mem ht
  have hrepeats : 0 ≤ ((repeats m.columnOf? [] s.transitions).map MarkovTransition.weight).sum := by
    refine List.sum_nonneg (List.forall_mem_map.2 fun t ht => Decimal.exactly_nonneg ?_)
    exact (validState_of_validate h hs.mem).probabilities t (mem_of_mem_repeats ht)
  simp only [transitionBetween?, hstate, Option.bind_some]
  rw [MarkovState.exactTotal, ← hsum]
  exact le_add_of_nonneg_right hrepeats

/-- Nothing is found for a service without a state. -/
theorem sum_found_eq_zero (hs : ∀ s, ¬ m.StandsFor service s) :
    ((Column.all services).map fun column =>
      ((m.transitionBetween? service column).map MarkovTransition.weight).getD 0).sum = 0 := by
  refine List.sum_eq_zero (List.forall_mem_map.2 fun column _ => ?_)
  rw [transitionBetween?_eq_none_iff.2 fun s _ _ hstands => absurd hstands (hs s)]
  rfl

end BehaviorModel

namespace MatrixBuilder

variable {b : MatrixBuilder} {services : List Service} {initial : Option String}
  {model : BehaviorModel} {m : BehaviorMatrix} {f : Formatter}

/-- A cell of a row weighs what is found for it. -/
theorem weight?_of_row (hmodel : model.validate services = .ok ()) {s : Service} {row : List String}
    (h : b.row services initial model f s = .ok row) {j : ℕ} {column : Column}
    (hj : (Column.all services)[j]? = some column) :
    row[j + 1]?.bind Cell.weight? =
      some (((model.transitionBetween? s.id column).map MarkovTransition.weight).getD 0) := by
  obtain ⟨cell, hcell, hmade⟩ := exists_cell_of_row h hj
  rw [hcell, Option.bind_some]
  exact weight?_cell (fun _ => BehaviorModel.isProbability_of_transitionBetween? hmodel) hmade

/-- The weight of what is found is a probability. -/
theorem weight_found_bounds (hmodel : model.validate services = .ok ()) (service : String)
    (column : Column) :
    0 ≤ ((model.transitionBetween? service column).map MarkovTransition.weight).getD 0 ∧
      ((model.transitionBetween? service column).map MarkovTransition.weight).getD 0 ≤ 1 := by
  cases hfound : model.transitionBetween? service column with
  | none => exact ⟨le_refl 0, zero_le_one⟩
  | some t =>
    have hprobability := BehaviorModel.isProbability_of_transitionBetween? hmodel hfound
    exact ⟨Decimal.exactly_nonneg hprobability, Decimal.exactly_le_one hprobability⟩

/-- **A row that is made is bounded** by the state of its service. -/
theorem rowBound_of_row (hids : (services.map (·.id)).Nodup)
    (hmodel : model.validate services = .ok ()) {s : Service} {row : List String}
    (h : b.row services initial model f s = .ok row) :
    model.RowBound services s.id row := by
  refine ⟨fun st _ i j k column column' t t' hi hj => BehaviorModel.place_unique hids hi hj,
    fun st hst j k column t hj hfeeds => ?_, fun j column hj hunfed => ?_, fun cell hcell => ?_,
    _, total?_row hmodel h, fun st hst => BehaviorModel.sum_found_le hids hmodel hst,
    BehaviorModel.sum_found_eq_zero, fun hexact => ?_⟩
  · rw [weight?_of_row hmodel h hj,
      BehaviorModel.transitionBetween?_eq_some_iff.2 ⟨st, k, hst, hfeeds⟩]
    rfl
  · rw [weight?_of_row hmodel h hj, BehaviorModel.transitionBetween?_eq_none_iff.2 hunfed]
    rfl
  · obtain ⟨cells, hrow, hcells⟩ := row_eq_ok_iff.1 h
    rw [hrow, List.tail_cons] at hcell
    obtain ⟨column, -, hmade⟩ := exists_of_mem_of_forall₂ hcells hcell
    exact ⟨_, weight?_cell (fun _ => BehaviorModel.isProbability_of_transitionBetween? hmodel) hmade,
      weight_found_bounds hmodel s.id column⟩
  · by_cases hst : ∃ st, model.StandsFor s.id st
    · obtain ⟨st, hst⟩ := hst
      exact (BehaviorModel.sum_found_le hids hmodel hst).trans (hexact st hst.mem)
    · rw [BehaviorModel.sum_found_eq_zero (not_exists.1 hst)]
      norm_num

/-- **Every row of a built matrix is bounded** by the state of its service, if the ids of services
are distinct. -/
theorem row_bound_of_build (hids : (services.map (·.id)).Nodup)
    (h : b.build services initial model = .ok m) :
    List.Forall₂ (fun s row => model.RowBound services s.id row) services m.body := by
  obtain ⟨-, hmodel, f, -, -, rows, hrows, rfl⟩ := build_eq_ok_iff.1 h
  exact hrows.imp fun s row hrow => rowBound_of_row hids hmodel hrow

/-- Of the `0.9375` that the first state of the roundabout adds up to, its row has `0.875`. -/
theorem row_bound_of_build_roundabout :
    ([.named "a", .named "b", .named "c"].map Service.id).Nodup ∧ roundabout.SumsExactly ∧
      ∃ m row, standard.build [.named "a", .named "b", .named "c"] (some "a") roundabout = .ok m ∧
        m.body[0]? = some row ∧ BehaviorMatrix.total? row = some (7 / 8) ∧
        roundabout.RowBound [.named "a", .named "b", .named "c"] "a" row := by
  have hids : ([.named "a", .named "b", .named "c"].map Service.id).Nodup := by decide
  have hexact : roundabout.SumsExactly := by
    unfold BehaviorModel.SumsExactly
    decide +kernel
  have hshown : (standard.build [.named "a", .named "b", .named "c"] (some "a")
      roundabout).toOption.map (fun m => (m.body[0]?).bind BehaviorMatrix.total?) =
        some (some (7 / 8)) := by
    decide +kernel
  obtain ⟨m, hbuilt, htotal⟩ := exists_eq_ok_of_toOption_map hshown
  obtain ⟨row, hrow, htotal⟩ := Option.bind_eq_some_iff.1 htotal
  have hbounds := row_bound_of_build hids hbuilt
  obtain ⟨hlt, rfl⟩ := List.getElem?_eq_some_iff.1 hrow
  exact ⟨hids, hexact, m, _, hbuilt, hrow, htotal, List.Forall₂.get hbounds (by decide) hlt⟩

end MatrixBuilder

end LoadPlan
