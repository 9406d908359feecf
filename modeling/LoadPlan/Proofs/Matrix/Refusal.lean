import LoadPlan.Proofs.Matrix.ReadBack
import LoadPlan.Proofs.Matrix.View
/-!
# When a matrix is built, and what for it is refused

A matrix needs a layout, a model, a formatter, labels and think times that all pass
(`MatrixBuilder.Buildable`), and it is refused for the first of them that does not
(`MatrixBuilder.Refuses`). Only the think times that some cell selects are asked for, row by row
(`BehaviorModel.FirstUnwritten`), and that of the initial state's first transition, which chooses
the formatter even where no cell selects it. `MatrixBuilder.verdict_of_build` puts this together.
-/

namespace LoadPlan

/-! ## What is asked for -/

/-- **A label that fits into a line**: it has no delimiter and no line break. -/
def FitsLine (delimiter : Char) (label : String) : Prop :=
  delimiter ∉ label.toList ∧ '\n' ∉ label.toList ∧ '\r' ∉ label.toList

instance (delimiter : Char) (label : String) : Decidable (FitsLine delimiter label) :=
  inferInstanceAs (Decidable (_ ∧ _ ∧ _))

namespace BehaviorModel

/-- **The first transition of a model** is that of its initial state. -/
def StartsWith (m : BehaviorModel) (t : MarkovTransition) : Prop :=
  ∃ i s, m.initial = some i ∧ m.state? i = some s ∧ s.transitions.head? = some t

/-- **The cell in row `i` and column `j` selects a transition**, the one that feeds it. -/
def Selects (m : BehaviorModel) (services : List Service) (i j : ℕ) (t : MarkovTransition) : Prop :=
  ∃ r column, services[i]? = some r ∧ (Column.all services)[j]? = some column ∧
    ∃ s k, m.StandsFor r.id s ∧ m.Feeds s column k t

/-- **The first cell that a formatter does not write** is the one in row `i` and column `j`, for a
transition. Cells are gone through row by row. -/
structure FirstUnwritten (m : BehaviorModel) (services : List Service) (f : Formatter) (i j : ℕ)
    (t : MarkovTransition) : Prop where
  selects : m.Selects services i j t
  unknown : f.format t.thinkTime = none
  before : ∀ i' j' t', i' < i ∨ (i' = i ∧ j' < j) → m.Selects services i' j' t' →
    f.format t'.thinkTime ≠ none

end BehaviorModel

namespace MatrixBuilder

/-- **What a matrix needs**, in the order in which it is asked for. -/
structure Buildable (b : MatrixBuilder) (services : List Service) (initial : Option String)
    (m : BehaviorModel) : Prop where
  layout : b.config.validate = .ok ()
  valid : m.validate services = .ok ()
  transition : ∃ t, m.StartsWith t
  /-- A formatter is registered for the first transition. -/
  formatter : ∀ t, m.StartsWith t → ∃ f, b.formatters.get? t.thinkTime.kind = some f
  labels : ∀ r ∈ services, FitsLine b.config.delimiter (b.label initial r)
  /-- It writes all think times that some cell selects. -/
  thinkTimes : ∀ f, b.Chooses m f → ∀ i j t, m.Selects services i j t →
    f.format t.thinkTime ≠ none

/-- **What a matrix is refused for**, the first of its needs that is not met. -/
inductive Refuses (b : MatrixBuilder) (services : List Service) (initial : Option String)
    (m : BehaviorModel) : MatrixError → Prop
  /-- The layout does not pass. -/
  | layout {e : MatrixError} :
      b.config.validate = .error e → Refuses b services initial m e
  /-- The model does not pass. -/
  | invalid {e : ModelError} :
      b.config.validate = .ok () → m.validate services = .error e →
      Refuses b services initial m (.badModel e)
  /-- The initial state leads nowhere. -/
  | noTransition :
      b.config.validate = .ok () → m.validate services = .ok () →
      (∀ t, ¬ m.StartsWith t) →
      Refuses b services initial m (.emptyInitialState m.name)
  /-- No formatter is registered for the first transition. -/
  | noFormatter {t : MarkovTransition} :
      b.config.validate = .ok () → m.validate services = .ok () →
      m.StartsWith t → b.formatters.get? t.thinkTime.kind = none →
      Refuses b services initial m (.unknownThinkTime m.name t.thinkTime.kind)
  /-- Service number `k` is the first one whose label does not fit into a line. -/
  | label {f : Formatter} {k : ℕ} {r : Service} :
      b.config.validate = .ok () → m.validate services = .ok () → b.Chooses m f →
      FirstAt (fun r => ¬ FitsLine b.config.delimiter (b.label initial r)) services k r →
      Refuses b services initial m
        (.unrepresentableLabel m.name (b.label initial r) b.config.delimiter)
  /-- The cell in row `i` and column `j` is the first one that the formatter does not write. -/
  | cell {f : Formatter} {i j : ℕ} {t : MarkovTransition} :
      b.config.validate = .ok () → m.validate services = .ok () → b.Chooses m f →
      (∀ r ∈ services, FitsLine b.config.delimiter (b.label initial r)) →
      m.FirstUnwritten services f i j t →
      Refuses b services initial m (.unknownThinkTime m.name t.thinkTime.kind)

end MatrixBuilder

/-! ## The layout, the formatter and the labels -/

/-- A layout fails for one of its faults. -/
theorem MatrixConfig.exists_fault_of_validate {config : MatrixConfig} {e : MatrixError}
    (h : config.validate = .error e) : ∃ fault, e = .badLayout fault := by
  unfold validate at h
  split at h
  · cases h
  · next fault _ _ =>
    cases h
    exact ⟨fault, rfl⟩

variable {b : MatrixBuilder} {services : List Service} {initial : Option String}
  {m : BehaviorModel} {f : Formatter} {e : MatrixError}

theorem breaksLine_eq_decide (d : Char) (s : String) : breaksLine d s = decide (¬ FitsLine d s) := by
  rw [Bool.eq_iff_iff, decide_eq_true_eq, FitsLine, ← breaksLine_eq_false_iff]
  simp

theorem BehaviorModel.startsWith_iff {t : MarkovTransition} :
    m.StartsWith t ↔ (m.initialState?.bind fun s => s.transitions.head?) = some t := by
  simp only [StartsWith, initialState?, Option.bind_eq_some_iff]
  constructor
  · rintro ⟨i, s, hi, hs, ht⟩
    exact ⟨s, ⟨i, hi, hs⟩, ht⟩
  · rintro ⟨s, ⟨i, hi, hs⟩, ht⟩
    exact ⟨i, s, hi, hs, ht⟩

/-- A model starts with one transition. -/
theorem BehaviorModel.StartsWith.unique {t t' : MarkovTransition} (h : m.StartsWith t)
    (h' : m.StartsWith t') : t = t' :=
  Option.some.inj ((startsWith_iff.1 h).symm.trans (startsWith_iff.1 h'))

namespace MatrixBuilder

theorem chooses_iff :
    b.Chooses m f ↔ ∃ t, m.StartsWith t ∧ b.formatters.get? t.thinkTime.kind = some f := by
  constructor
  · rintro ⟨i, s, t, hi, hs, ht, hget⟩
    exact ⟨t, ⟨i, s, hi, hs, ht⟩, hget⟩
  · rintro ⟨t, ⟨i, s, hi, hs, ht⟩, hget⟩
    exact ⟨i, s, t, hi, hs, ht, hget⟩

/-- No formatter is chosen without a first transition, or without one registered for it. -/
theorem formatterFor_eq_error_iff :
    b.formatterFor m = .error e ↔
      ((∀ t, ¬ m.StartsWith t) ∧ e = .emptyInitialState m.name) ∨
        ∃ t, m.StartsWith t ∧ b.formatters.get? t.thinkTime.kind = none ∧
          e = .unknownThinkTime m.name t.thinkTime.kind := by
  simp only [BehaviorModel.startsWith_iff, formatterFor]
  cases m.initialState?.bind fun s => s.transitions.head? with
  | none => simp [eq_comm]
  | some t => cases h : b.formatters.get? t.thinkTime.kind <;> simp [h, eq_comm]

/-- Labels are refused for the first one that does not fit into a line. -/
theorem checkLabels_eq_error_iff :
    b.checkLabels m (services.map (b.label initial)) = .error e ↔
      ∃ k r, FirstAt (fun r => ¬ FitsLine b.config.delimiter (b.label initial r)) services k r ∧
        e = .unrepresentableLabel m.name (b.label initial r) b.config.delimiter := by
  have hfind : (services.map (b.label initial)).find? (breaksLine b.config.delimiter) =
      (services.find? fun r =>
        decide (¬ FitsLine b.config.delimiter (b.label initial r))).map (b.label initial) := by
    rw [List.find?_map]
    congr 2
    exact funext fun r => breaksLine_eq_decide _ _
  rw [checkLabels, hfind, exists_comm]
  simp only [exists_and_right, ← find?_eq_some_iff_firstAt]
  cases services.find? fun r =>
    decide (¬ FitsLine b.config.delimiter (b.label initial r)) <;> simp [eq_comm]

end MatrixBuilder

/-! ## The cells -/

namespace BehaviorModel

/-- A cell selects what a build finds for it. -/
theorem selects_iff {i j : ℕ} {t : MarkovTransition} :
    m.Selects services i j t ↔
      ∃ r column, services[i]? = some r ∧ (Column.all services)[j]? = some column ∧
        m.transitionBetween? r.id column = some t := by
  simp only [Selects, transitionBetween?_eq_some_iff]

/-- **A cell that a formatter does not write**, in the row of a service. -/
def Unwritten (m : BehaviorModel) (f : Formatter) (r : Service) (column : Column) : Prop :=
  ∃ t, m.transitionBetween? r.id column = some t ∧ f.format t.thinkTime = none

end BehaviorModel

namespace MatrixBuilder

/-- A cell fails for a think time that the formatter does not write. -/
theorem cell_eq_error_iff {found : Option MarkovTransition} :
    MatrixBuilder.cell m f found = .error e ↔
      ∃ t, found = some t ∧ f.format t.thinkTime = none ∧
        e = .unknownThinkTime m.name t.thinkTime.kind := by
  cases found with
  | none => simp [MatrixBuilder.cell]
  | some t =>
    rw [MatrixBuilder.cell]
    cases h : f.format t.thinkTime <;> simp [h, eq_comm]

theorem exists_cell_eq_error_iff {r : Service} {column : Column} :
    (∃ e, MatrixBuilder.cell m f (m.transitionBetween? r.id column) = .error e) ↔
      m.Unwritten f r column := by
  simp only [cell_eq_error_iff, BehaviorModel.Unwritten]
  constructor
  · rintro ⟨_, t, ht, hunknown, -⟩
    exact ⟨t, ht, hunknown⟩
  · rintro ⟨t, ht, hunknown⟩
    exact ⟨_, t, ht, hunknown, rfl⟩

/-- A row fails as its first cell that is not written. -/
theorem row_eq_error_iff {r : Service} :
    b.row services initial m f r = .error e ↔
      ∃ j column, FirstAt (m.Unwritten f r) (Column.all services) j column ∧
        MatrixBuilder.cell m f (m.transitionBetween? r.id column) = .error e := by
  have hrow : b.row services initial m f r = .error e ↔
      ((Column.all services).mapM fun column =>
        MatrixBuilder.cell m f (m.transitionBetween? r.id column)) = .error e := by
    rw [row, bind_eq_error_iff]
    simp [pure, Except.pure, BehaviorModel.transitionBetween?]
  rw [hrow, mapM_eq_error_iff_firstAt]
  simp only [exists_cell_eq_error_iff]

theorem exists_row_eq_error_iff {r : Service} :
    (∃ e, b.row services initial m f r = .error e) ↔
      ∃ column ∈ Column.all services, m.Unwritten f r column := by
  simp only [row_eq_error_iff]
  constructor
  · rintro ⟨_, j, column, hfirst, -⟩
    exact ⟨column, hfirst.mem, hfirst.holds⟩
  · rintro ⟨column, hcolumn, hunwritten⟩
    obtain ⟨j, column, hfirst⟩ := exists_firstAt hcolumn hunwritten
    obtain ⟨e, he⟩ := exists_cell_eq_error_iff.2 hfirst.holds
    exact ⟨e, j, column, hfirst, he⟩

/-- **The rows fail as the first cell that is not written**, row by row. -/
theorem rows_eq_error_iff :
    services.mapM (b.row services initial m f) = .error e ↔
      ∃ i j t, m.FirstUnwritten services f i j t ∧
        e = .unknownThinkTime m.name t.thinkTime.kind := by
  rw [mapM_eq_error_iff_firstAt]
  simp only [exists_row_eq_error_iff]
  constructor
  · rintro ⟨i, r, hrow, herror⟩
    obtain ⟨j, column, hcell, herror⟩ := row_eq_error_iff.1 herror
    obtain ⟨t, ht, hunknown, rfl⟩ := cell_eq_error_iff.1 herror
    refine ⟨i, j, t, ⟨BehaviorModel.selects_iff.2 ⟨r, column, hrow.member, hcell.member, ht⟩,
      hunknown, fun i' j' t' hbefore hselects hunknown' => ?_⟩, rfl⟩
    obtain ⟨r', column', hr', hcolumn', ht'⟩ := BehaviorModel.selects_iff.1 hselects
    have hunwritten : m.Unwritten f r' column' := ⟨t', ht', hunknown'⟩
    rcases hbefore with hlt | ⟨rfl, hlt⟩
    · exact hrow.fails i' hlt r' hr' ⟨column', List.mem_of_getElem? hcolumn', hunwritten⟩
    · obtain rfl : r = r' := Option.some.inj (hrow.member.symm.trans hr')
      exact hcell.fails j' hlt column' hcolumn' hunwritten
  · rintro ⟨i, j, t, ⟨hselects, hunknown, hbefore⟩, rfl⟩
    obtain ⟨r, column, hr, hcolumn, ht⟩ := BehaviorModel.selects_iff.1 hselects
    have hunwritten : m.Unwritten f r column := ⟨t, ht, hunknown⟩
    refine ⟨i, r, ⟨hr, ⟨column, List.mem_of_getElem? hcolumn, hunwritten⟩, ?_⟩,
      row_eq_error_iff.2 ⟨j, column, ⟨hcolumn, hunwritten, ?_⟩,
        cell_eq_error_iff.2 ⟨t, ht, hunknown, rfl⟩⟩⟩
    · rintro i' hlt r' hr' ⟨column', hmem, t', ht', hunknown'⟩
      obtain ⟨j', hj'⟩ := List.mem_iff_getElem?.1 hmem
      exact hbefore i' j' t' (.inl hlt)
        (BehaviorModel.selects_iff.2 ⟨r', column', hr', hj', ht'⟩) hunknown'
    · rintro j' hlt column' hcolumn' ⟨t', ht', hunknown'⟩
      exact hbefore i j' t' (.inr ⟨rfl, hlt⟩)
        (BehaviorModel.selects_iff.2 ⟨r, column', hr, hcolumn', ht'⟩) hunknown'

/-! ## The whole build -/

theorem checkLabels_eq_ok_iff_fitsLine :
    b.checkLabels m (services.map (b.label initial)) = .ok () ↔
      ∀ r ∈ services, FitsLine b.config.delimiter (b.label initial r) := by
  simp only [checkLabels_eq_ok_iff, List.forall_mem_map, breaksLine_eq_false_iff, FitsLine]

/-- **A build fails for the first need that is not met**, and for nothing else. -/
theorem build_eq_error_iff :
    b.build services initial m = .error e ↔ b.Refuses services initial m e := by
  rw [build, check_bind_eq_error_iff, check_bind_eq_error_iff, mapError_eq_error_iff,
    mapError_eq_ok_iff, bind_eq_error_iff, formatterFor_eq_error_iff]
  simp only [formatterFor_eq_ok_iff, check_bind_eq_error_iff, checkLabels_eq_error_iff,
    checkLabels_eq_ok_iff_fitsLine]
  simp only [bind_eq_error_iff, rows_eq_error_iff, pure, Except.pure, reduceCtorEq, and_false,
    exists_false, or_false]
  constructor
  · rintro (hlayout | ⟨hlayout, ⟨e, hinvalid, rfl⟩ | ⟨hvalid,
      (⟨hnone, rfl⟩ | ⟨t, ht, hget, rfl⟩) | ⟨f, hf, ⟨k, r, hfirst, rfl⟩ |
        ⟨hlabels, i, j, t, hfirst, rfl⟩⟩⟩⟩)
    · exact .layout hlayout
    · exact .invalid hlayout hinvalid
    · exact .noTransition hlayout hvalid hnone
    · exact .noFormatter hlayout hvalid ht hget
    · exact .label hlayout hvalid hf hfirst
    · exact .cell hlayout hvalid hf hlabels hfirst
  · intro h
    cases h with
    | layout hlayout => exact .inl hlayout
    | invalid hlayout hinvalid => exact .inr ⟨hlayout, .inl ⟨_, hinvalid, rfl⟩⟩
    | noTransition hlayout hvalid hnone =>
      exact .inr ⟨hlayout, .inr ⟨hvalid, .inl (.inl ⟨hnone, rfl⟩)⟩⟩
    | noFormatter hlayout hvalid ht hget =>
      exact .inr ⟨hlayout, .inr ⟨hvalid, .inl (.inr ⟨_, ht, hget, rfl⟩)⟩⟩
    | label hlayout hvalid hf hfirst =>
      exact .inr ⟨hlayout, .inr ⟨hvalid, .inr ⟨_, hf, .inl ⟨_, _, hfirst, rfl⟩⟩⟩⟩
    | cell hlayout hvalid hf hlabels hfirst =>
      exact .inr ⟨hlayout, .inr ⟨hvalid, .inr ⟨_, hf, .inr ⟨hlabels, _, _, _, hfirst, rfl⟩⟩⟩⟩

/-- A matrix is not refused for its file name. -/
theorem ne_duplicate_of_build_error (h : b.build services initial m = .error e)
    (name filename : String) : e ≠ .duplicateFilename name filename := by
  rintro rfl
  cases build_eq_error_iff.1 h with
  | layout hlayout =>
    obtain ⟨fault, hfault⟩ := MatrixConfig.exists_fault_of_validate hlayout
    cases hfault

/-- With a good layout it is not refused for the layout. -/
theorem ne_badLayout_of_build_error (hlayout : b.config.validate = .ok ())
    (h : b.build services initial m = .error e) (fault : LayoutFault) : e ≠ .badLayout fault := by
  rintro rfl
  cases build_eq_error_iff.1 h with
  | layout hfault => cases hlayout.symm.trans hfault

/-- What is refused lacks something. -/
theorem Refuses.not_buildable (h : b.Refuses services initial m e) :
    ¬ b.Buildable services initial m := by
  intro hneeds
  cases h with
  | layout hlayout => cases hneeds.layout.symm.trans hlayout
  | invalid _ hinvalid => cases hneeds.valid.symm.trans hinvalid
  | noTransition _ _ hnone =>
    obtain ⟨t, ht⟩ := hneeds.transition
    exact hnone t ht
  | noFormatter _ _ ht hnone =>
    obtain ⟨f, hf⟩ := hneeds.formatter _ ht
    cases hnone.symm.trans hf
  | label _ _ _ hfirst => exact hfirst.holds (hneeds.labels _ hfirst.mem)
  | cell _ _ hf _ hfirst => exact hneeds.thinkTimes _ hf _ _ _ hfirst.selects hfirst.unknown

/-- What is built lacks nothing: every cell has been written by the formatter. -/
theorem buildable_of_build {x : BehaviorMatrix} (h : b.build services initial m = .ok x) :
    b.Buildable services initial m := by
  obtain ⟨hlayout, hvalid, f, hf, hlabels, -⟩ := build_eq_ok_iff.1 h
  obtain ⟨t, ht, hget⟩ := chooses_iff.1 (formatterFor_eq_ok_iff.1 hf)
  refine ⟨hlayout, hvalid, ⟨t, ht⟩, fun t' ht' => ?_, fun r hr => ?_, fun f hf i j t hselects => ?_⟩
  · rw [ht'.unique ht]
    exact ⟨f, hget⟩
  · exact breaksLine_eq_false_iff.1 (hlabels r hr)
  · obtain ⟨r, column, hr, hcolumn, ht⟩ := BehaviorModel.selects_iff.1 hselects
    obtain ⟨row, -, hrow⟩ := exists_row_of_build h (formatterFor_eq_ok_iff.2 hf) hr
    obtain ⟨cell, -, hcell⟩ := exists_cell_of_row hrow hcolumn
    intro hunknown
    cases hcell.symm.trans (cell_eq_error_iff.2 ⟨t, ht, hunknown, rfl⟩)

theorem build_eq_ok_iff_buildable :
    (∃ x, b.build services initial m = .ok x) ↔ b.Buildable services initial m := by
  constructor
  · rintro ⟨x, h⟩
    exact buildable_of_build h
  · intro hneeds
    cases h : b.build services initial m with
    | ok x => exact ⟨x, rfl⟩
    | error e => exact absurd hneeds (build_eq_error_iff.1 h).not_buildable

end MatrixBuilder

/-! ## The built-in formatters -/

/-- Each of the two built-in formatters writes the think times of its family only. -/
theorem Formatters.cases_of_get?_builtIn {kind : ThinkTimeKind} (h : builtIn.get? kind = some f) :
    (f = .normal ∨ f = .uniform) ∧ ∀ x, f.format x ≠ none → x.kind = f.kind := by
  refine ⟨eq_of_get?_builtIn h, fun x hx => ?_⟩
  rcases eq_of_get?_builtIn h with rfl | rfl
  · cases x <;> first | rfl | exact absurd rfl hx
  · cases x <;> first | rfl | exact absurd rfl hx

namespace MatrixBuilder

/-- **The verdict of a build.** A matrix is built if and only if everything is there that it needs,
and else refused for the first thing that is not. With the built-in formatters all think times it
shows are of one family. The think times of transitions that no cell shows do not matter, but for
the choice of the formatter: so they may be anything, if the first transition of the initial state
keeps its family, or the same formatter is chosen. -/
theorem verdict_of_build (b : MatrixBuilder) (services : List Service) (initial : Option String)
    (m : BehaviorModel) :
    ((∃ x, b.build services initial m = .ok x) ↔ b.Buildable services initial m) ∧
      (∀ e, b.build services initial m = .error e ↔ b.Refuses services initial m e) ∧
      (b.formatters = .builtIn → ∀ x, b.build services initial m = .ok x →
        ∃ f, (f = .normal ∨ f = .uniform) ∧ b.Chooses m f ∧
          ∀ i j t, m.Selects services i j t → t.thinkTime.kind = f.kind) ∧
      ∀ τ, (∀ i k, m.ShownAt services i k → ∀ x, τ i k x = x) →
        (∀ i, m.initial = some i → ∀ x, (τ i 0 x).kind = x.kind) ∨
          (∃ f, b.Chooses m f ∧ b.Chooses (m.rethink τ) f) →
        b.build services initial (m.rethink τ) = b.build services initial m := by
  refine ⟨build_eq_ok_iff_buildable, fun e => build_eq_error_iff, fun hbuiltIn x h => ?_,
    fun τ hkeep hfirst => build_rethink hkeep ?_⟩
  · have hneeds := buildable_of_build h
    obtain ⟨t, ht⟩ := hneeds.transition
    obtain ⟨f, hget⟩ := hneeds.formatter t ht
    have hf : b.Chooses m f := chooses_iff.2 ⟨t, ht, hget⟩
    rw [hbuiltIn] at hget
    obtain ⟨hfamily, hkind⟩ := Formatters.cases_of_get?_builtIn hget
    exact ⟨f, hfamily, hf, fun i j t hselects => hkind _ (hneeds.thinkTimes f hf i j t hselects)⟩
  · obtain hkind | ⟨f, hf, hf'⟩ := hfirst
    · exact formatterFor_rethink hkind
    · rw [formatterFor_eq_ok_iff.2 hf, formatterFor_eq_ok_iff.2 hf']

/-- A model with think times of three families. Only those of the first one are shown: the way from
`b` to the exit is the second one, and the last state is the second one of `b`. -/
def detour : BehaviorModel where
  name := "detour"
  filename := "detour.csv"
  states := [
    ⟨"a", [⟨0.5, .state 1, .normal 3.0 1.0⟩, ⟨0.5, .exit, .normal 2.0 1.0⟩]⟩,
    ⟨"b", [⟨0.75, .exit, .normal 1.0 1.0⟩, ⟨0.25, .exit, .uniform 1.0 2.0⟩]⟩,
    ⟨"b", [⟨1.0, .state 0, .extension "zipf"⟩]⟩]
  initial := some 0

/-- A model with think times of two families that are shown. -/
def junction : BehaviorModel where
  name := "junction"
  filename := "junction.csv"
  states := [
    ⟨"a", [⟨0.5, .state 1, .normal 3.0 1.0⟩, ⟨0.5, .exit, .normal 2.0 1.0⟩]⟩,
    ⟨"b", [⟨0.75, .exit, .uniform 1.0 2.0⟩, ⟨0.25, .state 0, .extension "zipf"⟩]⟩]
  initial := some 0

/-- The first model is built, also with another think time in its last state. The second one is
refused in its last row, for the cell of the first column. -/
theorem verdict_of_build_detour :
    standard.Buildable [.named "a", .named "b"] (some "a") detour ∧
      (∃ f, (f = .normal ∨ f = .uniform) ∧ standard.Chooses detour f ∧
        ∀ i j t, detour.Selects [.named "a", .named "b"] i j t → t.thinkTime.kind = f.kind) ∧
      (∃ x, standard.build [.named "a", .named "b"] (some "a")
        (detour.rethink fun i _ x => if i = 2 then .extension "pareto" else x) = .ok x) ∧
      standard.Refuses [.named "a", .named "b"] (some "a") junction
        (.unknownThinkTime "junction" (.extension "zipf")) := by
  have hbuilt : (standard.build [.named "a", .named "b"] (some "a") detour).toOption.map
      (·.model) = some "detour" := by decide +kernel
  obtain ⟨x, hbuilt, -⟩ := exists_eq_ok_of_toOption_map hbuilt
  have hrefused : standard.build [.named "a", .named "b"] (some "a") junction =
      .error (.unknownThinkTime "junction" (.extension "zipf")) := rfl
  obtain ⟨hbuildable, -, hfamily, hrethink⟩ :=
    verdict_of_build standard [.named "a", .named "b"] (some "a") detour
  have hkeep : ∀ i k, detour.ShownAt [.named "a", .named "b"] i k → ∀ x : ThinkTime,
      (if i = 2 then .extension "pareto" else x) = x := by
    rintro i k ⟨r, -, column, -, s, t, hs, -⟩ x
    have hi : i ≠ 2 := by
      rintro rfl
      obtain rfl := Option.some.inj hs.member
      exact hs.fails 1 (by decide) _ rfl hs.holds
    exact if_neg hi
  refine ⟨hbuildable.1 ⟨x, hbuilt⟩, hfamily rfl x hbuilt, ⟨x, ?_⟩,
    ((verdict_of_build standard [.named "a", .named "b"] (some "a") junction).2.1 _).1 hrefused⟩
  have hkind : ∀ i, detour.initial = some i → ∀ x : ThinkTime,
      (if i = 2 then .extension "pareto" else x).kind = x.kind := by
    rintro i hi x
    cases hi
    rfl
  rw [hrethink _ hkeep (.inl hkind), hbuilt]

/-- A model that starts in the second state of its service, with a think time that no built-in
formatter knows. No cell shows that state. -/
def sidetrack : BehaviorModel where
  name := "sidetrack"
  filename := "sidetrack.csv"
  states := [
    ⟨"a", [⟨1.0, .exit, .normal 1.0 1.0⟩]⟩,
    ⟨"a", [⟨1.0, .state 0, .extension "zipf"⟩]⟩]
  initial := some 1

/-- **A transition that no cell shows is what the model is refused for**: with another think time in
its place the matrix is built. -/
theorem refused_sidetrack :
    (∀ k, ¬ sidetrack.ShownAt [.named "a"] 1 k) ∧
      standard.build [.named "a"] none sidetrack =
        .error (.unknownThinkTime "sidetrack" (.extension "zipf")) ∧
      ∃ x, standard.build [.named "a"] none
        (sidetrack.rethink fun i _ x => if i = 1 then .normal 1.0 1.0 else x) = .ok x := by
  have hbuilt : (standard.build [.named "a"] none (sidetrack.rethink fun i _ x =>
      if i = 1 then .normal 1.0 1.0 else x)).toOption.map (·.model) = some "sidetrack" := by
    decide +kernel
  obtain ⟨x, hbuilt, -⟩ := exists_eq_ok_of_toOption_map hbuilt
  refine ⟨?_, rfl, x, hbuilt⟩
  rintro k ⟨r, hr, column, -, s, t, hs, -⟩
  obtain rfl := List.mem_singleton.1 hr
  exact hs.fails 0 (by decide) _ rfl rfl

end MatrixBuilder

end LoadPlan
