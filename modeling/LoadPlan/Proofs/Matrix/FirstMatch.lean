import LoadPlan.Proofs.Decimal.Probability
import LoadPlan.Proofs.Matrix.Building
import Mathlib.Algebra.BigOperators.Group.List.Basic
import Mathlib.Algebra.Order.BigOperators.Group.List
import Mathlib.Tactic.Abel
/-!
# What the searches of a build pass over

A row is filled by two searches, each for the first of several: the first state of a service, and
its first transition into a column. `BehaviorModel.transitionBetween?` is both of them, and
`BehaviorModel.dropped` is what they pass over: second transitions into one column, and all
transitions of a second state. Whatever is declared for a service is found or passed over
(`mem_dropped_or_found`), and the weights of the two together are the weight of all
(`sum_found_add_sum_dropped`).
-/

namespace LoadPlan

/-! ## The first of several with one key -/

section Repeats

variable {α κ : Type} [DecidableEq κ] (key : α → κ)

/-- The members of a list whose key is one of `seen`, or the key of an earlier member. -/
def repeats (seen : List κ) : List α → List α
  | [] => []
  | a :: rest =>
    if key a ∈ seen then a :: repeats seen rest else repeats (key a :: seen) rest

variable {key} {seen : List κ} {l : List α}

theorem mem_of_mem_repeats {a : α} (h : a ∈ repeats key seen l) : a ∈ l := by
  induction l generalizing seen with
  | nil => cases h
  | cons b rest ih =>
    rw [repeats] at h
    split at h
    · rcases List.mem_cons.1 h with rfl | h
      · exact List.mem_cons_self ..
      · exact .tail _ (ih h)
    · exact .tail _ (ih h)

/-- A member is a repeat, or the first with its key. -/
theorem mem_repeats_or_find? {a : α} (h : a ∈ l) :
    a ∈ repeats key seen l ∨ (key a ∉ seen ∧ l.find? (fun b => key b = key a) = some a) := by
  induction l generalizing seen with
  | nil => cases h
  | cons b rest ih =>
    rw [repeats]
    by_cases hb : key b ∈ seen
    · rw [if_pos hb]
      rcases List.mem_cons.1 h with rfl | h
      · exact .inl (List.mem_cons_self ..)
      · refine (ih h).imp (.tail _) fun ⟨hnew, hfind⟩ => ⟨hnew, ?_⟩
        have hne : key b ≠ key a := fun heq => hnew (heq ▸ hb)
        rw [List.find?_cons_of_neg (by simpa using hne), hfind]
    · rw [if_neg hb]
      rcases List.mem_cons.1 h with rfl | h
      · exact .inr ⟨hb, by simp⟩
      · refine (ih h).imp_right fun ⟨hnew, hfind⟩ => ?_
        obtain ⟨hne, hnew⟩ := not_or.1 (List.mem_cons.not.1 hnew)
        exact ⟨hnew, by rw [List.find?_cons_of_neg (by simpa using Ne.symm hne), hfind]⟩

/-- Nothing is repeated if the keys are distinct and none was seen. -/
theorem repeats_eq_nil (hnodup : (l.map key).Nodup) (hseen : ∀ a ∈ l, key a ∉ seen) :
    repeats key seen l = [] := by
  induction l generalizing seen with
  | nil => rfl
  | cons a rest ih =>
    rw [List.map_cons, List.nodup_cons] at hnodup
    obtain ⟨ha, hrest⟩ := List.forall_mem_cons.1 hseen
    rw [repeats, if_neg ha]
    refine ih hnodup.2 fun b hb hmem => ?_
    rcases List.mem_cons.1 hmem with heq | hmem
    · exact hnodup.1 (heq ▸ List.mem_map_of_mem hb)
    · exact hrest b hb hmem

/-- The weight of the first member with a key. -/
def firstWeight (key : α → κ) (weight : α → ℚ) (l : List α) (k : κ) : ℚ :=
  ((l.find? fun a => key a = k).map weight).getD 0

variable (seen) in
/-- **First members and repeats together weigh as much as the list**, if its keys are among some
distinct ones. -/
theorem sum_firstWeight_add_sum_repeats (weight : α → ℚ) {keys : List κ} (hkeys : keys.Nodup)
    (hmem : ∀ a ∈ l, key a ∈ keys) :
    ((keys.filter (· ∉ seen)).map (firstWeight key weight l)).sum +
      ((repeats key seen l).map weight).sum = (l.map weight).sum := by
  induction l generalizing seen with
  | nil =>
    have hzero : firstWeight key weight [] = fun _ => 0 := rfl
    simp [hzero, repeats]
  | cons a rest ih =>
    obtain ⟨ha, hrest⟩ := List.forall_mem_cons.1 hmem
    have hother : ∀ ks : List κ, key a ∉ ks →
        ks.map (firstWeight key weight (a :: rest)) = ks.map (firstWeight key weight rest) := by
      refine fun ks hks => List.map_congr_left fun k hk => ?_
      have hne : key a ≠ k := fun heq => hks (heq ▸ hk)
      rw [firstWeight, firstWeight, List.find?_cons_of_neg (by simpa using hne)]
    rw [repeats]
    by_cases hseen : key a ∈ seen
    · rw [if_pos hseen, hother _ (by simp [hseen]), List.map_cons, List.map_cons, List.sum_cons,
        List.sum_cons, ← ih seen hrest]
      abel
    · -- the key leaves the ones that are still to be found, and its weight is the member's
      have hfirst : firstWeight key weight (a :: rest) (key a) = weight a := by
        simp [firstWeight]
      have hin : key a ∈ keys.filter (· ∉ seen) := by simp [ha, hseen]
      have hleft : (keys.filter (· ∉ seen)).erase (key a) =
          keys.filter (· ∉ key a :: seen) := by
        rw [(hkeys.filter _).erase_eq_filter, List.filter_filter]
        refine List.filter_congr fun k _ => ?_
        by_cases hk : k = key a <;> simp [hk]
      have hnot : key a ∉ keys.filter (· ∉ key a :: seen) := by simp
      rw [if_neg hseen, ← List.sum_map_erase _ hin, hleft, hother _ hnot, hfirst, List.map_cons,
        List.sum_cons, ← ih (key a :: seen) hrest]
      abel

end Repeats

/-! ## Columns -/

namespace Column

variable {model : BehaviorModel} {services : List Service}

/-- The column that a target leads into. -/
def ofTarget? (model : BehaviorModel) : Target → Option Column
  | .state i => (model.state? i).map fun s => .service s.service
  | .exit => some .exit

/-- A target leads into no other column. -/
theorem matchesTarget_eq (column : Column) (target : Target) :
    column.matchesTarget model target = decide (ofTarget? model target = some column) := by
  cases column with
  | exit =>
    cases target with
    | exit => rfl
    | state i => cases h : model.state? i <;> simp [matchesTarget, ofTarget?, h]
  | service id =>
    cases target with
    | exit => simp [matchesTarget, ofTarget?, BehaviorModel.targetService?]
    | state i =>
      cases h : model.state? i <;> simp [matchesTarget, ofTarget?, BehaviorModel.targetService?, h,
        Bool.beq_eq_decide_eq]

/-- Services with distinct ids have distinct columns. -/
theorem nodup_all (hids : (services.map (·.id)).Nodup) : (all services).Nodup := by
  have hservices : (services.map fun s => Column.service s.id).Nodup := by
    have hcolumns := hids.map (f := Column.service) fun _ _ h => by injection h
    rwa [List.map_map] at hcolumns
  refine List.nodup_append'.2 ⟨hservices, List.nodup_singleton _, ?_⟩
  simp

theorem service_mem_all {id : String} : .service id ∈ all services ↔ ∃ s ∈ services, s.id = id := by
  simp [all]

theorem exit_mem_all : .exit ∈ all services := by simp [all]

end Column

/-! ## Transitions found and passed over -/

namespace BehaviorModel

variable {m : BehaviorModel} {service : String}

/-- The transition that a build finds for a row and a column. -/
def transitionBetween? (m : BehaviorModel) (service : String) (column : Column) :
    Option MarkovTransition :=
  (m.stateForService? service).bind fun s => s.transitionInto? m column

/-- The states of a service. -/
def statesOf (m : BehaviorModel) (service : String) : List MarkovState :=
  m.states.filter fun s => s.service == service

/-- **The transitions that are declared for a service**, in all its states. -/
def declared (m : BehaviorModel) (service : String) : List MarkovTransition :=
  (m.statesOf service).flatMap (·.transitions)

/-- The column that a transition leads into. -/
def columnOf? (m : BehaviorModel) (t : MarkovTransition) : Option Column :=
  Column.ofTarget? m t.target

/-- **The transitions that no search finds**: those of the first state whose column an earlier one
leads into, and those of all further states. -/
def dropped (m : BehaviorModel) (service : String) : List MarkovTransition :=
  match m.statesOf service with
  | [] => []
  | s :: later => repeats m.columnOf? [] s.transitions ++ later.flatMap (·.transitions)

theorem mem_declared {t : MarkovTransition} :
    t ∈ m.declared service ↔ ∃ s ∈ m.states, s.service = service ∧ t ∈ s.transitions := by
  simp [declared, statesOf, and_assoc]

theorem stateForService?_eq : m.stateForService? service = (m.statesOf service).head? := by
  rw [stateForService?, statesOf, List.head?_filter]

/-- The first state of a service is searched by columns. -/
theorem transitionInto?_eq (s : MarkovState) (column : Column) :
    s.transitionInto? m column = s.transitions.find? fun t => m.columnOf? t = some column := by
  rw [MarkovState.transitionInto?]
  congr 1
  funext t
  exact Column.matchesTarget_eq column t.target

/-- What is passed over is declared. -/
theorem mem_declared_of_mem_dropped {t : MarkovTransition} (h : t ∈ m.dropped service) :
    t ∈ m.declared service := by
  rw [dropped] at h
  rw [declared]
  cases hstates : m.statesOf service with
  | nil => rw [hstates] at h; cases h
  | cons s later =>
    rw [hstates] at h
    rw [List.flatMap_cons]
    exact List.mem_append.2 ((List.mem_append.1 h).imp_left mem_of_mem_repeats)

/-- **What is declared is passed over, or found in its column.** -/
theorem mem_dropped_or_found {t : MarkovTransition} (h : t ∈ m.declared service) :
    t ∈ m.dropped service ∨
      ∀ column, m.columnOf? t = some column → m.transitionBetween? service column = some t := by
  rw [declared] at h
  simp only [dropped, transitionBetween?, stateForService?_eq]
  cases hstates : m.statesOf service with
  | nil => rw [hstates] at h; cases h
  | cons s later =>
    rw [hstates, List.flatMap_cons] at h
    rcases List.mem_append.1 h with h | h
    · refine (mem_repeats_or_find? h).imp (List.mem_append_left _) ?_
      rintro ⟨-, hfind⟩ column hcolumn
      rw [List.head?_cons, Option.bind_some, transitionInto?_eq, ← hcolumn]
      exact hfind
    · exact .inl (List.mem_append_right _ h)

/-- **Found and repeated, the transitions of a state weigh as much as all of them**, if each leads
into one of some distinct columns. -/
theorem sum_transitionInto?_add_sum_repeats (weight : MarkovTransition → ℚ) {columns : List Column}
    (hcolumns : columns.Nodup) {s : MarkovState}
    (hmem : ∀ t ∈ s.transitions, ∃ column ∈ columns, m.columnOf? t = some column) :
    (columns.map fun column => ((s.transitionInto? m column).map weight).getD 0).sum +
      ((repeats m.columnOf? [] s.transitions).map weight).sum =
        (s.transitions.map weight).sum := by
  have hkeys : (columns.map some).Nodup := hcolumns.map (Option.some_injective _)
  have hin : ∀ t ∈ s.transitions, m.columnOf? t ∈ columns.map some := by
    intro t ht
    obtain ⟨column, hcolumn, heq⟩ := hmem t ht
    exact heq ▸ List.mem_map_of_mem hcolumn
  have hfirst := sum_firstWeight_add_sum_repeats [] weight hkeys hin
  simp only [List.not_mem_nil, not_false_eq_true, decide_true, List.filter_true,
    List.map_map] at hfirst
  simp only [transitionInto?_eq]
  exact hfirst

/-- **Found and passed over, the transitions of a service weigh as much as all of them**, if each
leads into one of some distinct columns. -/
theorem sum_found_add_sum_dropped (weight : MarkovTransition → ℚ) {columns : List Column}
    (hcolumns : columns.Nodup)
    (hmem : ∀ t ∈ m.declared service, ∃ column ∈ columns, m.columnOf? t = some column) :
    (columns.map fun column => ((m.transitionBetween? service column).map weight).getD 0).sum +
      ((m.dropped service).map weight).sum = ((m.declared service).map weight).sum := by
  rw [declared] at hmem
  rw [dropped, declared]
  simp only [transitionBetween?, stateForService?_eq]
  cases hstates : m.statesOf service with
  | nil => simp
  | cons s later =>
    rw [hstates, List.flatMap_cons, List.forall_mem_append] at hmem
    have hfirst := sum_transitionInto?_add_sum_repeats weight hcolumns hmem.1
    simp only [List.head?_cons, Option.bind_some]
    rw [List.flatMap_cons, List.map_append, List.map_append, List.sum_append, List.sum_append,
      ← hfirst, ← add_assoc]

/-- Nothing is passed over if a service has one state at most, and a column one transition of each
state. -/
theorem dropped_eq_nil (hstates : (m.states.map (·.service)).Nodup)
    (hcolumns : ∀ s ∈ m.states, (s.transitions.map m.columnOf?).Nodup) :
    m.dropped service = [] := by
  rw [dropped]
  cases h : m.statesOf service with
  | nil => rfl
  | cons s later =>
    have hmem : ∀ r ∈ s :: later, r ∈ m.states ∧ r.service = service := by
      intro r hr
      simpa [← h, statesOf] using hr
    have hone : later = [] := by
      have hsub : ((s :: later).map (·.service)).Nodup := by
        rw [← h, statesOf]
        exact hstates.sublist (List.filter_sublist.map _)
      cases later with
      | nil => rfl
      | cons r rest =>
        rw [List.map_cons, List.map_cons, List.nodup_cons, List.mem_cons, not_or] at hsub
        exact absurd ((hmem s (by simp)).2.trans (hmem r (by simp)).2.symm) hsub.1.1
    have hfirst : repeats m.columnOf? [] s.transitions = [] :=
      repeats_eq_nil (hcolumns s (hmem s (by simp)).1) (by simp)
    simp [hone, hfirst]

end BehaviorModel

end LoadPlan
