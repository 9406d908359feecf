import LoadPlan.Proofs.Decimal.Fraction
import LoadPlan.Proofs.Matrix.Coverage
import LoadPlan.Proofs.Matrix.Shape
/-!
# Fractions in a matrix

A probability is to keep a fraction however small it is, and a cell writes it precisely. Precise
writing changes to exponents below `0.0001`, and they have no fraction where one digit is enough. So
the fraction is lost in the cells that show a lone digit, and only there
(`MatrixBuilder.fractions_kept_iff`).
-/

namespace LoadPlan

open Decimal (IsLoneDigit KeepsFraction)

/-- A written probability keeps a fraction unless it is a lone digit. -/
theorem Cell.keepsFraction_probability_iff {p : Float} (h : BehaviorModel.isProbability p) :
    KeepsFraction (probability p).toList ↔ ¬ IsLoneDigit p := by
  rw [probability, Decimal.Style.write, String.toList_ofList]
  exact Decimal.keepsFraction_precise_iff h

namespace BehaviorModel

/-- **A cell shows a lone digit**: it is the probability of the transition that feeds the cell. -/
def ShowsLoneDigit (m : BehaviorModel) (service : String) (column : Column) : Prop :=
  ∃ s k t, m.StandsFor service s ∧ m.Feeds s column k t ∧ IsLoneDigit t.probability

variable {m : BehaviorModel} {service : String} {column : Column}

theorem showsLoneDigit_iff : m.ShowsLoneDigit service column ↔
    ∃ t, m.transitionBetween? service column = some t ∧ IsLoneDigit t.probability := by
  simp only [transitionBetween?_eq_some_iff, ShowsLoneDigit]
  constructor
  · rintro ⟨s, k, t, hs, ht, hlone⟩
    exact ⟨t, ⟨s, k, hs, ht⟩, hlone⟩
  · rintro ⟨t, ⟨s, k, hs, ht⟩, hlone⟩
    exact ⟨s, k, t, hs, ht, hlone⟩

end BehaviorModel

namespace MatrixBuilder

variable {model : BehaviorModel} {services : List Service} {f : Formatter}

/-- The cell that is made of what a build finds keeps a fraction unless it shows a lone digit. -/
theorem keepsFraction_cell_iff (hmodel : model.validate services = .ok ()) {service : String}
    {column : Column} {cell : String}
    (h : MatrixBuilder.cell model f (model.transitionBetween? service column) = .ok cell) :
    KeepsFraction (Cell.probabilityPart cell) ↔ ¬ model.ShowsLoneDigit service column := by
  rw [BehaviorModel.showsLoneDigit_iff]
  rcases cell_eq_ok_iff.1 h with ⟨hnone, rfl⟩ | ⟨t, thinkTime, ht, -, rfl⟩
  · rw [Cell.probabilityPart_write, Decimal.keepsFraction_precise_iff (by decide)]
    have hzero : ¬ IsLoneDigit 0.0 := fun hlone => hlone.1 rfl
    simp [hnone, hzero]
  · have hprobability := BehaviorModel.isProbability_of_transitionBetween? hmodel ht
    rw [Cell.probabilityPart_write, Decimal.keepsFraction_precise_iff hprobability]
    simp [ht]

/-- **A probability keeps its fraction unless it is a lone digit**, both where it is written alone
and in the cells of all matrices that are built. -/
theorem fractions_kept_iff (b : MatrixBuilder) :
    (∀ p, BehaviorModel.isProbability p →
      (KeepsFraction (Cell.probability p).toList ↔ ¬ IsLoneDigit p)) ∧
    ∀ services initial model m, b.build services initial model = .ok m →
      ∀ (i : ℕ) s, services[i]? = some s → ∃ row, m.body[i]? = some row ∧
        ∀ (j : ℕ) column, (Column.all services)[j]? = some column →
          ∃ cell, row[j + 1]? = some cell ∧
            (KeepsFraction (Cell.probabilityPart cell) ↔
              ¬ model.ShowsLoneDigit s.id column) := by
  refine ⟨fun p => Cell.keepsFraction_probability_iff, fun services initial model m h i s hs => ?_⟩
  obtain ⟨-, hmodel, f, hf, -⟩ := build_eq_ok_iff.1 h
  obtain ⟨row, hrow, hmade⟩ := exists_row_of_build h hf hs
  refine ⟨row, hrow, fun j column hj => ?_⟩
  obtain ⟨cell, hcell, hshown⟩ := exists_cell_of_row hmade hj
  exact ⟨cell, hcell, keepsFraction_cell_iff hmodel hshown⟩

/-- A model that is hardly ever left, and then for `b` or for good. -/
def hermit : BehaviorModel where
  name := "hermit"
  filename := "hermit.csv"
  states := [
    ⟨"a", [⟨0.000015, .state 1, .normal 1.0 1.0⟩, ⟨0.00001, .exit, .normal 1.0 1.0⟩]⟩,
    ⟨"b", []⟩]
  initial := some 0

/-- Its matrix keeps the fraction of `1.5e-5`, and none of `1e-5`. -/
theorem fractions_kept_iff_hermit :
    BehaviorModel.isProbability 0.000015 ∧ Cell.probability 0.000015 = "1.5e-5" ∧
      ¬ IsLoneDigit 0.000015 ∧
      ∃ m, standard.build [.named "a", .named "b"] (some "a") hermit = .ok m ∧
        m.rows = [["", "a*", "b", "$"], ["a*", "0.0; n(0 0)", "1.5e-5; n(1 1)", "1e-5; n(1 1)"],
          ["b", "0.0; n(0 0)", "0.0; n(0 0)", "0.0; n(0 0)"]] ∧
        hermit.ShowsLoneDigit "a" .exit ∧
        ∃ row cell, m.body[0]? = some row ∧ row[3]? = some cell ∧
          ¬ KeepsFraction (Cell.probabilityPart cell) := by
  obtain ⟨halone, hcells⟩ := fractions_kept_iff standard
  have hrows : (standard.build [.named "a", .named "b"] (some "a") hermit).toOption.map (·.rows) =
      some [["", "a*", "b", "$"], ["a*", "0.0; n(0 0)", "1.5e-5; n(1 1)", "1e-5; n(1 1)"],
        ["b", "0.0; n(0 0)", "0.0; n(0 0)", "0.0; n(0 0)"]] := by decide +kernel
  have hprobability : BehaviorModel.isProbability 0.000015 := by decide
  have htext : Cell.probability 0.000015 = "1.5e-5" := by decide +kernel
  have hkept : KeepsFraction "1.5e-5".toList := ⟨[], '1', '5', ['e', '-', '5'], rfl, rfl, rfl⟩
  have hfound : hermit.transitionBetween? "a" .exit = some ⟨0.00001, .exit, .normal 1.0 1.0⟩ := rfl
  have hlone : hermit.ShowsLoneDigit "a" .exit := BehaviorModel.showsLoneDigit_iff.2
    ⟨_, hfound, by decide, 1, 5, by decide, by decide, by decide +kernel⟩
  obtain ⟨m, hbuilt, hrows⟩ := exists_eq_ok_of_toOption_map hrows
  obtain ⟨row, hrow, hrowCells⟩ := hcells _ _ _ m hbuilt 0 (.named "a") rfl
  obtain ⟨cell, hcell, hiff⟩ := hrowCells 2 .exit rfl
  refine ⟨hprobability, htext, (halone _ hprobability).1 (htext ▸ hkept), m, hbuilt, hrows, hlone,
    row, cell, hrow, hcell, fun hkeeps => hiff.1 hkeeps hlone⟩

/-- **A probability can lose its fraction.** -/
theorem fraction_lost_hundredThousandth :
    BehaviorModel.isProbability 0.00001 ∧ Cell.probability 0.00001 = "1e-5" ∧
      ¬ KeepsFraction (Cell.probability 0.00001).toList := by
  have htext : Cell.probability 0.00001 = "1e-5" := by decide +kernel
  refine ⟨by decide, htext, fun hkept => ?_⟩
  rw [htext] at hkept
  exact absurd hkept.mem (by decide)

end MatrixBuilder

end LoadPlan
